import IspcShader.File.Path

/-!
Why a file could not be read or written, and the operations through which a program reaches files.
-/
namespace IspcShader

inductive FileFault where
  | notFound
  | isDirectory
  | notDirectory
  /-- A component, or the path as a whole, has too many bytes. -/
  | nameTooLong
  | nulInPath
  | notText
  | other (reason : Text)
  deriving DecidableEq, Repr

def FileFault.message : FileFault → Text
  | notFound => "No such file or directory (os error 2)"
  | isDirectory => "Is a directory (os error 21)"
  | notDirectory => "Not a directory (os error 20)"
  | nameTooLong => "File name too long (os error 36)"
  | nulInPath => "file name contained an unexpected NUL byte"
  | notText => "stream did not contain valid UTF-8"
  | other reason => reason

/-- Reading a whole text file, and writing one anew. The header file that comes with the program is
read by itself; where it lies is fixed when the program is installed. -/
structure FileAccess (m : Type → Type) where
  read : Path → m (Except FileFault Text)
  write : Path → Text → m (Except FileFault Unit)
  bundledPath : Path
  readBundled : m (Except FileFault Text)

end IspcShader
