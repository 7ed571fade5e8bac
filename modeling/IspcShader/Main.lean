import IspcShader.Command.Run

/-!
The command line program: arguments and files of the system, and the exit code.
-/
namespace IspcShader.Command

/-- An error number, which the system may report with its sign turned. -/
def errorNumber (code : UInt32) : Nat :=
  if code.toNat < 0x80000000 then code.toNat else UInt32.size - code.toNat

def faultOfCode (code : UInt32) (reason : String) : FileFault :=
  match errorNumber code with
  | 2 => .notFound
  | 20 => .notDirectory
  | 21 => .isDirectory
  | 36 => .nameTooLong
  | number => .other (reason ++ " (os error " ++ toString number ++ ")")

def faultOfError : IO.Error → FileFault
  | .noFileOrDirectory _ code reason => faultOfCode code reason
  | .inappropriateType _ code reason => faultOfCode code reason
  | .permissionDenied _ code reason => faultOfCode code reason
  | .invalidArgument _ code reason => faultOfCode code reason
  | .illegalOperation code reason => faultOfCode code reason
  | error => .other (toString error)

/-- Runs an action on a path that is text; the system is not asked for any other. -/
def withText {α : Type} (path : Path) (action : String → IO (Except FileFault α)) :
    IO (Except FileFault α) := do
  match Text.ofUtf8? path.bytes with
  | none => return .error (.other "path is not valid UTF-8")
  | some text =>
    try action (String.ofList text)
    catch error => return .error (faultOfError error)

def systemFiles : FileAccess IO where
  read path := withText path fun name => do
    match Text.ofUtf8? (← IO.FS.readBinFile name).toList with
    | some text => return .ok text
    | none => return .error .notText
  write path text := withText path fun name => do
    IO.FS.writeFile name (String.ofList text)
    return .ok ()
  bundledPath := ("includes/ispc.h" : Text)
  readBundled := return .ok Header.bundled.text

def usage : String :=
  String.intercalate "\n"
    ["Usage: ispc-shader [OPTIONS] --output <PATH> <INPUT>",
     "",
     "Options:",
     "  -o, --output <PATH>",
     "      --stage <vert|frag|comp|geom|tesc|tese>",
     "      --return-type <TYPE>",
     "      --struct-arg <TYPE:VAR>",
     "      --flat-arg <TYPE:VAR>",
     "      --invariant",
     "      --waveops",
     "      --resource-emission <comment|alias>",
     "      --no-mangle",
     "      --header <PATH>",
     "  -h, --help",
     ""]

end IspcShader.Command

open IspcShader.Command in
def main (args : List String) : IO UInt32 := do
  let exit ← run systemFiles (args.map String.toList)
  match exit with
  | .help => IO.print usage
  | .usage => IO.eprint usage
  | .failure _ => IO.eprint (String.ofList exit.complaint)
  | .success => pure ()
  return exit.code.toUInt32
