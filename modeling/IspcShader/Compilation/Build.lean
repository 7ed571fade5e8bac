import IspcShader.Compilation.Basic
import IspcShader.File.Fault

/-!
Building the source file of a binary: its shader is compiled and written to a path.
-/
namespace IspcShader

inductive BuildError where
  | missingSource (filename : Text)
  | readHeader (path : Path) (fault : FileFault)
  | writeOutput (path : Path) (fault : FileFault)
  deriving DecidableEq, Repr

namespace BuildError

def message : BuildError → Text
  | missingSource filename => "shader binary `" ++ filename ++ "` has no preprocessed ISPC source"
  | readHeader path fault =>
    "failed to read native header " ++ path.display ++ ": " ++ fault.message
  | writeOutput path fault => "failed to write " ++ path.display ++ ": " ++ fault.message

def cause? : BuildError → Option FileFault
  | missingSource _ => none
  | readHeader _ fault | writeOutput _ fault => some fault

end BuildError

/-- What a build answers: the exit code and the files that the output depends on. -/
structure Receipt where
  code : Nat
  dependencies : List Path
  deriving DecidableEq, Repr

structure Build where
  binary : Binary
  result : Except BuildError Receipt
  events : List Event

variable {m : Type → Type} [Monad m]

def Header.ofFile (path : Path) : Except FileFault Text → Except BuildError Header
  | .ok text => .ok ⟨text⟩
  | .error fault => .error (.readHeader path fault)

def Header.load (files : FileAccess m) (path : Path) : m (Except BuildError Header) := do
  return ofFile path (← files.read path)

def Header.loadBundled (files : FileAccess m) : m (Except BuildError Header) := do
  return ofFile files.bundledPath (← files.readBundled)

/-- Compiles a shader and writes the source. The binary takes over the shader's wave operations,
also when writing fails; without a preprocessed source nothing happens. -/
def build (files : FileAccess m) (job : Job) (header : Header) (path : Path) : m Build := do
  if job.binary.source.isNone then
    return ⟨job.binary, .error (.missingSource job.binary.filename), []⟩
  else
    let binary := { job.binary with waveOps := job.shader.waveOps }
    let compiled := compile { job with binary } header
    match ← files.write path compiled.source with
    | .ok () =>
      return ⟨binary, .ok ⟨0, []⟩,
        compiled.events ++ [.written path.display compiled.resources.length]⟩
    | .error fault => return ⟨binary, .error (.writeOutput path fault), compiled.events⟩

end IspcShader
