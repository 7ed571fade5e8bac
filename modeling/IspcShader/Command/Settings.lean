import IspcShader.Compilation.Build
import IspcShader.Text.Blank
import IspcShader.Text.Quoted

/-!
The settings of a run, and what running them does: the input is read and checked, then the source is
built. The checks stand in a fixed order, and the first fault ends the run before anything is
written.
-/
namespace IspcShader.Command

/-- What a command line asks for. Paths are taken as they come, and parameters as they are
written. -/
structure Settings where
  input : Path
  output : Path
  stage : Stage
  returnType : Option Text
  structParams : List Text
  builtinParams : List Text
  invariant : Bool
  waveOps : Bool
  policy : ResourcePolicy
  keepName : Bool
  header : Option Path
  deriving DecidableEq, Repr

inductive RunError where
  | readInput (path : Path) (fault : FileFault)
  /-- The output path names no file, or one whose name is no text. -/
  | invalidOutput (path : Path)
  | invalidParam (param : Text)
  | loadHeader (error : BuildError)
  | build (input : Path) (error : BuildError)
  deriving DecidableEq, Repr

/-- An error of a build with its cause told once more behind it. -/
def explain (error : BuildError) : Text :=
  match error.cause? with
  | some fault => error.message ++ ": " ++ fault.message
  | none => error.message

def RunError.message : RunError → Text
  | readInput path fault => "read " ++ path.display ++ ": " ++ fault.message
  | invalidOutput path => "invalid output path " ++ path.display
  | invalidParam param => "invalid parameter " ++ Text.quoted param ++ ": expected TYPE:VAR"
  | loadHeader error => explain error
  | build input error => "translate " ++ input.display ++ ": " ++ explain error

def cutLastColon? (text : Text) : Option (Text × Text) :=
  match text.reverse.dropWhile (· != ':') with
  | [] => none
  | _ :: front => some (front.reverse, (text.reverse.takeWhile (· != ':')).reverse)

/-- A parameter written as `TYPE:VAR`, where the last colon counts and both parts hold more than
blanks. -/
def param? (written : Text) : Option Parameter := do
  let (type, var) ← cutLastColon? written
  let param : Parameter := ⟨Text.trim type, Text.trim var⟩
  if param.type.isEmpty || param.var.isEmpty then none else some param

def readParams : List Text → Except RunError (List Parameter)
  | [] => .ok []
  | written :: rest => do
    let some param := param? written | throw (.invalidParam written)
    return param :: (← readParams rest)

/-- The name of the output file, if it is text. -/
def Settings.outputName? (settings : Settings) : Option Text :=
  settings.output.fileName?.bind Text.ofUtf8?

def Settings.job (settings : Settings) (text : Text) : Except RunError Job := do
  let some name := settings.outputName? | throw (.invalidOutput settings.output)
  let structParams ← readParams settings.structParams
  let builtinParams ← readParams settings.builtinParams
  return {
    shader :=
      { name
        stage := settings.stage
        returnType := settings.returnType
        waveOps := if settings.waveOps then .basic else {}
        structParams, builtinParams
        lines := NumberedLine.ofText text }
    binary :=
      { filename := name
        capabilities := if settings.invariant then .invariant else {}
        source := some settings.input }
    options := { policy := settings.policy, mangleEntry := !settings.keepName } }

variable {m : Type → Type} [Monad m]

def Settings.loadHeader (settings : Settings) (files : FileAccess m) :
    m (Except BuildError Header) :=
  match settings.header with
  | some path => Header.load files path
  | none => Header.loadBundled files

def Settings.buildJob (settings : Settings) (files : FileAccess m) (job : Job) :
    m (Except RunError Unit) := do
  match ← settings.loadHeader files with
  | .error error => return .error (.loadHeader error)
  | .ok header =>
    let built ← build files job header settings.output
    match built.result with
    | .error error => return .error (.build settings.input error)
    | .ok _ => return .ok ()

def Settings.run (settings : Settings) (files : FileAccess m) : m (Except RunError Unit) := do
  match ← files.read settings.input with
  | .error fault => return .error (.readInput settings.input fault)
  | .ok text =>
    match settings.job text with
    | .error error => return .error error
    | .ok job => settings.buildJob files job

end IspcShader.Command
