import IspcShader.File.Path
import IspcShader.Text.Lines

/-!
What is to be compiled: a preprocessed shader, the binary it becomes part of, and the choices of
the caller.
-/
namespace IspcShader

inductive Stage where
  | vert
  | frag
  | comp
  | geom
  | tesc
  | tese
  deriving DecidableEq, Repr

def Stage.name : Stage → Text
  | vert => "VERT"
  | frag => "FRAG"
  | comp => "COMP"
  | geom => "GEOM"
  | tesc => "TESC"
  | tese => "TESE"

/-- Optional capabilities of a shader binary, one per bit; unknown bits are kept. -/
structure Capabilities where
  bits : UInt32 := 0
  deriving DecidableEq, Repr

/-- Bit 0: the position output is the same, bit for bit, in every invocation. -/
def Capabilities.invariant : Capabilities := ⟨1⟩

def Capabilities.isInvariant (capabilities : Capabilities) : Bool :=
  capabilities.bits &&& invariant.bits != 0

/-- The wave intrinsics a shader uses, one per bit. Only none and some are told apart. -/
structure WaveOps where
  bits : UInt32 := 0
  deriving DecidableEq, Repr

def WaveOps.basic : WaveOps := ⟨1⟩

def WaveOps.any (ops : WaveOps) : Bool :=
  ops.bits != 0

/-- One preprocessed line and where it comes from. File 0 is the shader itself. -/
structure NumberedLine where
  file : Nat
  number : Nat
  text : Text
  deriving DecidableEq, Repr

def NumberedLine.ofText (text : Text) : List NumberedLine :=
  (Text.lines text).zipIdx.map fun (line, index) => ⟨0, index + 1, line⟩

structure Parameter where
  type : Text
  var : Text
  deriving DecidableEq, Repr

/-- A preprocessed shader. `returnType` is missing for an entry point that returns nothing. -/
structure Shader where
  name : Text
  stage : Stage
  returnType : Option Text := none
  waveOps : WaveOps := {}
  structParams : List Parameter := []
  builtinParams : List Parameter := []
  lines : List NumberedLine := []
  deriving DecidableEq, Repr

/-- Whether a struct of this name is passed to or returned from the entry point. -/
def Shader.isInterface (shader : Shader) (name : Text) : Bool :=
  (shader.structParams.any fun param => decide (param.type = name)) ||
    decide (shader.returnType = some name)

/-- The binary that a shader is built into. `source` is the path of its preprocessed ISPC source,
if it has one; `waveOps` is filled in from the shader when the source is generated. -/
structure Binary where
  filename : Text
  capabilities : Capabilities := {}
  source : Option Path := none
  waveOps : WaveOps := {}
  deriving DecidableEq, Repr

def Binary.mangleChar (c : Char) : Char :=
  if c.isAlphanum then c.toUpper else '_'

/-- The file name up to its first dot, in upper case. -/
def Binary.mangle (binary : Binary) : Text :=
  (binary.filename.takeWhile (· != '.')).map mangleChar

inductive ResourcePolicy where
  /-- The declaration is commented out. -/
  | comment
  /-- The declaration becomes a handle at file scope, which the dispatch wrapper binds. -/
  | alias
  deriving DecidableEq, Repr

structure Options where
  policy : ResourcePolicy := .alias
  /-- Whether the binary's name is appended to the exported entry name. -/
  mangleEntry : Bool := true
  deriving DecidableEq, Repr

/-- One compilation: everything that is fixed while the lines go by. -/
structure Job where
  shader : Shader
  binary : Binary
  options : Options
  deriving DecidableEq, Repr

def Job.mangle? (job : Job) : Option Text :=
  if job.options.mangleEntry then some job.binary.mangle else none

end IspcShader
