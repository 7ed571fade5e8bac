import IspcShader.Compilation.Header
import IspcShader.Compilation.Step

/-!
Compiling a whole shader: the prologue with the native header, the lines, and the dispatch wrapper.
-/
namespace IspcShader

/-- A compiled shader. The resources are in the order of their declarations. -/
structure Compiled where
  source : Text
  resources : List Resource
  entry : Option EntryPoint
  events : List Event
  deriving DecidableEq, Repr

namespace Compilation

def unlines (lines : List Text) : Text :=
  lines.flatMap (· ++ "\n")

/-- The place that the first line names: the preprocessed source, or else the shader itself. -/
def originName (job : Job) : Text :=
  match job.binary.source with
  | some path => path.display
  | none => job.shader.name

def waveLines (ops : WaveOps) : List Text :=
  if ops.any then ["#define ENABLE_WAVEOPS(flags)"] else []

def titleLines (job : Job) : List Text :=
  ["// " ++ job.shader.name ++ " shader generated for ISPC from " ++ originName job,
   "#define STAGE_" ++ job.shader.stage.name] ++ waveLines job.shader.waveOps

def prologue (job : Job) (header : Header) : List Text :=
  titleLines job ++ header.lines ++ [[]]

def wrapperLines : Option EntryPoint → List Text
  | some entry => entry.wrapper.map Lowering.lower
  | none => []

def entryEvents (shader : Shader) : Option EntryPoint → List Event
  | some _ => []
  | none => [.noEntry shader.name]

end Compilation

open Compilation

def Compiled.ofBody (job : Job) (header : Header) (body : Outcome) : Compiled :=
  { source := unlines (prologue job header ++ body.lines ++ wrapperLines body.state.entry)
    resources := body.state.resources
    entry := body.state.entry
    events := body.events ++ entryEvents job.shader body.state.entry }

def compile (job : Job) (header : Header) : Compiled :=
  .ofBody job header (run job {} job.shader.lines)

end IspcShader
