import IspcShader.Compilation.Draft
import IspcShader.Vector.Lowering

/-!
The step from line to line, and the run over all lines of a shader.
-/
namespace IspcShader.Compilation

/-- What compiling some lines gives: the state after them, the generated lines and the events. -/
structure Outcome where
  state : State
  lines : List Text := []
  events : List Event := []
  deriving DecidableEq, Repr

def originComment (source : NumberedLine) : Text :=
  "//line " ++ Text.ofNat source.number

namespace Draft

def close (source : NumberedLine) (draft : Draft) : Outcome where
  state := { draft.state with mode := draft.state.mode.close }
  lines := [originComment source, Lowering.lower draft.line]
  events := draft.events

/-- Hands the line out. An expanded declaration is followed by its origin. -/
def emit (source : NumberedLine) (draft : Draft) : Outcome where
  state := draft.state
  lines := draft.accessors ++ [Lowering.lower draft.line] ++
    if draft.accessors.isEmpty then [] else [originComment source]
  events := draft.events

/-- The rules of struct blocks, given what the member rule makes of the line. Inside a struct a line
may be dropped or be the end of the struct, and is done with; any other goes on to the rules
behind. -/
def passBlock {α : Type} (source : NumberedLine) (draft : Draft) (member? : Option Draft)
    (done : Outcome → α) (goOn : Draft → α) : α :=
  if draft.state.mode.isInside then
    match member? with
    | none => done { state := draft.state, events := draft.events }
    | some draft =>
      if Marker.closesStruct source.text then done (draft.close source) else goOn draft
  else goOn draft

def finish (job : Job) (source : NumberedLine) (draft : Draft) : Outcome :=
  draft |>.declareResource job source |>.declareShared source |>.enter job source
    |>.hideHint source |>.emit source

end Draft

/-- Compiles one line. Line directives are dropped; inside a struct, members and the closing brace
come before all other rules. -/
def step (job : Job) (state : State) (source : NumberedLine) : Outcome :=
  if Marker.isDirective source.text then { state }
  else
    let draft := Draft.openStruct job source { state, line := source.text }
    draft.passBlock source (draft.member? job source) id (·.finish job source)

def run (job : Job) (state : State) : List NumberedLine → Outcome
  | [] => { state }
  | source :: rest =>
    let first := step job state source
    let others := run job first.state rest
    { state := others.state
      lines := first.lines ++ others.lines
      events := first.events ++ others.events }

@[simp] theorem run_nil (job : Job) (state : State) : run job state [] = { state } := rfl

theorem run_append (job : Job) (state : State) (front back : List NumberedLine) :
    run job state (front ++ back) =
      { state := (run job (run job state front).state back).state
        lines := (run job state front).lines ++ (run job (run job state front).state back).lines
        events :=
          (run job state front).events ++ (run job (run job state front).state back).events } := by
  induction front generalizing state with
  | nil => simp [run]
  | cons source rest ih => simp [run, ih]

end IspcShader.Compilation
