import Mathlib.Data.List.Forall2
import IspcShader.Proofs.Compilation.SourceLines

/-!
Two compilations of the same lines, side by side. What relates their states in front of every line
also relates them in the end, and whatever holds of the two blocks of each line holds all along the
sources.
-/
namespace IspcShader.Compilation

/-- Two jobs that each line leads from related states to related states, with the same events. -/
def Lockstep (job other : Job) (R : State → State → Prop) : Prop :=
  ∀ (state state' : State) (source : NumberedLine), R state state' →
    R (step job state source).state (step other state' source).state ∧
      (step other state' source).events = (step job state source).events

namespace Lockstep

variable {job other : Job} {R : State → State → Prop} {state state' : State}

theorem state_run (h : Lockstep job other R) (start : R state state') (lines : List NumberedLine) :
    R (run job state lines).state (run other state' lines).state := by
  induction lines generalizing state state' with
  | nil => exact start
  | cons source rest ih => exact ih (h _ _ source start).1

theorem events_run (h : Lockstep job other R) (start : R state state') (lines : List NumberedLine) :
    (run other state' lines).events = (run job state lines).events := by
  induction lines generalizing state state' with
  | nil => rfl
  | cons source rest ih =>
    obtain ⟨next, same⟩ := h _ _ source start
    rw [run, run]
    dsimp only
    rw [same, ih next]

theorem forall₂_blocks {B : List Text → List Text → Prop} (h : Lockstep job other R)
    (each : ∀ (state state' : State) (source : NumberedLine), R state state' →
      B (step job state source).lines (step other state' source).lines)
    (start : R state state') (lines : List NumberedLine) :
    List.Forall₂ B (blocks job state lines) (blocks other state' lines) := by
  induction lines generalizing state state' with
  | nil => exact .nil
  | cons source rest ih => exact .cons (each _ _ source start) (ih (h _ _ source start).1)

end Lockstep

end IspcShader.Compilation
