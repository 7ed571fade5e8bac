import Mathlib.Data.PFun
import Mathlib.Logic.Relation
import IspcShader.Proofs.Text.Search
import IspcShader.Proofs.Text.Slice

/-!
A search as a loop. In each turn the loop looks for the nearest occurrence ahead and then ends with
a result, or goes on behind the occurrence. For a needle that is not empty each turn gets further on
in the text, so the loop comes to an end; for the empty needle no turn gets anywhere, and the loop
ends in its first turn or never.
-/
namespace IspcShader

section Provided

variable {α β : Type} {ends : Prop} {result : α}

/-- A result that there is if something comes to an end. -/
def provided (ends : Prop) (result : α) : Part α :=
  ⟨ends, fun _ => result⟩

theorem provided_of (holds : ends) : provided ends result = Part.some result :=
  Part.ext' (iff_of_true holds trivial) fun _ _ => rfl

theorem provided_of_not (fails : ¬ ends) : provided ends result = Part.none :=
  Part.eq_none_iff'.mpr fails

theorem provided_congr {other : Prop} (same : ends ↔ other) :
    provided ends result = provided other result := by
  rw [propext same]

theorem map_provided (f : α → β) : (provided ends result).map f = provided ends (f result) := rfl

/-- One thing after the other: the second has to end for the result of the first only. -/
theorem bind_provided {more : α → Prop} {f : α → β} :
    ((provided ends result).bind fun result => provided (more result) (f result)) =
      provided (ends ∧ more result) (f result) := by
  refine Part.ext' ?_ fun _ _ => rfl
  rw [Part.bind_dom]
  change (∃ _ : ends, more result) ↔ ends ∧ more result
  exact exists_prop

end Provided

namespace Text

def Cursor.offset (place : Cursor) : Nat :=
  byteLength place.passed

theorem cut?_nil (text : Text) : cut? [] text = some ([], text) := by
  cases text <;> rfl

/-- A loop over the occurrences of a needle. An occurrence may end it, with or without something
found; where no occurrence is left, it ends with nothing found. -/
structure SearchLoop (α : Type) where
  needle : Text
  verdict? : Occurrence → Option (Option α)

namespace SearchLoop

variable {α : Type} (loop : SearchLoop α)

def turn (place : Cursor) : Option α ⊕ Cursor :=
  match place.next? loop.needle with
  | none => .inl none
  | some found =>
    match loop.verdict? found with
    | some result => .inl result
    | none => .inr (found.resume loop.needle)

def Resumes (place next : Cursor) : Prop :=
  loop.turn place = .inr next

def Reaches (text : Text) (place : Cursor) : Prop :=
  Relation.ReflTransGen loop.Resumes ⟨[], text⟩ place

/-- The result of turn after turn. It is not defined where there is always another turn. -/
def runFrom : Cursor →. Option α :=
  PFun.fix (PFun.lift loop.turn)

def run (text : Text) : Part (Option α) :=
  loop.runFrom ⟨[], text⟩

/-- Each turn that does not end the loop gets further on, and no further than the text goes. -/
def Advances (text : Text) : Prop :=
  ∀ place next, loop.Reaches text place → loop.Resumes place next →
    place.offset < next.offset ∧ next.offset ≤ byteLength text ∧ next.passed ++ next.ahead = text

/-- The loop never leaves the start of the text, and takes turn after turn there. -/
def Stays (text : Text) : Prop :=
  ∀ place, loop.Reaches text place → place = ⟨[], text⟩ ∧ loop.Resumes place place

/-- The loop has a needle, or ends at the start of the text. -/
def Ends (text : Text) : Prop :=
  loop.needle = [] → loop.verdict? ⟨[], text⟩ ≠ none

def resultOf (sites : List Occurrence) : Option α :=
  (sites.findSome? loop.verdict?).join

theorem resultOf_cons (found : Occurrence) (rest : List Occurrence) :
    loop.resultOf (found :: rest) = (loop.verdict? found).getD (loop.resultOf rest) := by
  rw [resultOf, List.findSome?_cons]
  cases loop.verdict? found <;> rfl

variable {loop} {place next : Cursor} {text : Text}

theorem resumes_iff :
    loop.Resumes place next ↔
      ∃ found, place.next? loop.needle = some found ∧ loop.verdict? found = none ∧
      found.resume loop.needle = next := by
  unfold Resumes turn
  cases near : place.next? loop.needle with
  | none => simp
  | some found => cases verdict : loop.verdict? found <;> simp [verdict]

theorem Resumes.append (resumes : loop.Resumes place next) :
    next.passed ++ next.ahead = place.passed ++ place.ahead := by
  obtain ⟨found, near, -, rfl⟩ := resumes_iff.mp resumes
  exact Cursor.append_of_next? near

theorem Resumes.exists_passed (resumes : loop.Resumes place next) :
    ∃ between, next.passed = place.passed ++ between ++ loop.needle := by
  obtain ⟨found, near, -, rfl⟩ := resumes_iff.mp resumes
  obtain ⟨⟨before, after⟩, -, rfl⟩ := Option.map_eq_some_iff.mp near
  exact ⟨before, rfl⟩

theorem Resumes.offset_lt (nonempty : loop.needle ≠ []) (resumes : loop.Resumes place next) :
    place.offset < next.offset := by
  obtain ⟨between, passed⟩ := resumes.exists_passed
  have positive := byteLength_pos nonempty
  simp only [Cursor.offset, passed, byteLength_append]
  omega

theorem Resumes.length_ahead_lt (nonempty : loop.needle ≠ []) (resumes : loop.Resumes place next) :
    next.ahead.length < place.ahead.length := by
  obtain ⟨between, passed⟩ := resumes.exists_passed
  have positive := List.length_pos_iff.mpr nonempty
  have whole := congrArg List.length resumes.append
  have lengths := congrArg List.length passed
  simp only [List.length_append] at whole lengths
  omega

theorem Reaches.append (reached : loop.Reaches text place) :
    place.passed ++ place.ahead = text := by
  induction reached with
  | refl => rfl
  | tail _ resumes ih => exact resumes.append.trans ih

theorem Reaches.offset_le (reached : loop.Reaches text place) : place.offset ≤ byteLength text := by
  rw [← reached.append, byteLength_append]
  exact Nat.le_add_right _ _

theorem advances_of_ne_nil (nonempty : loop.needle ≠ []) (text : Text) : loop.Advances text := by
  intro place next reached resumes
  have later : loop.Reaches text next := reached.tail resumes
  exact ⟨resumes.offset_lt nonempty, later.offset_le, later.append⟩

section Run

theorem mem_lift {turned : Option α ⊕ Cursor} :
    turned ∈ PFun.lift loop.turn place ↔ turned = loop.turn place :=
  Part.mem_some_iff

theorem runFrom_of_inl {result : Option α} (ended : loop.turn place = .inl result) :
    loop.runFrom place = Part.some result :=
  Part.eq_some_iff.mpr (PFun.fix_stop (mem_lift.mpr ended.symm))

theorem runFrom_of_resumes (resumes : loop.Resumes place next) :
    loop.runFrom place = loop.runFrom next :=
  PFun.fix_fwd_eq (mem_lift.mpr resumes.symm)

/-- The loop ends, since what lies ahead gets shorter with each turn, and its result is found at the
first occurrence that ends it. -/
theorem runFrom_eq_some (nonempty : loop.needle ≠ []) (place : Cursor) :
    loop.runFrom place = Part.some (loop.resultOf (place.occurrences loop.needle)) := by
  fun_induction Cursor.occurrences place loop.needle with
  | case1 place absent =>
    apply runFrom_of_inl
    rw [turn, absent]
    rfl
  | case2 place found near ih =>
    cases verdict : loop.verdict? found with
    | some result =>
      have ended : loop.turn place = .inl result := by
        rw [turn, near]
        simp only [verdict]
      rw [runFrom_of_inl ended, resultOf_cons, verdict, Option.getD_some]
    | none =>
      have resumes : loop.Resumes place (found.resume loop.needle) :=
        resumes_iff.mpr ⟨found, near, verdict, rfl⟩
      have shorter : found.after.length < place.ahead.length := resumes.length_ahead_lt nonempty
      rw [runFrom_of_resumes resumes, ih shorter, if_pos shorter, resultOf_cons, verdict,
        Option.getD_none]

/-- A turn that leads nowhere is taken for ever. -/
theorem runFrom_eq_none (stuck : loop.Resumes place place) : loop.runFrom place = Part.none := by
  rw [Part.eq_none_iff]
  intro result ends
  -- a loop that ends has no place at which it goes on where it is
  refine PFun.fixInduction (C := fun place => ¬ loop.Resumes place place) ends ?_ stuck
  intro place _ ih again
  exact ih place (mem_lift.mpr again.symm) again

theorem run_eq_none_of_stays (stays : loop.Stays text) : loop.run text = Part.none :=
  runFrom_eq_none (stays _ Relation.ReflTransGen.refl).2

end Run

section Empty

variable (empty : loop.needle = [])

include empty

theorem turn_of_empty (place : Cursor) :
    loop.turn place = (loop.verdict? ⟨place.passed, place.ahead⟩).elim (.inr place) .inl := by
  have near : place.next? loop.needle = some ⟨place.passed, place.ahead⟩ := by
    rw [Cursor.next?, empty, cut?_nil]
    simp
  have here : (Occurrence.mk place.passed place.ahead).resume loop.needle = place := by
    rw [Occurrence.resume, empty, List.append_nil]
  rw [turn, near]
  cases verdict : loop.verdict? ⟨place.passed, place.ahead⟩ with
  | none => simp only [verdict, here, Option.elim_none]
  | some result => simp only [verdict, Option.elim_some]

theorem stays_iff_of_empty (text : Text) : loop.Stays text ↔ loop.verdict? ⟨[], text⟩ = none := by
  have first := turn_of_empty empty ⟨[], text⟩
  constructor
  · intro stays
    obtain ⟨-, resumes⟩ := stays _ Relation.ReflTransGen.refl
    cases verdict : loop.verdict? ⟨[], text⟩ with
    | none => rfl
    | some result =>
      rw [Resumes, first, verdict] at resumes
      cases resumes
  · intro verdict
    have stuck : loop.Resumes ⟨[], text⟩ ⟨[], text⟩ := by
      rw [Resumes, first, verdict]
      rfl
    intro place reached
    induction reached with
    | refl => exact ⟨rfl, stuck⟩
    | tail _ resumes ih =>
      obtain ⟨rfl, -⟩ := ih
      obtain rfl := Sum.inr.inj (stuck.symm.trans resumes)
      exact ⟨rfl, stuck⟩

theorem run_of_empty (text : Text) :
    loop.run text =
      provided (loop.verdict? ⟨[], text⟩ ≠ none)
        (loop.resultOf (occurrences loop.needle text)) := by
  cases verdict : loop.verdict? ⟨[], text⟩ with
  | none =>
    rw [provided_of_not (not_not.mpr rfl)]
    exact run_eq_none_of_stays ((stays_iff_of_empty empty text).mpr verdict)
  | some result =>
    have ended : loop.turn ⟨[], text⟩ = .inl result := by
      rw [turn_of_empty empty, verdict]
      rfl
    have cut : cut? loop.needle text = some ([], text) := by rw [empty, cut?_nil]
    obtain ⟨more, first⟩ := exists_occurrences_eq_cons cut
    rw [run, runFrom_of_inl ended, provided_of (Option.some_ne_none result), first,
      resultOf_cons, verdict, Option.getD_some]

theorem run_dom_iff_of_empty (text : Text) : (loop.run text).Dom ↔ ¬ loop.Stays text := by
  rw [run_of_empty empty, stays_iff_of_empty empty]
  exact Iff.rfl

end Empty

theorem ends_of_ne_nil (nonempty : loop.needle ≠ []) (text : Text) : loop.Ends text := by
  intro empty
  exact absurd empty nonempty

theorem run_eq (loop : SearchLoop α) (text : Text) :
    loop.run text = provided (loop.Ends text) (loop.resultOf (occurrences loop.needle text)) := by
  by_cases empty : loop.needle = []
  · rw [run_of_empty empty]
    exact provided_congr ⟨fun answered _ => answered, fun ends => ends empty⟩
  · rw [provided_of (ends_of_ne_nil empty text)]
    exact runFrom_eq_some empty _

end SearchLoop

end Text

end IspcShader
