import Mathlib.Data.List.Forall2
import IspcShader.Command.Run
import IspcShader.Proofs.Macro.Tally

/-!
Parameters on the command line. A list of them is read if none is invalid; otherwise the first
invalid one is reported.
-/
namespace IspcShader.Command

open Text

/-- The first of some checks that fails, and how it does. -/
inductive FirstFault {α ε : Type} (fails : α → ε → Prop) : List α → ε → Prop
  | here {check : α} {rest : List α} {error : ε} (failed : fails check error) :
      FirstFault fails (check :: rest) error
  | later {check : α} {rest : List α} {error : ε} (passed : ∀ other, ¬ fails check other)
      (more : FirstFault fails rest error) : FirstFault fails (check :: rest) error

section FirstFault

variable {α ε : Type} {fails : α → ε → Prop} {list : List α}

/-- If each check fails in one way only, then so do all of them in turn. -/
theorem FirstFault.unique (single : ∀ (check : α) (a b : ε), fails check a → fails check b → a = b)
    {a b : ε} (one : FirstFault fails list a) (other : FirstFault fails list b) : a = b := by
  induction one with
  | here failed =>
    cases other with
    | here again => exact single _ _ _ failed again
    | later passed _ => exact absurd failed (passed _)
  | later passed _ ih =>
    cases other with
    | here failed => exact absurd failed (passed _)
    | later _ more => exact ih more

theorem FirstFault.exists_fails {error : ε} (first : FirstFault fails list error) :
    ∃ check ∈ list, fails check error := by
  induction first with
  | here failed => exact ⟨_, List.mem_cons_self, failed⟩
  | later _ _ ih =>
    obtain ⟨check, member, failed⟩ := ih
    exact ⟨check, List.mem_cons_of_mem _ member, failed⟩

end FirstFault

def CutAtLastColon (written type var : Text) : Prop :=
  written = type ++ ':' :: var ∧ ':' ∉ var

/-- A parameter without a colon, or with only blanks before or after its last one. -/
def IsInvalid (written : Text) : Prop :=
  ':' ∉ written ∨ ∃ type var, CutAtLastColon written type var ∧
    (type.all isBlank = true ∨ var.all isBlank = true)

/-- The text spells a parameter: its type and its variable are trimmed, and neither is blank. -/
def Spells (written : Text) (param : Parameter) : Prop :=
  ∃ type var, CutAtLastColon written type var ∧ type.all isBlank = false ∧ var.all isBlank = false ∧
    param = ⟨trim type, trim var⟩

def FaultyParam (written : Text) (error : RunError) : Prop :=
  IsInvalid written ∧ error = .invalidParam written

theorem exists_cutAtLastColon {text : Text} (colon : ':' ∈ text) :
    ∃ type var, CutAtLastColon text type var := by
  obtain ⟨behind, front, turned, last⟩ := List.eq_append_cons_of_mem (List.mem_reverse.mpr colon)
  refine ⟨front.reverse, behind.reverse, ?_, mt List.mem_reverse.mp last⟩
  rw [← List.reverse_reverse text, turned]
  simp

theorem cutLastColon?_of_not_mem {text : Text} (absent : ':' ∉ text) :
    cutLastColon? text = none := by
  have all : text.reverse.dropWhile (· != ':') = [] := by
    rw [List.dropWhile_eq_nil_iff]
    intro c member
    rw [bne_iff_ne]
    rintro rfl
    exact absent (List.mem_reverse.mp member)
  rw [cutLastColon?, all]

theorem cutLastColon?_of_cut {text type var : Text} (cut : CutAtLastColon text type var) :
    cutLastColon? text = some (type, var) := by
  obtain ⟨rfl, last⟩ := cut
  have turned : (type ++ ':' :: var).reverse = var.reverse ++ ':' :: type.reverse := by simp
  have inside : ∀ c ∈ var.reverse, (c != ':') = true := by
    intro c member
    rw [bne_iff_ne]
    rintro rfl
    exact last (List.mem_reverse.mp member)
  simp [cutLastColon?, turned, List.dropWhile_append_of_pos inside,
    List.takeWhile_append_of_pos inside]

theorem param?_of_cut {written type var : Text} (cut : CutAtLastColon written type var) :
    param? written =
      if type.all isBlank = true ∨ var.all isBlank = true then none
        else some ⟨trim type, trim var⟩ := by
  simp only [← Macro.trim_eq_nil_iff]
  simp [param?, cutLastColon?_of_cut cut]

theorem param?_of_isInvalid {written : Text} (invalid : IsInvalid written) :
    param? written = none := by
  rcases invalid with absent | ⟨type, var, cut, blank⟩
  · rw [param?, cutLastColon?_of_not_mem absent]
    rfl
  · rw [param?_of_cut cut, if_pos blank]

theorem param?_of_spells {written : Text} {param : Parameter} (spelt : Spells written param) :
    param? written = some param := by
  obtain ⟨type, var, cut, typed, named, rfl⟩ := spelt
  rw [param?_of_cut cut, if_neg (by simp [typed, named])]

theorem isInvalid_or_spells (written : Text) :
    IsInvalid written ∨ ∃ param, Spells written param := by
  by_cases colon : ':' ∈ written
  · obtain ⟨type, var, cut⟩ := exists_cutAtLastColon colon
    by_cases blank : type.all isBlank = true ∨ var.all isBlank = true
    · exact .inl (.inr ⟨type, var, cut, blank⟩)
    · rw [not_or, Bool.not_eq_true, Bool.not_eq_true] at blank
      exact .inr ⟨_, type, var, cut, blank.1, blank.2, rfl⟩
  · exact .inl (.inl colon)

theorem readParams_cons (written : Text) (rest : List Text) : readParams (written :: rest) =
    match param? written with
    | some param => (readParams rest).map (param :: ·)
    | none => .error (.invalidParam written) := by
  rw [readParams]
  cases param? written with
  | none => rfl
  | some param => cases readParams rest <;> rfl

theorem readParams_of_spells {list : List Text} {params : List Parameter}
    (spelt : List.Forall₂ Spells list params) : readParams list = .ok params := by
  induction spelt with
  | nil => rfl
  | cons first _ ih =>
    rw [readParams_cons, param?_of_spells first, ih]
    rfl

theorem readParams_of_firstFault {list : List Text} {error : RunError}
    (first : FirstFault FaultyParam list error) : readParams list = .error error := by
  induction first with
  | here failed =>
    obtain ⟨invalid, rfl⟩ := failed
    rw [readParams_cons, param?_of_isInvalid invalid]
  | @later written _ _ passed _ ih =>
    rcases isInvalid_or_spells written with invalid | ⟨param, spelt⟩
    · exact absurd ⟨invalid, rfl⟩ (passed _)
    · rw [readParams_cons, param?_of_spells spelt, ih]
      rfl

theorem not_firstFault_of_spells {list : List Text} {params : List Parameter}
    (spelt : List.Forall₂ Spells list params) (error : RunError) :
    ¬ FirstFault FaultyParam list error := by
  intro first
  have read := readParams_of_spells spelt
  rw [readParams_of_firstFault first] at read
  cases read

theorem firstFault_or_spells (list : List Text) :
    (∃ error, FirstFault FaultyParam list error) ∨ ∃ params, List.Forall₂ Spells list params := by
  induction list with
  | nil => exact .inr ⟨[], .nil⟩
  | cons written rest ih =>
    rcases isInvalid_or_spells written with invalid | ⟨param, spelt⟩
    · exact .inl ⟨_, .here ⟨invalid, rfl⟩⟩
    · have passed : ∀ error, ¬ FaultyParam written error := by
        rintro error ⟨invalid, -⟩
        have read := param?_of_spells spelt
        rw [param?_of_isInvalid invalid] at read
        cases read
      rcases ih with ⟨error, first⟩ | ⟨params, more⟩
      · exact .inl ⟨error, .later passed first⟩
      · exact .inr ⟨param :: params, .cons spelt more⟩

end IspcShader.Command
