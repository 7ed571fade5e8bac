import IspcShader.Proofs.Macro.Call

/-!
Nested brackets by counting. At every place of a text there are as many brackets open as were opened
in front of it less those that were closed; an argument is a text where this number stays above zero
and comes back to it, with no comma at zero.
-/
namespace IspcShader.Macro

open Text

/-- How deep the brackets are nested behind a text: those opened in it less those closed. -/
def nesting (text : Text) : Int :=
  text.countP isOpening - text.countP isClosing

/-- Read with `depth` brackets open, the text never closes more than are open, leaves `left` of them
open, and has no comma where none is open. -/
structure Nests (depth : Nat) (text : Text) (left : Nat) : Prop where
  nonneg : ∀ front rest, text = front ++ rest → 0 ≤ depth + nesting front
  behind : depth + nesting text = left
  commas : ∀ front rest, text = front ++ ',' :: rest → depth + nesting front ≠ 0

def turn (c : Char) : Int :=
  if isOpening c then 1 else if isClosing c then -1 else 0

theorem nesting_nil : nesting [] = 0 := rfl

theorem nesting_cons (c : Char) (text : Text) : nesting (c :: text) = turn c + nesting text := by
  unfold nesting turn
  rw [List.countP_cons, List.countP_cons]
  cases opening : isOpening c with
  | true =>
    rw [isClosing_of_isOpening opening]
    grind
  | false => cases isClosing c <;> grind

section Nests

variable {c : Char} {text : Text} {depth next left : Nat}

theorem nests_nil_iff : Nests depth [] left ↔ depth = left := by
  constructor
  · intro nests
    have behind := nests.behind
    rw [nesting_nil] at behind
    omega
  · rintro rfl
    refine ⟨?_, by rw [nesting_nil, Int.add_zero], fun front rest same => ?_⟩
    · intro front rest same
      rw [(List.append_eq_nil_iff.mp same.symm).1, nesting_nil]
      omega
    · cases (List.append_eq_nil_iff.mp same.symm).2

theorem nests_cons_iff (moved : (next : Int) = depth + turn c) :
    Nests depth (c :: text) left ↔ (c = ',' → depth ≠ 0) ∧ Nests next text left := by
  have shifted (front : Text) : (depth : Int) + nesting (c :: front) = next + nesting front := by
    rw [nesting_cons, moved, Int.add_assoc]
  constructor
  · intro nests
    refine ⟨?_, ?_, ?_, ?_⟩
    · rintro rfl
      have outside := nests.commas [] text rfl
      rw [nesting_nil] at outside
      omega
    · rintro front rest rfl
      rw [← shifted]
      exact nests.nonneg (c :: front) rest rfl
    · rw [← shifted]
      exact nests.behind
    · rintro front rest rfl
      rw [← shifted]
      exact nests.commas (c :: front) rest rfl
  · rintro ⟨first, nests⟩
    refine ⟨?_, by rw [shifted, nests.behind], ?_⟩
    · intro front rest same
      cases front with
      | nil =>
        rw [nesting_nil]
        omega
      | cons d front =>
        obtain ⟨rfl, tail⟩ := List.cons.inj same
        rw [shifted]
        exact nests.nonneg front rest tail
    · intro front rest same
      cases front with
      | nil =>
        have within := first (List.cons.inj same).1
        rw [nesting_nil]
        omega
      | cons d front =>
        obtain ⟨rfl, tail⟩ := List.cons.inj same
        rw [shifted]
        exact nests.commas front rest tail

/-- The scan with a counter that cannot go below zero accepts just the texts that nest. -/
theorem depthAfter_eq_some_iff : depthAfter depth text = some left ↔ Nests depth text left := by
  fun_induction depthAfter depth text with
  | case1 depth => rw [nests_nil_iff, Option.some.injEq]
  | case2 depth c text opening ih =>
    have moved : ((depth + 1 : Nat) : Int) = depth + turn c := by simp [turn, opening]
    rw [nests_cons_iff moved]
    exact ih.trans (iff_and_self.mpr fun _ comma => absurd comma (comma_of_isOpening opening))
  | case3 c text opening closing =>
    refine iff_of_false (Option.some_ne_none _).symm fun nests => ?_
    have below := nests.nonneg [c] text rfl
    simp [nesting_cons, nesting_nil, turn, opening, closing] at below
  | case4 c text opening closing depth ih =>
    have moved : (depth : Int) = (depth + 1 : Nat) + turn c := by
      have down : turn c = -1 := by simp [turn, opening, closing]
      omega
    rw [nests_cons_iff moved]
    exact ih.trans (iff_and_self.mpr fun _ _ => Nat.succ_ne_zero depth)
  | case5 depth c text opening closing comma =>
    have moved : (depth : Int) = depth + turn c := by simp [turn, opening, closing]
    rw [nests_cons_iff moved]
    exact iff_of_false (Option.some_ne_none _).symm fun h => h.1 comma.1 comma.2
  | case6 depth c text opening closing inner ih =>
    have moved : (depth : Int) = depth + turn c := by simp [turn, opening, closing]
    rw [nests_cons_iff moved]
    exact ih.trans (iff_and_self.mpr fun _ comma outside => inner ⟨comma, outside⟩)

instance : Decidable (Nests depth text left) :=
  decidable_of_iff _ depthAfter_eq_some_iff

end Nests

end IspcShader.Macro
