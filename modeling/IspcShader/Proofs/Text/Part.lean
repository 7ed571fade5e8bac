import IspcShader.Proofs.Text.Search

/-!
Parts of a text. Trimming takes blanks off both ends and nothing else, and a text in which something
was replaced keeps all that stood around it.
-/
namespace IspcShader

open Text

namespace Text

theorem leadingBlanks_subset (text : Text) : leadingBlanks text ⊆ text :=
  (List.takeWhile_sublist isBlank).subset

theorem trimStart_subset (text : Text) : trimStart text ⊆ text :=
  (List.dropWhile_sublist isBlank).subset

theorem trimEnd_subset (text : Text) : trimEnd text ⊆ text := by
  intro c member
  rw [trimEnd, List.mem_reverse] at member
  exact List.mem_reverse.mp ((List.dropWhile_sublist isBlank).subset member)

theorem trim_subset (text : Text) : trim text ⊆ text := fun _ member =>
  trimStart_subset text (trimEnd_subset (trimStart text) member)

theorem exists_append_trimEnd (text : Text) :
    ∃ trail, text = trimEnd text ++ trail ∧ ∀ c ∈ trail, isBlank c = true := by
  refine ⟨(text.reverse.takeWhile isBlank).reverse, ?_, ?_⟩
  · rw [trimEnd, ← List.reverse_append, List.takeWhile_append_dropWhile, List.reverse_reverse]
  · intro c member
    exact List.all_eq_true.mp List.all_takeWhile c (List.mem_reverse.mp member)

theorem exists_append_trim (text : Text) :
    ∃ lead trail, text = lead ++ trim text ++ trail ∧ (∀ c ∈ lead, isBlank c = true) ∧
      ∀ c ∈ trail, isBlank c = true := by
  obtain ⟨trail, split, blank⟩ := exists_append_trimEnd (trimStart text)
  refine ⟨leadingBlanks text, trail, ?_, List.all_eq_true.mp List.all_takeWhile, blank⟩
  rw [List.append_assoc, trim, ← split, leadingBlanks_append_trimStart]

theorem trim_trim (text : Text) : trim (trim text) = trim text := by
  have starts := List.head?_dropWhile_not isBlank text
  have ends := List.head?_dropWhile_not isBlank (trimStart text).reverse
  apply trim_eq_self
  · intro c first
    obtain ⟨trail, split, -⟩ := exists_append_trimEnd (trimStart text)
    have front : (trimStart text).head? = some c := by
      rw [split, List.head?_append]
      exact Option.or_eq_some_iff.mpr (.inl first)
    rw [trimStart] at front
    rw [front] at starts
    exact starts
  · intro c last
    rw [trim, trimEnd, List.getLast?_reverse] at last
    rw [last] at ends
    exact ends

/-- The second text is the first with some occurrences of `needle` replaced. -/
inductive Replaced (needle new : Text) : Text → Text → Prop
  | refl (text : Text) : Replaced needle new text text
  | next (before : Text) {after after' : Text} (rest : Replaced needle new after after') :
      Replaced needle new (before ++ needle ++ after) (before ++ new ++ after')

theorem replaced_replaceAll (needle new text : Text) :
    Replaced needle new text (replaceAll needle new text) := by
  fun_induction replaceAll needle new text with
  | case1 text absent => exact .refl text
  | case2 text before after found ih =>
    rw [← append_of_cut? found]
    apply Replaced.next
    split
    · next shorter =>
      rw [append_of_cut? found] at shorter
      exact ih shorter
    · exact .refl after

end Text

end IspcShader
