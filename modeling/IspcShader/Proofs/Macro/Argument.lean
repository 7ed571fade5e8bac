import IspcShader.Proofs.Macro.Call
import IspcShader.Proofs.Text.Part

/-!
Arguments are parts of the text they are read off. A list of arguments is cut at its commas and
trimmed, and a call at the very start of a text is the first one of its name.
-/
namespace IspcShader.Macro

open Text

theorem cutCommas_ne_nil (depth : Nat) (text : Text) : cutCommas depth text ≠ [] := by
  have kept (c : Char) (pieces : List Text) : consFirst c pieces ≠ [] := by
    cases pieces <;> exact List.cons_ne_nil _ _
  cases text with
  | nil => exact List.cons_ne_nil _ _
  | cons c rest =>
    unfold cutCommas
    split
    · exact List.cons_ne_nil _ _
    · split
      · exact kept c _
      · split <;> exact kept c _

theorem intercalate_consFirst (sep : Text) (c : Char) (pieces : List Text) :
    List.intercalate sep (consFirst c pieces) = c :: List.intercalate sep pieces := by
  cases pieces with
  | nil => simp [consFirst]
  | cons piece pieces =>
    cases pieces with
    | nil => simp [consFirst]
    | cons next pieces => simp [consFirst]

/-- Nothing but the commas is lost where a list is cut. -/
theorem intercalate_cutCommas (depth : Nat) (text : Text) :
    List.intercalate [','] (cutCommas depth text) = text := by
  fun_induction cutCommas depth text with
  | case1 => rfl
  | case2 depth c rest comma ih =>
    rw [List.intercalate_cons_of_ne_nil (cutCommas_ne_nil 0 rest), ih, comma.1]
    rfl
  | case3 depth c rest _ _ ih => rw [intercalate_consFirst, ih]
  | case4 depth c rest _ _ _ ih => rw [intercalate_consFirst, ih]
  | case5 depth c rest _ _ _ ih => rw [intercalate_consFirst, ih]

theorem mem_of_mem_intercalate {sep : Text} {list : List Text} {c : Char}
    (h : c ∈ List.intercalate sep list) : c ∈ sep ∨ ∃ text ∈ list, c ∈ text := by
  induction list with
  | nil => cases h
  | cons text rest ih =>
    by_cases single : rest = []
    · rw [single, List.intercalate_singleton] at h
      exact .inr ⟨text, List.mem_cons_self, h⟩
    · rw [List.intercalate_cons_of_ne_nil single, List.mem_append, List.mem_append] at h
      rcases h with (first | comma) | later
      · exact .inr ⟨text, List.mem_cons_self, first⟩
      · exact .inl comma
      · rcases ih later with comma | ⟨other, listed, inside⟩
        · exact .inl comma
        · exact .inr ⟨other, List.mem_cons_of_mem text listed, inside⟩

theorem eq_trim_of_arguments {inside arg : Text} (h : arguments inside = [arg]) :
    arg = trim inside := by
  unfold arguments at h
  dsimp only at h
  split at h
  · cases h
  · obtain ⟨piece, cut, rfl⟩ := List.map_eq_singleton_iff.mp h
    have whole := intercalate_cutCommas 0 inside
    rw [cut, List.intercalate_singleton] at whole
    rw [whole]

theorem Invocation.find?_leading (name rest : Text) :
    find? (name ++ '(' :: rest) name =
      (readInside 0 rest).map fun (inside, after) => ⟨[], name, inside, after⟩ := by
  obtain ⟨before, after, cut, short⟩ := exists_cut? name [] ('(' :: rest)
  obtain rfl : before = [] := List.length_eq_zero_iff.mp (Nat.le_zero.mp short)
  obtain rfl : after = '(' :: rest := List.append_cancel_left (append_of_cut? cut)
  obtain ⟨more, sites⟩ := exists_occurrences_eq_cons cut
  rw [List.nil_append] at sites
  rw [find?, sites, List.find?_cons_of_pos rfl, Option.bind_some, read?_opened]

theorem unwrap_subset (text : Text) : unwrap text ⊆ text := by
  intro c member
  unfold unwrap at member
  dsimp only at member
  split at member
  · exact trim_subset text member
  · next mark tail shape =>
    split at member
    · have inner : c ∈ (trim text).dropWhile (· != '(') := by
        rw [shape]
        exact List.mem_cons_of_mem mark (List.dropLast_subset tail (trim_subset _ member))
      exact trim_subset text ((List.dropWhile_sublist _).subset inner)
    · exact trim_subset text member

theorem arrayBase_subset (name : Text) : arrayBase name ⊆ name := fun _ member =>
  (List.takeWhile_sublist _).subset (trim_subset _ member)

theorem subset_intercalate {sep text : Text} {list : List Text} (listed : text ∈ list) :
    text ⊆ List.intercalate sep list := by
  induction list with
  | nil => cases listed
  | cons first more ih =>
    intro c member
    cases more with
    | nil =>
      rw [List.mem_singleton.mp listed] at member
      simpa using member
    | cons next more =>
      rw [List.intercalate_cons_cons, List.mem_append, List.mem_append]
      rcases List.mem_cons.mp listed with rfl | later
      · exact .inl (.inl member)
      · exact .inr (ih later member)

theorem subset_of_mem_arguments {inside arg : Text} (listed : arg ∈ arguments inside) :
    arg ⊆ inside := by
  unfold arguments at listed
  dsimp only at listed
  split at listed
  · cases listed
  · obtain ⟨piece, cut, rfl⟩ := List.mem_map.mp listed
    intro c member
    have whole := intercalate_cutCommas 0 inside
    rw [← whole]
    exact subset_intercalate cut (trim_subset piece member)

end IspcShader.Macro
