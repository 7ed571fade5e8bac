import IspcShader.Proofs.Text.Search

/-!
Where a needle can stand. It is found just when it is a part of the text, and a part of the text
that lacks one of its characters cannot hold it.
-/
namespace IspcShader.Text

theorem contains_iff {needle text : Text} : contains needle text = true ↔ needle <:+: text := by
  constructor
  · intro found
    obtain ⟨⟨before, after⟩, cut⟩ := Option.isSome_iff_exists.mp found
    exact ⟨before, after, append_of_cut? cut⟩
  · rintro ⟨b, a, rfl⟩
    obtain ⟨before, after, cut, -⟩ := exists_cut? needle b a
    rw [contains, cut]
    rfl

theorem contains_eq_false_iff {needle text : Text} :
    contains needle text = false ↔ ¬ needle <:+: text := by
  rw [← contains_iff, Bool.not_eq_true]

theorem cut?_eq_none_iff {needle text : Text} : cut? needle text = none ↔ ¬ needle <:+: text := by
  rw [← contains_eq_false_iff, contains, Option.isSome_eq_false_iff, Option.isNone_iff_eq_none]

section Infix

variable {c : Char} {needle a b text : Text}

theorem infix_append_right_iff (absent : c ∉ a) : c :: needle <:+: a ++ b ↔ c :: needle <:+: b := by
  constructor
  · intro found
    rcases List.infix_append_iff.mp found with left | right | ⟨front, back, split, suffix, start⟩
    · exact absurd (left.subset List.mem_cons_self) absent
    · exact right
    · cases front with
      | nil => exact split ▸ start.isInfix
      | cons d front =>
        obtain ⟨rfl, -⟩ := List.cons.inj split
        exact absurd (suffix.subset List.mem_cons_self) absent
  · intro found
    exact found.trans (List.suffix_append a b).isInfix

theorem infix_append_left_iff (absent : c ∉ b) :
    needle ++ [c] <:+: a ++ b ↔ needle ++ [c] <:+: a := by
  have turned : c ∉ b.reverse := fun member => absent (List.mem_reverse.mp member)
  rw [← List.reverse_infix, ← @List.reverse_infix _ (needle ++ [c]) a, List.reverse_concat,
    List.reverse_append]
  exact infix_append_right_iff turned

/-- A character that the needle lacks cuts the text into two that may hold it. -/
theorem infix_append_cons_iff (absent : c ∉ needle) (nonempty : needle ≠ []) :
    needle <:+: a ++ c :: b ↔ needle <:+: a ∨ needle <:+: b := by
  have notAt {front : Text} (inside : ∀ d ∈ front, d ∈ needle) (start : front <+: c :: b) :
      front = [] := by
    cases front with
    | nil => rfl
    | cons d front =>
      obtain ⟨rfl, -⟩ := List.cons_prefix_cons.mp start
      exact absurd (inside d List.mem_cons_self) absent
  constructor
  · intro found
    rcases List.infix_append_iff.mp found with left | right | ⟨front, back, split, suffix, start⟩
    · exact .inl left
    · rcases List.infix_cons_iff.mp right with here | later
      · exact absurd (notAt (fun d member => member) here) nonempty
      · exact .inr later
    · have nothing := notAt (fun d member => split ▸ List.mem_append_right front member) start
      rw [nothing, List.append_nil] at split
      exact .inl (split ▸ suffix.isInfix)
  · rintro (left | right)
    · exact left.trans (List.prefix_append a (c :: b)).isInfix
    · exact right.trans ((List.suffix_cons c b).trans (List.suffix_append a (c :: b))).isInfix

/-- Where a character stands only once, a needle that ends in it ends there. -/
theorem suffix_of_infix_concat (new : c ∉ a) (only : c ∉ b)
    (found : needle ++ [c] <:+: a ++ c :: b) : needle <:+ a := by
  rw [List.append_cons a c b, infix_append_left_iff only] at found
  obtain ⟨front, back, same⟩ := found
  rcases List.eq_nil_or_concat back with rfl | ⟨back, d, rfl⟩
  · rw [List.append_nil, ← List.append_assoc] at same
    exact ⟨front, (List.append_inj' same rfl).1⟩
  · rw [List.concat_eq_append, ← List.append_assoc] at same
    have inner := (List.append_inj' same rfl).1
    exact absurd (inner ▸ by simp) new

theorem not_mem_leadingBlanks (solid : isBlank c = false) : c ∉ leadingBlanks text :=
  not_mem_of_blank (List.all_eq_true.mp List.all_takeWhile) solid

theorem infix_trimStart_iff (solid : isBlank c = false) :
    c :: needle <:+: trimStart text ↔ c :: needle <:+: text := by
  conv => rhs; rw [← leadingBlanks_append_trimStart text]
  exact (infix_append_right_iff (not_mem_leadingBlanks solid)).symm

theorem infix_trimEnd_iff (solid : isBlank c = false) :
    needle ++ [c] <:+: trimEnd text ↔ needle ++ [c] <:+: text := by
  rw [← List.reverse_infix, ← @List.reverse_infix _ (needle ++ [c]) text, trimEnd,
    List.reverse_reverse, List.reverse_concat]
  exact infix_trimStart_iff solid

theorem infix_trim_iff {d : Char} (first : isBlank c = false) (last : isBlank d = false) :
    [c, d] <:+: trim text ↔ [c, d] <:+: text := by
  exact (@infix_trimEnd_iff d [c] (trimStart text) last).trans (infix_trimStart_iff first)

/-- What stands behind a character stands behind the first such character, too. -/
theorem suffix_drop_dropWhile (c : Char) (a b : Text) :
    b <:+ ((a ++ c :: b).dropWhile (· != c)).drop 1 := by
  induction a with
  | nil => simp
  | cons d a ih =>
    by_cases same : d = c
    · subst same
      have rest : ((d :: a ++ d :: b).dropWhile (· != d)).drop 1 = a ++ d :: b := by simp
      rw [rest]
      exact (List.suffix_cons d b).trans (List.suffix_append a (d :: b))
    · have skipped : (d :: a ++ c :: b).dropWhile (· != c) = (a ++ c :: b).dropWhile (· != c) := by
        simp [same]
      rw [skipped]
      exact ih

theorem drop_dropWhile_of_not_mem (absent : c ∉ a) (b : Text) :
    ((a ++ c :: b).dropWhile (· != c)).drop 1 = b := by
  have passed : ∀ d ∈ a, (d != c) = true := by
    intro d member
    rw [bne_iff_ne]
    rintro rfl
    exact absent member
  rw [List.dropWhile_append_of_pos passed]
  simp

end Infix

end IspcShader.Text
