import IspcShader.Proofs.Lowering.Pass
import IspcShader.Proofs.Text.Infix

/-!
Closing braces survive the lowering. A rule replaces a word and a few marks behind it by something
of its own, but it neither covers a brace nor writes one, and what it writes does not take a
semicolon's place.
-/
namespace IspcShader.Lowering

open Text

/-- A rule that neither writes nor covers a brace, and writes something other than a semicolon. -/
def KeepsClosing (rule : WordRule) : Prop :=
  ∀ {word behind new covered}, rule word behind = some (new, covered) →
    '\x7d' ∉ new ++ behind.take covered ∧ new ≠ [] ∧ ';' ∉ new

section MapWords

variable {rule : WordRule}

theorem head?_mapWords (keeps : KeepsClosing rule) (text : Text) :
    (mapWords rule text).head? = some ';' ↔ text.head? = some ';' := by
  cases text with
  | nil => rw [mapWords_nil]
  | cons c rest =>
    cases on : isWordChar c with
    | false =>
      rw [mapWords_cons_of_not_isWordChar rule rest on, List.head?_cons, List.head?_cons]
    | true =>
      have different : c ≠ ';' := by
        rintro rfl
        exact absurd on (by decide)
      rw [mapWords_cons_of_isWordChar rule rest on]
      split
      · rfl
      · next new covered replaced =>
        obtain ⟨-, nonempty, unended⟩ := keeps replaced
        cases new with
        | nil => exact absurd rfl nonempty
        | cons d new =>
          have other : d ≠ ';' := by
            rintro rfl
            exact unended List.mem_cons_self
          simp [different, other]

theorem brace_not_mem_word (text : Text) : '\x7d' ∉ text.takeWhile isWordChar := by
  intro member
  exact absurd (List.all_eq_true.mp List.all_takeWhile _ member) (by decide)

/-- What starts at a word holds a closing just when what stands behind the word does. -/
theorem infix_word_iff {c : Char} (on : isWordChar c = true) (rest : Text) :
    ['\x7d', ';'] <:+: c :: rest ↔ ['\x7d', ';'] <:+: rest.dropWhile isWordChar := by
  have split : c :: rest = (c :: rest).takeWhile isWordChar ++ rest.dropWhile isWordChar := by
    rw [List.takeWhile_cons_of_pos on, List.cons_append, List.takeWhile_append_dropWhile]
  rw [split]
  exact infix_append_right_iff (brace_not_mem_word (c :: rest))

theorem infix_mapWords_iff (keeps : KeepsClosing rule) (text : Text) :
    ['\x7d', ';'] <:+: mapWords rule text ↔ ['\x7d', ';'] <:+: text := by
  -- the recursion goes from word to word, as that of `mapWords` does
  fun_induction mapWords rule text with
  | case1 => rfl
  | case2 c rest on word behind quiet ih =>
    have absent := brace_not_mem_word (c :: rest)
    rw [List.takeWhile_cons_of_pos on] at absent
    rw [infix_append_right_iff absent, ih, infix_word_iff on]
  | case3 c rest on word behind new covered replaced ih =>
    have absent := (keeps replaced).1
    rw [List.mem_append, not_or] at absent
    rw [infix_append_right_iff absent.1, ih, infix_word_iff on]
    conv => rhs; rw [← List.take_append_drop covered (rest.dropWhile isWordChar)]
    exact (infix_append_right_iff absent.2).symm
  | case4 c rest off ih =>
    have start (text : Text) :
        ['\x7d', ';'] <+: c :: text ↔ c = '\x7d' ∧ text.head? = some ';' := by
      cases text <;> simp [List.cons_prefix_cons, eq_comm]
    rw [List.infix_cons_iff, List.infix_cons_iff, ih, start, start, head?_mapWords keeps]

end MapWords

theorem keepsClosing_typeRule : KeepsClosing typeRule := by
  intro word behind new covered replaced
  obtain ⟨⟨kind, width⟩, -, same⟩ := Option.map_eq_some_iff.mp replaced
  cases same
  rw [List.take_zero]
  cases kind <;> cases width <;> decide

theorem keepsClosing_constructorRule : KeepsClosing constructorRule := by
  intro word behind new covered replaced
  unfold constructorRule at replaced
  split at replaced
  · next kind digit tail _ =>
    obtain ⟨width, read, same⟩ := Option.map_eq_some_iff.mp replaced
    cases same
    rw [← VectorWidth.digit_of_ofDigit? read]
    simp only [List.take_succ_cons, List.take_zero]
    cases kind <;> cases width <;> decide
  · cases replaced

theorem keepsClosing_castRule : KeepsClosing castRule := by
  intro word behind new covered replaced
  unfold castRule at replaced
  split at replaced
  · next kind tail _ =>
    split at replaced
    · cases replaced
      rw [List.take_succ_cons, List.take_zero]
      cases kind <;> decide
    · cases replaced
  · cases replaced

/-- The end of a struct is seen on a line before it is lowered just when it is seen afterwards. -/
theorem infix_lower_iff (line : Text) :
    ['\x7d', ';'] <:+: lower line ↔ ['\x7d', ';'] <:+: line := by
  rw [lower, castPass, infix_mapWords_iff keepsClosing_castRule, constructorPass,
    infix_mapWords_iff keepsClosing_constructorRule, typePass,
    infix_mapWords_iff keepsClosing_typeRule]

end IspcShader.Lowering
