import IspcShader.Text.Lines

/-!
What the lines of a text are, told from its start and without splitting it.
-/
namespace IspcShader.Text

/-- A text and its lines. Each but the last goes up to a line feed, less one carriage return in
front of it; what follows the last line feed is a line as it stands, unless it is empty. -/
inductive HasLines : Text → List Text → Prop
  | nil : HasLines [] []
  | unended {line : Text} (single : '\n' ∉ line) (nonempty : line ≠ []) : HasLines line [line]
  | fed {line rest : Text} {others : List Text} (single : '\n' ∉ line)
      (plain : line.getLast? ≠ some '\r') (more : HasLines rest others) :
      HasLines (line ++ '\n' :: rest) (line :: others)
  | returned {line rest : Text} {others : List Text} (single : '\n' ∉ line)
      (more : HasLines rest others) : HasLines (line ++ '\r' :: '\n' :: rest) (line :: others)

@[elab_as_elim] theorem line_induction {motive : Text → Prop}
    (unended : ∀ line, '\n' ∉ line → motive line)
    (fed : ∀ line rest, '\n' ∉ line → motive rest → motive (line ++ '\n' :: rest)) (text : Text) :
    motive text := by
  induction length : text.length using Nat.strongRecOn generalizing text with
  | ind size ih =>
    by_cases several : '\n' ∈ text
    · obtain ⟨line, rest, rfl, single⟩ := List.eq_append_cons_of_mem several
      have shorter : rest.length < size := by
        rw [← length, List.length_append, List.length_cons]
        omega
      exact fed line rest single (ih _ shorter rest rfl)
    · exact unended text several

theorem dropReturn_concat (most : Text) (c : Char) :
    dropReturn (most ++ [c]) = if c = '\r' then most else most ++ [c] := by
  simp [dropReturn]

theorem dropReturn_cons {c : Char} {rest : Text} (inner : c = '\r' → rest ≠ []) :
    dropReturn (c :: rest) = c :: dropReturn rest := by
  rcases List.eq_nil_or_concat rest with rfl | ⟨most, d, rfl⟩
  · have other : c ≠ '\r' := fun same => inner same rfl
    simp [dropReturn, other]
  · rw [List.concat_eq_append, ← List.cons_append, dropReturn_concat, dropReturn_concat]
    split <;> rfl

theorem lines_of_not_mem {text : Text} (single : '\n' ∉ text) (nonempty : text ≠ []) :
    lines text = [text] := by
  simp [lines, List.splitOn_eq_singleton single, nonempty]

theorem lines_append_feed {line : Text} (single : '\n' ∉ line) (rest : Text) :
    lines (line ++ '\n' :: rest) = dropReturn line :: lines rest := by
  unfold lines
  rw [List.splitOn_append_cons_self_of_not_mem single]
  cases pieces : rest.splitOn '\n' with
  | nil => exact absurd pieces (List.splitOn_ne_nil '\n' rest)
  | cons piece more => simp

theorem HasLines.eq_lines {text : Text} {found : List Text} (has : HasLines text found) :
    found = lines text := by
  induction has with
  | nil => rfl
  | unended single nonempty => rw [lines_of_not_mem single nonempty]
  | fed single plain _ ih => rw [lines_append_feed single, dropReturn, if_neg plain, ih]
  | @returned line rest others single _ ih =>
    have fed : '\n' ∉ line ++ ['\r'] := by simp [single]
    have shape : line ++ '\r' :: '\n' :: rest = line ++ ['\r'] ++ '\n' :: rest := by simp
    rw [shape, lines_append_feed fed, dropReturn_concat, if_pos rfl, ih]

theorem hasLines_append_feed {line rest : Text} {others : List Text} (single : '\n' ∉ line)
    (more : HasLines rest others) :
    HasLines (line ++ '\n' :: rest) (dropReturn line :: others) := by
  by_cases returns : line.getLast? = some '\r'
  · obtain ⟨most, rfl⟩ := List.getLast?_eq_some_iff.mp returns
    have front : '\n' ∉ most := fun inside => single (List.mem_append_left _ inside)
    rw [dropReturn_concat, if_pos rfl, List.append_assoc]
    exact .returned front more
  · rw [dropReturn, if_neg returns]
    exact .fed single returns more

theorem hasLines_lines (text : Text) : HasLines text (lines text) := by
  induction text using line_induction with
  | unended line single =>
    by_cases empty : line = []
    · rw [empty]
      exact .nil
    · rw [lines_of_not_mem single empty]
      exact .unended single empty
  | fed line rest single ih =>
    rw [lines_append_feed single]
    exact hasLines_append_feed single ih

theorem hasLines_iff {text : Text} {found : List Text} :
    HasLines text found ↔ found = lines text := by
  constructor
  · exact HasLines.eq_lines
  · rintro rfl
    exact hasLines_lines text

end IspcShader.Text
