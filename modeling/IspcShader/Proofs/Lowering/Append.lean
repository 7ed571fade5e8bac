import IspcShader.Proofs.Lowering.Scan

/-!
Lowering in parts. The scan looks ahead only at angle brackets, a digit and an opening parenthesis,
so any other piece ends what it can see: the text in front of it and the text from there on are
lowered on their own. Such a piece is a mark of another kind, which stays as it is, and so is a word
with a low line in it, which no type is named by.
-/
namespace IspcShader

open Text

theorem Text.pieces_append_mark {c : Char} (off : isWordChar c = false) (a b : Text) :
    pieces (a ++ c :: b) = pieces a ++ .mark c :: pieces b := by
  induction a with
  | nil => exact pieces_mark off b
  | cons d a ih =>
    cases on : isWordChar d with
    | false => rw [List.cons_append, pieces_mark on, pieces_mark on, ih, List.cons_append]
    | true =>
      rw [List.cons_append, pieces_join on, pieces_join on, ih]
      by_cases last : pieces a = []
      · rw [last]
        rfl
      · rw [join_append d last]

namespace Lowering

/-- A piece that the scan never looks for behind a word. -/
def IsUnseen (piece : Piece) : Prop :=
  ∀ width : VectorWidth, piece ∉ width.angled ++ [.mark '(']

section Unseen

variable {piece : Piece}

theorem opensCall_append (unseen : IsUnseen piece) (behind more : List Piece) :
    opensCall (behind ++ piece :: more) = opensCall behind := by
  cases behind with
  | nil =>
    rw [Bool.eq_iff_iff, List.nil_append, opensCall_iff, opensCall_iff]
    constructor
    · rintro ⟨tail, ahead⟩
      obtain ⟨rfl, -⟩ := List.cons.inj ahead
      exact absurd (by simp) (unseen .two)
    · rintro ⟨tail, ahead⟩
      cases ahead
  | cons first behind => rfl

theorem widthAhead?_append (unseen : IsUnseen piece) (behind more : List Piece) :
    widthAhead? (behind ++ piece :: more) = widthAhead? behind := by
  ext width
  rw [widthAhead?_eq_some_iff, widthAhead?_eq_some_iff]
  constructor
  · rintro ⟨tail, ahead⟩
    rw [List.append_cons width.angled] at ahead
    rcases List.append_eq_append_iff.mp ahead with ⟨between, opened, rest⟩ | ⟨tail, rfl, -⟩
    · cases between with
      | nil => exact ⟨[], by rw [← List.append_nil behind, ← opened]⟩
      | cons first between =>
        -- the piece itself would be a part of `<4>(`
        obtain ⟨rfl, -⟩ := List.cons.inj rest
        exact absurd (opened ▸ by simp) (unseen width)
    · exact ⟨tail, by simp⟩
  · rintro ⟨tail, rfl⟩
    exact ⟨tail ++ piece :: more, by simp⟩

theorem scanPieces_append (unseen : IsUnseen piece) (chars : Text) (behind more : List Piece) :
    scanPieces chars (behind ++ piece :: more) = scanPieces chars behind := by
  simp only [scanPieces, opensCall_append unseen, widthAhead?_append unseen]

theorem covered_le_length (chars : Text) (behind : List Piece) :
    (scanPieces chars behind).2 ≤ behind.length := by
  have step := scanned chars behind
  generalize scanPieces chars behind = new at step ⊢
  cases step with
  | construct type ahead =>
    obtain ⟨tail, rfl⟩ := widthAhead?_eq_some_iff.mp ahead
    simp [VectorWidth.angled]
  | maker | generic | cast | scalar | other => exact Nat.zero_le _

theorem mapPieces_append (unseen : IsUnseen piece) (front more : List Piece) :
    mapPieces scanPieces (front ++ piece :: more) =
      mapPieces scanPieces front ++ mapPieces scanPieces (piece :: more) := by
  fun_induction mapPieces scanPieces front with
  | case1 => rfl
  | case2 d rest ih => rw [List.cons_append, mapPieces_mark, ih, List.cons_append]
  | case3 chars rest ih =>
    rw [List.cons_append, mapPieces_word, scanPieces_append unseen,
      List.drop_append_of_le_length (covered_le_length chars rest), ih, List.append_assoc]

end Unseen

def IsBarrier (c : Char) : Prop :=
  isWordChar c = false ∧ c ∉ ['<', '>', '(']

instance (c : Char) : Decidable (IsBarrier c) :=
  inferInstanceAs (Decidable (_ ∧ _))

theorem IsBarrier.isUnseen {c : Char} (barrier : IsBarrier c) : IsUnseen (.mark c) := by
  intro width member
  apply barrier.2
  simpa [VectorWidth.angled] using member

/-- What stands on the two sides of a barrier is lowered apart. -/
theorem lower_append {c : Char} (barrier : IsBarrier c) (a b : Text) :
    lower (a ++ c :: b) = lower a ++ c :: lower b := by
  simp only [lower_eq_mapPieces, pieces_append_mark barrier.1, mapPieces_append barrier.isUnseen,
    mapPieces_mark, unpieces_append, unpieces_mark]

theorem lower_mark_cons {c : Char} (off : isWordChar c = false) (text : Text) :
    lower (c :: text) = c :: lower text := by
  rw [lower_eq_mapPieces, lower_eq_mapPieces, pieces_mark off, mapPieces_mark, unpieces_mark]

theorem lower_marks_append {marks : Text} (off : ∀ c ∈ marks, isWordChar c = false) (text : Text) :
    lower (marks ++ text) = marks ++ lower text := by
  induction marks with
  | nil => rfl
  | cons c marks ih =>
    have rest := ih fun d member => off d (List.mem_cons_of_mem c member)
    rw [List.cons_append, lower_mark_cons (off c List.mem_cons_self), rest, List.cons_append]

section LowLine

variable {word : Text}

theorem isUnseen_of_low_line (low : '_' ∈ word) : IsUnseen (.word word) := by
  intro width member
  obtain rfl : word = [width.digit] := by simpa [VectorWidth.angled] using member
  cases width <;> simp [VectorWidth.digit] at low

theorem scanPieces_of_low_line (low : '_' ∈ word) (behind : List Piece) :
    scanPieces word behind = ([.word word], 0) := by
  have step := scanned word behind
  generalize scanPieces word behind = new at step ⊢
  cases step with
  | maker type | generic type =>
    obtain ⟨kind, width⟩ := type
    cases kind <;> cases width <;> exact absurd low (by decide)
  | construct type => exact absurd low (by cases type.kind <;> decide)
  | cast kind | scalar kind => exact absurd low (by cases kind <;> decide)
  | other => rfl

theorem mapPieces_of_low_line (low : '_' ∈ word) (front behind : List Piece) :
    mapPieces scanPieces (front ++ .word word :: behind) =
      mapPieces scanPieces front ++ .word word :: mapPieces scanPieces behind := by
  rw [mapPieces_append (isUnseen_of_low_line low), mapPieces_word, scanPieces_of_low_line low]
  rfl

theorem lower_word_append (isWord : IsWord word) (low : '_' ∈ word) {rest : Text}
    (off : startsOffWord rest = true) : lower (word ++ rest) = word ++ lower rest := by
  have first := mapPieces_of_low_line low [] (pieces rest)
  rw [List.nil_append, mapPieces_nil, List.nil_append] at first
  rw [lower_eq_mapPieces, lower_eq_mapPieces, pieces_word isWord off, first, unpieces_word]

theorem hasWord_call_lower (isWord : IsWord word) (low : '_' ∈ word) {line : Text}
    (called : HasWord word "(" line) : HasWord word "(" (lower line) := by
  have opens : pieces "(" = [.mark '('] := rfl
  rw [hasWord_iff_pieces isWord rfl, opens] at called ⊢
  obtain ⟨front, tail, same⟩ := called
  have parts : mapPieces scanPieces (pieces line) =
      mapPieces scanPieces front ++ [.word word, .mark '('] ++ mapPieces scanPieces tail := by
    rw [← same, List.append_assoc, List.cons_append, List.singleton_append,
      mapPieces_of_low_line low, mapPieces_mark]
    simp
  rw [pieces_lower, parts]
  exact ⟨_, _, rfl⟩

end LowLine

end Lowering

end IspcShader
