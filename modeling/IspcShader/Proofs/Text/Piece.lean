import IspcShader.Proofs.Text.Word

/-!
Cutting a text into words and the characters between them. A text has exactly one such cut, so a
function on texts that looks at whole words can be described by what it does to the pieces.
-/
namespace IspcShader.Text

/-- A maximal word, or a character that belongs to no word. -/
inductive Piece where
  | word (chars : Text)
  | mark (c : Char)
  deriving DecidableEq, Repr

namespace Piece

def text : Piece → Text
  | word chars => chars
  | mark c => [c]

/-- Puts a word character in front: it joins the word that stands there. -/
def join (c : Char) : List Piece → List Piece
  | word chars :: rest => word (c :: chars) :: rest
  | pieces => word [c] :: pieces

end Piece

def unpieces (pieces : List Piece) : Text :=
  pieces.flatMap Piece.text

def pieces : Text → List Piece
  | [] => []
  | c :: rest => if isWordChar c then Piece.join c (pieces rest) else .mark c :: pieces rest

/-- Pieces as they come out of a text: words are words, marks are not word characters, and no two
words touch. -/
inductive Parted : List Piece → Prop
  | nil : Parted []
  | mark {c : Char} {rest : List Piece} (off : isWordChar c = false) (more : Parted rest) :
      Parted (.mark c :: rest)
  | word {chars : Text} {rest : List Piece} (isWord : IsWord chars)
      (off : startsOffWord (unpieces rest) = true) (more : Parted rest) :
      Parted (.word chars :: rest)

@[simp] theorem unpieces_nil : unpieces [] = [] := rfl

@[simp] theorem unpieces_mark (c : Char) (rest : List Piece) :
    unpieces (.mark c :: rest) = c :: unpieces rest := rfl

@[simp] theorem unpieces_word (chars : Text) (rest : List Piece) :
    unpieces (.word chars :: rest) = chars ++ unpieces rest := rfl

@[simp] theorem unpieces_append (a b : List Piece) :
    unpieces (a ++ b) = unpieces a ++ unpieces b := by
  simp [unpieces]

theorem unpieces_join (c : Char) (rest : List Piece) :
    unpieces (Piece.join c rest) = c :: unpieces rest := by
  match rest with
  | [] => rfl
  | .word chars :: rest => rfl
  | .mark d :: rest => rfl

@[simp] theorem unpieces_pieces (text : Text) : unpieces (pieces text) = text := by
  induction text with
  | nil => rfl
  | cons c rest ih =>
    simp only [pieces]
    split
    · rw [unpieces_join, ih]
    · rw [unpieces_mark, ih]

/-- After a word comes a mark or nothing. -/
theorem Parted.cases_of_startsOffWord {rest : List Piece} (h : Parted rest)
    (off : startsOffWord (unpieces rest) = true) :
    rest = [] ∨ ∃ c more, rest = .mark c :: more ∧ isWordChar c = false ∧ Parted more := by
  cases h with
  | nil => exact .inl rfl
  | mark stop more => exact .inr ⟨_, _, rfl, stop, more⟩
  | @word chars rest isWord _ _ =>
    cases chars with
    | nil => exact absurd rfl isWord.ne_nil
    | cons c chars =>
      have on := isWord.chars c List.mem_cons_self
      simp [startsOffWord, on] at off

theorem Parted.drop {list : List Piece} (h : Parted list) (n : Nat) : Parted (list.drop n) := by
  induction h generalizing n with
  | nil => simpa using Parted.nil
  | mark off more ih =>
    cases n with
    | zero => exact .mark off more
    | succ n => exact ih n
  | word isWord off more ih =>
    cases n with
    | zero => exact .word isWord off more
    | succ n => exact ih n

theorem Parted.join {c : Char} {rest : List Piece} (on : isWordChar c = true) (h : Parted rest) :
    Parted (Piece.join c rest) := by
  have single : IsWord [c] := ⟨by simp, by simpa using on⟩
  cases h with
  | nil => exact .word single rfl .nil
  | mark stop more => exact .word single (by simp [startsOffWord, stop]) (.mark stop more)
  | word isWord off more => exact .word (single.append isWord.chars) off more

theorem Parted.endsOffWord_of_append_word {front behind : List Piece} {chars : Text}
    (h : Parted (front ++ .word chars :: behind)) : endsOffWord (unpieces front) = true := by
  rcases List.eq_nil_or_concat front with rfl | ⟨most, piece, rfl⟩
  · rfl
  have suffix := h.drop most.length
  rw [List.concat_eq_append, List.append_assoc, List.drop_left] at suffix
  cases suffix with
  | mark off _ => simp [endsOffWord, off]
  | word _ off more =>
    rcases more.cases_of_startsOffWord off with none | ⟨c, rest, mark, -⟩
    · cases none
    · cases mark

theorem parted_pieces (text : Text) : Parted (pieces text) := by
  induction text with
  | nil => exact .nil
  | cons c rest ih =>
    simp only [pieces]
    split
    · next on => exact ih.join on
    · next stop => exact .mark (by simpa using stop) ih

theorem pieces_mark {c : Char} (off : isWordChar c = false) (rest : Text) :
    pieces (c :: rest) = .mark c :: pieces rest := by
  simp [pieces, off]

theorem pieces_join {c : Char} (on : isWordChar c = true) (rest : Text) :
    pieces (c :: rest) = Piece.join c (pieces rest) := by
  simp [pieces, on]

theorem pieces_word {word rest : Text} (isWord : IsWord word) (off : startsOffWord rest = true) :
    pieces (word ++ rest) = .word word :: pieces rest := by
  obtain ⟨nonempty, chars⟩ := isWord
  induction word with
  | nil => exact absurd rfl nonempty
  | cons c word ih =>
    have on := chars c List.mem_cons_self
    rw [List.cons_append, pieces_join on]
    cases word with
    | nil =>
      -- the last character of the word meets a mark or the end
      cases rest with
      | nil => rfl
      | cons d rest =>
        have stop : isWordChar d = false := by simpa [startsOffWord] using off
        simp [pieces_mark stop, Piece.join]
    | cons d word =>
      rw [ih (by simp) fun e member => chars e (List.mem_cons_of_mem c member)]
      rfl

theorem join_append (c : Char) {a : List Piece} (nonempty : a ≠ []) (b : List Piece) :
    Piece.join c (a ++ b) = Piece.join c a ++ b := by
  match a with
  | [] => exact absurd rfl nonempty
  | .word chars :: rest => rfl
  | .mark d :: rest => rfl

theorem pieces_append {before : Text} (off : endsOffWord before = true) (rest : Text) :
    pieces (before ++ rest) = pieces before ++ pieces rest := by
  induction before with
  | nil => rfl
  | cons c before ih =>
    cases before with
    | nil =>
      have stop : isWordChar c = false := by simpa [endsOffWord] using off
      simp [pieces, stop]
    | cons d before =>
      have inner := ih (by simpa [endsOffWord] using off)
      have nonempty : pieces (d :: before) ≠ [] := by
        intro none
        have same := unpieces_pieces (d :: before)
        rw [none] at same
        cases same
      cases on : isWordChar c with
      | true => rw [List.cons_append, pieces_join on, pieces_join on, inner, join_append c nonempty]
      | false => rw [List.cons_append, pieces_mark on, pieces_mark on, inner, List.cons_append]

/-- A parted list of pieces is the cut of its text. -/
theorem pieces_unpieces {list : List Piece} (h : Parted list) : pieces (unpieces list) = list := by
  induction h with
  | nil => rfl
  | mark off _ ih => rw [unpieces_mark, pieces_mark off, ih]
  | word isWord off _ ih => rw [unpieces_word, pieces_word isWord off, ih]

theorem unpieces_inj {a b : List Piece} (ha : Parted a) (hb : Parted b) :
    unpieces a = unpieces b ↔ a = b := by
  refine ⟨fun same => ?_, congrArg unpieces⟩
  rw [← pieces_unpieces ha, same, pieces_unpieces hb]

/-- The word stands somewhere in the text as a whole, with `lead` right behind it. -/
def HasWord (word lead text : Text) : Prop :=
  ∃ before after, text = before ++ word ++ (lead ++ after) ∧ endsOffWord before = true ∧
    startsOffWord (lead ++ after) = true

/-- A whole word and a lead that ends in a mark are a run of pieces. -/
theorem hasWord_iff_pieces {word lead : Text} (isWord : IsWord word) (off : endsOffWord lead = true)
    (text : Text) : HasWord word lead text ↔ .word word :: pieces lead <:+: pieces text := by
  constructor
  · rintro ⟨before, after, rfl, start, stop⟩
    rw [List.append_assoc, pieces_append start, pieces_word isWord stop, pieces_append off]
    exact ⟨pieces before, pieces after, by simp⟩
  · rintro ⟨front, tail, same⟩
    have parted := parted_pieces text
    rw [← same, List.append_assoc, List.cons_append] at parted
    refine ⟨unpieces front, unpieces tail, ?_, parted.endsOffWord_of_append_word, ?_⟩
    · rw [← unpieces_pieces text, ← same]
      simp
    · have behind := parted.drop front.length
      rw [List.drop_left] at behind
      cases behind with
      | word _ stop _ => simpa using stop

end IspcShader.Text
