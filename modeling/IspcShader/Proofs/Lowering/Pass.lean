import IspcShader.Proofs.Text.Piece
import IspcShader.Vector.Lowering

/-!
The passes of the lowering as rewritings of pieces. A pass reads its text as words and marks; what
it writes is again parted, so that the next pass finds the same pieces that this one has put there.
-/
namespace IspcShader

open Text

def VectorWidth.angled (width : VectorWidth) : List Piece :=
  [.mark '<', .word [width.digit], .mark '>']

theorem ScalarKind.isWord_name (kind : ScalarKind) : IsWord kind.name := by
  cases kind <;> decide

theorem VectorWidth.isWord_digit (width : VectorWidth) : IsWord [width.digit] := by
  cases width <;> decide

theorem VectorType.isWord_makerName (type : VectorType) : IsWord type.makerName := by
  obtain ⟨kind, width⟩ := type
  cases kind <;> cases width <;> decide

@[simp] theorem ScalarKind.ofName?_digit (width : VectorWidth) : ofName? [width.digit] = none := by
  cases width <;> decide

@[simp] theorem ScalarKind.ofName?_makerName (type : VectorType) :
    ofName? type.makerName = none := by
  obtain ⟨kind, width⟩ := type
  cases kind <;> cases width <;> decide

@[simp] theorem VectorType.ofShortName?_digit (width : VectorWidth) :
    ofShortName? [width.digit] = none := by
  cases width <;> decide

@[simp] theorem VectorType.ofShortName?_name (kind : ScalarKind) :
    ofShortName? kind.name = none := by
  cases kind <;> decide

@[simp] theorem ScalarKind.ofName?_shortName (type : VectorType) :
    ofName? type.shortName = none := by
  obtain ⟨kind, width⟩ := type
  cases kind <;> cases width <;> decide

@[simp] theorem VectorType.ofShortName?_makerName (type : VectorType) :
    ofShortName? type.makerName = none := by
  obtain ⟨kind, width⟩ := type
  cases kind <;> cases width <;> decide

namespace Lowering

/-- A rule for one word among pieces: the pieces that take its place, and how many of the pieces
behind it they cover. -/
abbrev PieceRule := Text → List Piece → List Piece × Nat

/-- Applies a rule to every word, from left to right, and goes on behind what the rule covers. -/
def mapPieces (rule : PieceRule) : List Piece → List Piece
  | [] => []
  | .mark c :: rest => .mark c :: mapPieces rule rest
  | .word chars :: rest => (rule chars rest).1 ++ mapPieces rule (rest.drop (rule chars rest).2)
termination_by list => list.length
decreasing_by
  all_goals
    simp only [List.length_cons, List.length_drop]
    omega

@[simp] theorem mapPieces_nil (rule : PieceRule) : mapPieces rule [] = [] := by
  rw [mapPieces]

@[simp] theorem mapPieces_mark (rule : PieceRule) (c : Char) (rest : List Piece) :
    mapPieces rule (.mark c :: rest) = .mark c :: mapPieces rule rest := by
  rw [mapPieces]

theorem mapPieces_word (rule : PieceRule) (chars : Text) (rest : List Piece) :
    mapPieces rule (.word chars :: rest) =
      (rule chars rest).1 ++ mapPieces rule (rest.drop (rule chars rest).2) := by
  rw [mapPieces]

def opensCall (behind : List Piece) : Bool :=
  decide (behind.head? = some (.mark '('))

/-- The width in `<4>(`, if that follows at once. -/
def widthAhead? : List Piece → Option VectorWidth
  | .mark '<' :: .word [digit] :: .mark '>' :: .mark '(' :: _ => VectorWidth.ofDigit? digit
  | _ => none

theorem opensCall_iff {behind : List Piece} :
    opensCall behind = true ↔ ∃ tail, behind = .mark '(' :: tail := by
  cases behind with
  | nil => simp [opensCall]
  | cons piece tail => simp [opensCall]

theorem widthAhead?_eq_some_iff {behind : List Piece} {width : VectorWidth} :
    widthAhead? behind = some width ↔ ∃ tail, behind = width.angled ++ .mark '(' :: tail := by
  constructor
  · intro found
    unfold widthAhead? at found
    split at found
    · next digit tail =>
      refine ⟨tail, ?_⟩
      rw [← VectorWidth.digit_of_ofDigit? found]
      rfl
    · cases found
  · rintro ⟨tail, rfl⟩
    exact VectorWidth.ofDigit?_digit width

def typePieces : PieceRule := fun chars _ =>
  match VectorType.ofShortName? chars with
  | some type => (.word type.kind.name :: type.width.angled, 0)
  | none => ([.word chars], 0)

def constructorPieces : PieceRule := fun chars behind =>
  match ScalarKind.ofName? chars, widthAhead? behind with
  | some kind, some width => ([.word (VectorType.makerName ⟨kind, width⟩)], 3)
  | _, _ => ([.word chars], 0)

def castPieces : PieceRule := fun chars behind =>
  match ScalarKind.ofName? chars with
  | some kind =>
    if kind.isCastTarget && opensCall behind then ([.mark '(', .word chars, .mark ')'], 0)
    else ([.word chars], 0)
  | none => ([.word chars], 0)

/-- A rule on pieces says what a rule on texts does with a word and the text behind it. -/
def Mirrors (pieceRule : PieceRule) (rule : WordRule) : Prop :=
  ∀ {chars : Text} {behind : List Piece}, Parted (.word chars :: behind) →
    mapWords rule (chars ++ unpieces behind) =
      unpieces (pieceRule chars behind).1 ++
        mapWords rule (unpieces (behind.drop (pieceRule chars behind).2))

theorem mapWords_word (rule : WordRule) {word rest : Text} (isWord : IsWord word)
    (off : startsOffWord rest = true) :
    mapWords rule (word ++ rest) =
      match rule word rest with
      | none => word ++ mapWords rule rest
      | some (new, covered) => new ++ mapWords rule (rest.drop covered) := by
  cases word with
  | nil => exact absurd rfl isWord.ne_nil
  | cons c word =>
    have inner : ∀ d ∈ word, isWordChar d = true := fun d member =>
      isWord.chars d (List.mem_cons_of_mem c member)
    have whole :=
      mapWords_cons_of_isWordChar rule (word ++ rest) (isWord.chars c List.mem_cons_self)
    rw [takeWhile_word inner off, dropWhile_word inner off] at whole
    exact whole

theorem mapWords_unpieces {pieceRule : PieceRule} {rule : WordRule}
    (mirrors : Mirrors pieceRule rule) {list : List Piece} (h : Parted list) :
    mapWords rule (unpieces list) = unpieces (mapPieces pieceRule list) := by
  fun_induction mapPieces pieceRule list with
  | case1 => simp
  | case2 c rest ih =>
    cases h with
    | mark off more =>
      rw [unpieces_mark, mapWords_cons_of_not_isWordChar rule _ off, ih more, unpieces_mark]
  | case3 chars rest ih =>
    rw [unpieces_word, mirrors h, unpieces_append]
    cases h with
    | word isWord off more => rw [ih (more.drop _)]

theorem typePieces_mirrors : Mirrors typePieces typeRule := by
  intro chars behind h
  cases h with
  | word isWord off more =>
    rw [mapWords_word typeRule isWord off]
    cases found : VectorType.ofShortName? chars with
    | none => simp [typeRule, typePieces, found]
    | some type => simp [typeRule, typePieces, found, VectorType.genericName, VectorWidth.angled]

theorem widthAhead?_unpieces {behind : List Piece} (h : Parted behind)
    {width : VectorWidth} {tail : Text}
    (ahead : unpieces behind = '<' :: width.digit :: '>' :: '(' :: tail) :
    widthAhead? behind = some width := by
  rw [widthAhead?_eq_some_iff]
  refine ⟨pieces tail, ?_⟩
  calc behind = pieces ('<' :: width.digit :: '>' :: '(' :: tail) := by
        rw [← ahead, pieces_unpieces h]
    _ = .mark '<' :: pieces ([width.digit] ++ '>' :: '(' :: tail) := pieces_mark (by decide) _
    _ = .mark '<' :: .word [width.digit] :: pieces ('>' :: '(' :: tail) := by
        rw [pieces_word width.isWord_digit (by rfl)]
    _ = width.angled ++ .mark '(' :: pieces tail := by
        rw [pieces_mark (by decide), pieces_mark (by decide)]
        rfl

theorem constructorPieces_mirrors : Mirrors constructorPieces constructorRule := by
  intro chars behind h
  cases h with
  | word isWord off more =>
    rw [mapWords_word constructorRule isWord off]
    cases named : ScalarKind.ofName? chars with
    | none => simp [constructorRule, constructorPieces, named]
    | some kind =>
      cases ahead : widthAhead? behind with
      | some width =>
        have replaced : constructorPieces chars behind =
            ([.word (VectorType.makerName ⟨kind, width⟩)], 3) := by
          simp [constructorPieces, named, ahead]
        obtain ⟨tail, rfl⟩ := widthAhead?_eq_some_iff.mp ahead
        -- the rule on texts covers the parenthesis and writes it again; here it is passed as a mark
        have copied := mapWords_cons_of_not_isWordChar constructorRule (unpieces tail)
          (show isWordChar '(' = false by decide)
        rw [replaced]
        simp [constructorRule, named, VectorWidth.angled, copied]
      | none =>
        have quiet : constructorRule chars (unpieces behind) = none := by
          unfold constructorRule
          split
          · next digit tail _ text =>
            cases wide : VectorWidth.ofDigit? digit with
            | none => rfl
            | some width =>
              rw [← VectorWidth.digit_of_ofDigit? wide] at text
              rw [widthAhead?_unpieces more text] at ahead
              cases ahead
          · rfl
        simp [quiet, constructorPieces, named, ahead]

theorem castPieces_mirrors : Mirrors castPieces castRule := by
  intro chars behind h
  cases h with
  | word isWord off more =>
    rw [mapWords_word castRule isWord off]
    cases named : ScalarKind.ofName? chars with
    | none => simp [castRule, castPieces, named]
    | some kind =>
      have spelled := ScalarKind.name_of_ofName? named
      rcases more.cases_of_startsOffWord off with rfl | ⟨c, rest, rfl, stop, -⟩
      · simp [castRule, castPieces, named, opensCall]
      · have copied := mapWords_cons_of_not_isWordChar castRule (unpieces rest) stop
        by_cases opened : c = '('
        · subst opened
          cases target : kind.isCastTarget with
          | true => simp [castRule, castPieces, named, opensCall, target, copied, spelled]
          | false => simp [castRule, castPieces, named, opensCall, target]
        · simp [castRule, castPieces, named, opensCall, opened]

/-- What a rule writes is parted, whatever mark or end follows it, and the rule stops in front of
one. -/
structure KeepsParted (rule : PieceRule) : Prop where
  written : ∀ {chars behind more}, Parted (.word chars :: behind) → Parted more →
    startsOffWord (unpieces more) = true → Parted ((rule chars behind).1 ++ more)
  stops : ∀ {chars behind}, Parted (.word chars :: behind) →
    startsOffWord (unpieces (behind.drop (rule chars behind).2)) = true

theorem startsOffWord_mapPieces (rule : PieceRule) {list : List Piece} (h : Parted list)
    (off : startsOffWord (unpieces list) = true) :
    startsOffWord (unpieces (mapPieces rule list)) = true := by
  rcases h.cases_of_startsOffWord off with rfl | ⟨c, more, rfl, stop, -⟩
  · simpa using off
  · simp [startsOffWord_cons, stop]

theorem parted_mapPieces {rule : PieceRule} (keeps : KeepsParted rule) {list : List Piece}
    (h : Parted list) : Parted (mapPieces rule list) := by
  fun_induction mapPieces rule list with
  | case1 => exact .nil
  | case2 c rest ih =>
    cases h with
    | mark off more => exact .mark off (ih more)
  | case3 chars rest ih =>
    have behind : Parted (rest.drop (rule chars rest).2) := by
      cases h with
      | word _ _ more => exact more.drop _
    exact keeps.written h (ih behind) (startsOffWord_mapPieces rule behind (keeps.stops h))

theorem parted_angled_append {more : List Piece} (width : VectorWidth) (h : Parted more) :
    Parted (width.angled ++ more) := by
  refine .mark (by decide) (.word width.isWord_digit ?_ (.mark (by decide) h))
  simp [startsOffWord_cons, show isWordChar '>' = false by decide]

theorem typePieces_keepsParted : KeepsParted typePieces := by
  refine ⟨?_, ?_⟩
  · intro chars behind more h parted off
    cases h with
    | word isWord _ _ =>
      unfold typePieces
      split
      · next type _ =>
        refine .word type.kind.isWord_name ?_ (parted_angled_append type.width parted)
        rfl
      · exact .word isWord off parted
  · intro chars behind h
    cases h with
    | word _ off _ =>
      unfold typePieces
      split <;> exact off

theorem constructorPieces_keepsParted : KeepsParted constructorPieces := by
  refine ⟨?_, ?_⟩
  · intro chars behind more h parted off
    cases h with
    | word isWord _ _ =>
      unfold constructorPieces
      split
      · exact .word (VectorType.isWord_makerName _) off parted
      · exact .word isWord off parted
  · intro chars behind h
    cases h with
    | word _ off _ =>
      unfold constructorPieces
      split
      · next ahead =>
        obtain ⟨tail, rfl⟩ := widthAhead?_eq_some_iff.mp ahead
        rfl
      · exact off

theorem castPieces_keepsParted : KeepsParted castPieces := by
  refine ⟨?_, ?_⟩
  · intro chars behind more h parted off
    cases h with
    | word isWord _ _ =>
      have plain : Parted ([.word chars] ++ more) := .word isWord off parted
      unfold castPieces
      split
      · split
        · refine .mark (by decide) (.word isWord ?_ (.mark (by decide) parted))
          rfl
        · exact plain
      · exact plain
  · intro chars behind h
    cases h with
    | word _ off _ =>
      unfold castPieces
      split
      · split <;> exact off
      · exact off

/-- The three passes on a text are the three rules on its pieces. -/
theorem lower_eq_unpieces (line : Text) :
    lower line =
      unpieces (mapPieces castPieces
        (mapPieces constructorPieces (mapPieces typePieces (pieces line)))) := by
  have cut := parted_pieces line
  have typed := parted_mapPieces typePieces_keepsParted cut
  have made := parted_mapPieces constructorPieces_keepsParted typed
  calc lower line = castPass (constructorPass (typePass (unpieces (pieces line)))) := by
        rw [unpieces_pieces, lower]
    _ = castPass (constructorPass (unpieces (mapPieces typePieces (pieces line)))) := by
        rw [typePass, mapWords_unpieces typePieces_mirrors cut]
    _ = castPass (unpieces (mapPieces constructorPieces (mapPieces typePieces (pieces line)))) := by
        rw [constructorPass, mapWords_unpieces constructorPieces_mirrors typed]
    _ = _ := by rw [castPass, mapWords_unpieces castPieces_mirrors made]

end Lowering
end IspcShader
