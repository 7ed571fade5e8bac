import IspcShader.Proofs.Lowering.Scan

/-!
Lowering a line that has been lowered. The casts are written last and put a parenthesis in front of
a word; where a generic vector name stands right before it, that parenthesis makes a constructor
call which a second run then spells out. Lowering is repeatable on exactly the other lines.
-/
namespace IspcShader.Lowering

open Text

/-- A generic vector name right in front of the call of a scalar kind, as in `int<2>float(x)`. -/
def CastsBehindGeneric (line : Text) : Prop :=
  ∃ (before : Text) (type : VectorType) (target : ScalarKind) (after : Text),
    endsOffWord before = true ∧ target.isCastTarget = true ∧
      line = before ++ type.genericName ++ target.name ++ "(" ++ after

/-- The pieces of a generic vector name and a cast behind it, for one word. -/
def Exposes (chars : Text) (behind : List Piece) : Prop :=
  ∃ (type : VectorType) (target : ScalarKind) (tail : List Piece),
    target.isCastTarget = true ∧ chars = type.kind.name ∧
      behind = type.width.angled ++ .word target.name :: .mark '(' :: tail

def Exposed : List Piece → Prop
  | [] => False
  | .mark _ :: rest => Exposed rest
  | .word chars :: rest => Exposes chars rest ∨ Exposed rest

inductive Settled : List Piece → Prop
  | nil : Settled []
  | mark (c : Char) {rest : List Piece} (more : Settled rest) : Settled (.mark c :: rest)
  | word {chars : Text} {rest : List Piece} (kept : scanPieces chars rest = ([.word chars], 0))
      (more : Settled rest) : Settled (.word chars :: rest)

theorem settled_mark_iff {c : Char} {rest : List Piece} :
    Settled (.mark c :: rest) ↔ Settled rest := by
  refine ⟨fun h => ?_, .mark c⟩
  cases h with
  | mark _ more => exact more

theorem settled_word_iff {chars : Text} {rest : List Piece} :
    Settled (.word chars :: rest) ↔ scanPieces chars rest = ([.word chars], 0) ∧ Settled rest := by
  refine ⟨fun h => ?_, fun h => .word h.1 h.2⟩
  cases h with
  | word kept more => exact ⟨kept, more⟩

/-- A rewritten word does not come out as it went in. -/
theorem kept_or_head_ne (chars : Text) (behind : List Piece) :
    scanPieces chars behind = ([.word chars], 0) ∨
      ∃ first others, (scanPieces chars behind).1 = first :: others ∧ first ≠ .word chars := by
  have step := scanned chars behind
  generalize scanPieces chars behind = new at step ⊢
  cases step with
  | maker type _ =>
    refine .inr ⟨_, _, rfl, ?_⟩
    intro same
    have impossible := congrArg VectorType.ofShortName? (Piece.word.inj same)
    simp at impossible
  | generic type _ =>
    refine .inr ⟨_, _, rfl, ?_⟩
    intro same
    have impossible := congrArg ScalarKind.ofName? (Piece.word.inj same)
    simp at impossible
  | construct type _ =>
    refine .inr ⟨_, _, rfl, ?_⟩
    intro same
    have impossible := congrArg ScalarKind.ofName? (Piece.word.inj same)
    simp at impossible
  | cast kind _ _ => exact .inr ⟨_, _, rfl, by simp⟩
  | scalar kind _ _ => exact .inl rfl
  | other _ _ => exact .inl rfl

theorem mapPieces_scanPieces_eq_self_iff {list : List Piece} :
    mapPieces scanPieces list = list ↔ Settled list := by
  induction list with
  | nil => exact ⟨fun _ => .nil, fun _ => mapPieces_nil scanPieces⟩
  | cons piece rest ih =>
    cases piece with
    | mark c => rw [mapPieces_mark, List.cons_inj_right, ih, settled_mark_iff]
    | word chars =>
      rw [mapPieces_word, settled_word_iff]
      rcases kept_or_head_ne chars rest with kept | ⟨first, others, lead, changed⟩
      · rw [kept, List.drop_zero, List.singleton_append, List.cons_inj_right, ih]
        simp
      · refine ⟨fun same => ?_, fun h => ?_⟩
        · rw [lead, List.cons_append] at same
          exact absurd (List.cons.inj same).1 changed
        · rw [h.1] at lead
          exact absurd (List.cons.inj lead).1.symm changed

theorem not_exposes_of_ofName? {chars : Text} (named : ScalarKind.ofName? chars = none)
    (behind : List Piece) : ¬ Exposes chars behind := by
  rintro ⟨type, target, tail, -, rfl, -⟩
  simp at named

theorem exposed_angled (width : VectorWidth) (rest : List Piece) :
    Exposed (width.angled ++ rest) ↔ Exposed rest := by
  change Exposes [width.digit] _ ∨ Exposed rest ↔ Exposed rest
  simp [not_exposes_of_ofName? (ScalarKind.ofName?_digit width)]

theorem exposes_name_iff {kind : ScalarKind} {behind : List Piece} :
    Exposes kind.name behind ↔ ∃ (width : VectorWidth) (target : ScalarKind) (tail : List Piece),
      target.isCastTarget = true ∧
        behind = width.angled ++ .word target.name :: .mark '(' :: tail := by
  constructor
  · rintro ⟨type, target, tail, casts, -, follows⟩
    exact ⟨type.width, target, tail, casts, follows⟩
  · rintro ⟨width, target, tail, casts, follows⟩
    exact ⟨⟨kind, width⟩, target, tail, casts, rfl, follows⟩

theorem settled_makerName (type : VectorType) (rest : List Piece) :
    Settled (.word type.makerName :: rest) ↔ Settled rest := by
  simp [settled_word_iff, scanPieces]

theorem settled_angled (width : VectorWidth) (rest : List Piece) :
    Settled (width.angled ++ rest) ↔ Settled rest := by
  simp [VectorWidth.angled, settled_mark_iff, settled_word_iff, scanPieces]

theorem settled_generic (type : VectorType) {rest : List Piece} (closed : opensCall rest = false) :
    Settled (.word type.kind.name :: (type.width.angled ++ rest)) ↔ Settled rest := by
  have kept :
      scanPieces type.kind.name (type.width.angled ++ rest) = ([.word type.kind.name], 0) := by
    have angle : opensCall (type.width.angled ++ rest) = false := by
      simp [VectorWidth.angled, opensCall]
    simp [scanPieces_name, widthAhead?_angled, closed, angle]
  rw [settled_word_iff, settled_angled]
  exact and_iff_right kept

theorem settled_cast (kind : ScalarKind) (rest : List Piece) :
    Settled (.mark '(' :: .word kind.name :: .mark ')' :: rest) ↔ Settled rest := by
  have plain : widthAhead? (.mark ')' :: rest) = none := rfl
  have kept : scanPieces kind.name (.mark ')' :: rest) = ([.word kind.name], 0) := by
    simp [scanPieces_name, plain, opensCall]
  rw [settled_mark_iff, settled_word_iff, settled_mark_iff]
  exact and_iff_right kept

/-- In front of no word, the scan opens an argument list exactly where there was one. -/
theorem opensCall_scan {list : List Piece} (h : Parted list)
    (off : startsOffWord (unpieces list) = true) :
    opensCall (mapPieces scanPieces list) = opensCall list := by
  rcases h.cases_of_startsOffWord off with rfl | ⟨c, more, rfl, -, -⟩
  · simp
  · simp [opensCall]

theorem mapPieces_scanPieces_angled (width : VectorWidth) (rest : List Piece) :
    mapPieces scanPieces (width.angled ++ rest) = width.angled ++ mapPieces scanPieces rest := by
  simp [VectorWidth.angled, mapPieces_word, scanPieces]

theorem mapPieces_scanPieces_cast {target : ScalarKind} (casts : target.isCastTarget = true)
    (tail : List Piece) :
    mapPieces scanPieces (.word target.name :: .mark '(' :: tail) =
      .mark '(' :: .word target.name :: .mark ')' :: .mark '(' :: mapPieces scanPieces tail := by
  have none_ahead : widthAhead? (.mark '(' :: tail) = none := rfl
  simp [mapPieces_word, scanPieces_name, none_ahead, casts, opensCall]

/-- Where the scan writes `<4>`, it stood in the line already. -/
theorem eq_angled_of_mapPieces {list out : List Piece} {width : VectorWidth} (h : Parted list)
    (off : startsOffWord (unpieces list) = true)
    (angled : mapPieces scanPieces list = width.angled ++ .mark '(' :: out) :
    ∃ rest, list = width.angled ++ rest ∧ opensCall (mapPieces scanPieces rest) = true := by
  rcases h.cases_of_startsOffWord off with rfl | ⟨c, inner, rfl, -, parted⟩
  · simp [VectorWidth.angled] at angled
  rw [mapPieces_mark] at angled
  obtain ⟨first, inside⟩ := List.cons.inj angled
  change mapPieces scanPieces inner = .word [width.digit] :: .mark '>' :: .mark '(' :: out at inside
  cases parted with
  | nil => simp at inside
  | mark _ _ => simp at inside
  | @word chars rest _ stop more =>
    have step := scanned chars rest
    rw [mapPieces_word] at inside
    generalize scanPieces chars rest = new at step inside
    -- a single digit is no name, so only a word that is kept can be the one between the brackets
    cases step with
    | maker type _ | construct type _ =>
      have impossible := congrArg List.length (Piece.word.inj (List.cons.inj inside).1)
      unfold VectorType.makerName at impossible
      have lead : ("make_" : Text).length = 5 := rfl
      rw [List.length_append, lead, List.length_singleton] at impossible
      omega
    | cast kind _ _ => cases (List.cons.inj inside).1
    | generic type _ =>
      have impossible := congrArg ScalarKind.ofName? (Piece.word.inj (List.cons.inj inside).1)
      simp at impossible
    | scalar kind _ _ =>
      have impossible := congrArg ScalarKind.ofName? (Piece.word.inj (List.cons.inj inside).1)
      simp at impossible
    | other _ _ =>
      obtain ⟨digit, closing⟩ := List.cons.inj inside
      rcases more.cases_of_startsOffWord stop with rfl | ⟨d, tail, rfl, -, -⟩
      · simp at closing
      rw [List.drop_zero, mapPieces_mark] at closing
      obtain ⟨last, opening⟩ := List.cons.inj closing
      exact ⟨tail, by rw [first, digit, last]; rfl, opensCall_iff.mpr ⟨out, opening⟩⟩

/-- An argument list that the scan opens and that was not there before is the operand of a cast. -/
theorem cast_of_opensCall {list : List Piece}
    (opened : opensCall (mapPieces scanPieces list) = true) :
    opensCall list = true ∨ ∃ (target : ScalarKind) (tail : List Piece),
      target.isCastTarget = true ∧ list = .word target.name :: .mark '(' :: tail := by
  match list with
  | [] => simp [opensCall] at opened
  | .mark c :: rest => exact .inl (by simpa [opensCall] using opened)
  | .word chars :: rest =>
    have step := scanned chars rest
    rw [mapPieces_word] at opened
    generalize scanPieces chars rest = new at step opened
    cases step with
    | cast target casts opens =>
      obtain ⟨tail, rfl⟩ := opensCall_iff.mp opens
      exact .inr ⟨target, tail, casts, rfl⟩
    | maker | generic | construct | scalar | other => simp [opensCall] at opened

/-- The only `<4>(` that the scan can make is one whose parenthesis starts a cast. -/
theorem widthAhead?_scan_eq_some_iff {list : List Piece} {width : VectorWidth} (h : Parted list)
    (off : startsOffWord (unpieces list) = true) (plain : widthAhead? list = none) :
    widthAhead? (mapPieces scanPieces list) = some width ↔
      ∃ (target : ScalarKind) (tail : List Piece),
        target.isCastTarget = true ∧
          list = width.angled ++ .word target.name :: .mark '(' :: tail := by
  constructor
  · intro ahead
    obtain ⟨out, angled⟩ := widthAhead?_eq_some_iff.mp ahead
    obtain ⟨rest, rfl, opened⟩ := eq_angled_of_mapPieces h off angled
    rcases cast_of_opensCall opened with direct | ⟨target, tail, casts, rfl⟩
    · rw [widthAhead?_angled, if_pos direct] at plain
      cases plain
    · exact ⟨target, tail, casts, rfl⟩
  · rintro ⟨target, tail, casts, rfl⟩
    rw [mapPieces_scanPieces_angled, mapPieces_scanPieces_cast casts, widthAhead?_angled]
    rfl

theorem widthAhead?_scan_eq_none_iff {list : List Piece} (h : Parted list)
    (off : startsOffWord (unpieces list) = true) (plain : widthAhead? list = none) :
    widthAhead? (mapPieces scanPieces list) = none ↔
      ¬ ∃ (width : VectorWidth) (target : ScalarKind) (tail : List Piece),
        target.isCastTarget = true ∧
          list = width.angled ++ .word target.name :: .mark '(' :: tail := by
  simp only [Option.eq_none_iff_forall_ne_some, ne_eq, widthAhead?_scan_eq_some_iff h off plain,
    not_exists]

/-- The scan's output is settled unless a generic name in its input stands in front of a cast. -/
theorem settled_scan_iff {list : List Piece} (h : Parted list) :
    Settled (mapPieces scanPieces list) ↔ ¬ Exposed list := by
  fun_induction mapPieces scanPieces list with
  | case1 => exact ⟨fun _ => id, fun _ => .nil⟩
  | case2 c rest ih =>
    cases h with
    | mark _ more => exact settled_mark_iff.trans (ih more)
  | case3 chars rest ih =>
    have step := scanned chars rest
    generalize scanPieces chars rest = new at ih step ⊢
    cases h with
    | word _ off more =>
      have later := ih (more.drop _)
      rw [Exposed, not_or]
      cases step with
      | maker type _ =>
        have hidden := not_exposes_of_ofName? (ScalarKind.ofName?_shortName type) rest
        rw [List.singleton_append, settled_makerName, later]
        exact (and_iff_right hidden).symm
      | generic type closed =>
        have hidden := not_exposes_of_ofName? (ScalarKind.ofName?_shortName type) rest
        have shut : opensCall (mapPieces scanPieces rest) = false := by
          rw [opensCall_scan more off, closed]
        exact (settled_generic type shut).trans (later.trans (and_iff_right hidden).symm)
      | construct type ahead =>
        obtain ⟨tail, rfl⟩ := widthAhead?_eq_some_iff.mp ahead
        have hidden : ¬ Exposes type.kind.name (type.width.angled ++ .mark '(' :: tail) := by
          rintro ⟨other, target, rest, -, -, same⟩
          simp [VectorWidth.angled] at same
        rw [List.singleton_append, settled_makerName, exposed_angled]
        exact later.trans (and_iff_right hidden).symm
      | cast kind target opened =>
        have hidden : ¬ Exposes kind.name rest := by
          obtain ⟨tail, rfl⟩ := opensCall_iff.mp opened
          rintro ⟨type, _, _, -, -, same⟩
          cases (List.cons.inj same).1
        exact (settled_cast kind _).trans (later.trans (and_iff_right hidden).symm)
      | scalar kind plain uncast =>
        have kept : scanPieces kind.name (mapPieces scanPieces rest) = ([.word kind.name], 0) ↔
            ¬ Exposes kind.name rest := by
          rw [exposes_name_iff, ← widthAhead?_scan_eq_none_iff more off plain]
          rw [← opensCall_scan more off] at uncast
          simp only [scanPieces_name, uncast]
          cases widthAhead? (mapPieces scanPieces rest) with
          | none => simp
          | some width => simp
        exact settled_word_iff.trans (and_congr kept later)
      | other short named =>
        have hidden := not_exposes_of_ofName? named rest
        have kept : scanPieces chars (mapPieces scanPieces rest) = ([.word chars], 0) := by
          simp [scanPieces, short, named]
        exact settled_word_iff.trans ((and_iff_right kept).trans
          (later.trans (and_iff_right hidden).symm))

theorem exposed_append {front back : List Piece} (h : Exposed back) : Exposed (front ++ back) := by
  induction front with
  | nil => exact h
  | cons piece front ih =>
    cases piece with
    | mark c => exact ih
    | word chars => exact .inr ih

theorem exists_append_of_exposed {list : List Piece} (h : Exposed list) :
    ∃ front chars behind, list = front ++ .word chars :: behind ∧ Exposes chars behind := by
  induction list with
  | nil => cases h
  | cons piece rest ih =>
    cases piece with
    | mark c =>
      obtain ⟨front, chars, behind, rfl, exposes⟩ := ih h
      exact ⟨.mark c :: front, chars, behind, rfl, exposes⟩
    | word chars =>
      rcases h with here | later
      · exact ⟨[], chars, rest, rfl, here⟩
      · obtain ⟨front, inner, behind, rfl, exposes⟩ := ih later
        exact ⟨.word chars :: front, inner, behind, rfl, exposes⟩

theorem exposed_pieces_iff (line : Text) : Exposed (pieces line) ↔ CastsBehindGeneric line := by
  constructor
  · intro h
    have parted := parted_pieces line
    obtain ⟨front, chars, behind, cut, type, target, tail, casts, rfl, rfl⟩ :=
      exists_append_of_exposed h
    rw [cut] at parted
    refine ⟨unpieces front, type, target, unpieces tail,
      parted.endsOffWord_of_append_word, casts, ?_⟩
    rw [← unpieces_pieces line, cut]
    simp [VectorType.genericName, VectorWidth.angled]
  · rintro ⟨before, type, target, after, off, casts, rfl⟩
    have shape : before ++ type.genericName ++ target.name ++ "(" ++ after =
        before ++ (type.kind.name ++ '<' ::
          ([type.width.digit] ++ '>' :: (target.name ++ '(' :: after))) := by
      simp [VectorType.genericName]
    have cut : pieces (before ++ type.genericName ++ target.name ++ "(" ++ after) = pieces before ++
        .word type.kind.name :: (type.width.angled ++ .word target.name :: .mark '(' ::
          pieces after) := by
      rw [shape, pieces_append off, pieces_word type.kind.isWord_name rfl, pieces_mark (by decide),
        pieces_word type.width.isWord_digit rfl, pieces_mark (by decide),
        pieces_word target.isWord_name rfl, pieces_mark (by decide)]
      rfl
    rw [cut]
    exact exposed_append (.inl ⟨type, target, pieces after, casts, rfl, rfl⟩)

/-- Lowering a lowered line changes it exactly if a generic vector name stands right in front of a
cast call. -/
theorem lower_lower_eq_iff (line : Text) :
    lower (lower line) = lower line ↔ ¬ CastsBehindGeneric line := by
  have cut := parted_pieces line
  have parted := parted_scan cut
  have again : pieces (lower line) = mapPieces scanPieces (pieces line) := by
    rw [lower_eq_mapPieces, pieces_unpieces parted]
  rw [lower_eq_mapPieces (lower line), again, lower_eq_mapPieces line,
    unpieces_inj (parted_scan parted) parted, mapPieces_scanPieces_eq_self_iff,
    settled_scan_iff cut, exposed_pieces_iff]

/-- Two runs make `make_int2(int)(x)` of this line, and one makes `int<2>(int)(x)`. -/
theorem lower_lower_ne : lower (lower "int<2>int(x)") ≠ lower "int<2>int(x)" := by
  decide +kernel

end IspcShader.Lowering
