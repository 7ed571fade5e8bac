import IspcShader.Proofs.Lowering.Pass

/-!
The lowering as a single scan. The passes work on one another's output, and each writes characters
that another one looks for; nevertheless they do together what one pass does that looks ahead in the
line as it was read.
-/
namespace IspcShader.Lowering

open Text

/-- What the scan makes of a word. A short vector name becomes the constructor function in front of
an argument list and the generic name elsewhere; a scalar kind in front of `<4>(` becomes the
constructor function, and the other calls of a scalar kind become casts. -/
def scanPieces : PieceRule := fun chars behind =>
  match VectorType.ofShortName? chars with
  | some type =>
    (if opensCall behind then [.word ("make_" ++ chars)]
      else .word type.kind.name :: type.width.angled, 0)
  | none =>
    match ScalarKind.ofName? chars with
    | some _ =>
      match widthAhead? behind with
      | some width => ([.word ("make_" ++ chars ++ [width.digit])], 3)
      | none =>
        (if (["int", "uint", "float"] : List Text).contains chars && opensCall behind then
          [.mark '(', .word chars, .mark ')']
        else [.word chars], 0)
    | none => ([.word chars], 0)

/-- The scan on a scalar kind, with the names that the passes have for them. -/
theorem scanPieces_name (kind : ScalarKind) (behind : List Piece) :
    scanPieces kind.name behind =
      match widthAhead? behind with
      | some width => ([.word (VectorType.makerName ⟨kind, width⟩)], 3)
      | none =>
        (if kind.isCastTarget && opensCall behind then [.mark '(', .word kind.name, .mark ')']
          else [.word kind.name], 0) := by
  have casts : (["int", "uint", "float"] : List Text).contains kind.name = kind.isCastTarget := by
    cases kind <;> decide
  simp only [scanPieces, VectorType.ofShortName?_name, ScalarKind.ofName?_name, casts,
    List.append_assoc]
  rfl

/-- Everything the scan can do with a word, by what the word is and what follows it. -/
inductive Scanned : Text → List Piece → List Piece × Nat → Prop
  | maker (type : VectorType) {behind : List Piece} (opened : opensCall behind = true) :
      Scanned type.shortName behind ([.word type.makerName], 0)
  | generic (type : VectorType) {behind : List Piece} (closed : opensCall behind = false) :
      Scanned type.shortName behind (.word type.kind.name :: type.width.angled, 0)
  | construct (type : VectorType) {behind : List Piece}
      (ahead : widthAhead? behind = some type.width) :
      Scanned type.kind.name behind ([.word type.makerName], 3)
  | cast (kind : ScalarKind) {behind : List Piece} (target : kind.isCastTarget = true)
      (opened : opensCall behind = true) :
      Scanned kind.name behind ([.mark '(', .word kind.name, .mark ')'], 0)
  | scalar (kind : ScalarKind) {behind : List Piece} (plain : widthAhead? behind = none)
      (uncast : (kind.isCastTarget && opensCall behind) = false) :
      Scanned kind.name behind ([.word kind.name], 0)
  | other {chars : Text} {behind : List Piece} (short : VectorType.ofShortName? chars = none)
      (named : ScalarKind.ofName? chars = none) : Scanned chars behind ([.word chars], 0)

theorem scanned (chars : Text) (behind : List Piece) :
    Scanned chars behind (scanPieces chars behind) := by
  cases short : VectorType.ofShortName? chars with
  | some type =>
    rw [scanPieces, short]
    obtain rfl := VectorType.shortName_of_ofShortName? short
    cases opened : opensCall behind with
    | true => exact .maker type opened
    | false => exact .generic type opened
  | none =>
    cases named : ScalarKind.ofName? chars with
    | none =>
      rw [scanPieces, short, named]
      exact .other short named
    | some kind =>
      obtain rfl := ScalarKind.name_of_ofName? named
      rw [scanPieces_name]
      cases ahead : widthAhead? behind with
      | some width => exact .construct ⟨kind, width⟩ ahead
      | none =>
        dsimp only
        split
        · next casts =>
          obtain ⟨target, opened⟩ := Bool.and_eq_true_iff.mp casts
          exact .cast kind target opened
        · next uncast => exact .scalar kind ahead (Bool.eq_false_iff.mpr uncast)

def scan (line : Text) : Text :=
  unpieces (mapPieces scanPieces (pieces line))

/-- Whether a rule puts a word in the place of every word, so that no argument list opens where none
did before. -/
def LeadsWithWord (rule : PieceRule) : Prop :=
  ∀ chars behind, ∃ first others, (rule chars behind).1 = .word first :: others

theorem typePieces_leadsWithWord : LeadsWithWord typePieces := by
  intro chars behind
  unfold typePieces
  split <;> exact ⟨_, _, rfl⟩

theorem constructorPieces_leadsWithWord : LeadsWithWord constructorPieces := by
  intro chars behind
  unfold constructorPieces
  split <;> exact ⟨_, _, rfl⟩

theorem mapPieces_eq_mark {rule : PieceRule} (leads : LeadsWithWord rule) {list out : List Piece}
    {c : Char} (h : mapPieces rule list = .mark c :: out) :
    ∃ rest, list = .mark c :: rest ∧ mapPieces rule rest = out := by
  match list with
  | [] => simp at h
  | .mark d :: rest =>
    rw [mapPieces_mark] at h
    obtain ⟨same, tail⟩ := List.cons.inj h
    exact ⟨rest, by rw [same], tail⟩
  | .word chars :: rest =>
    obtain ⟨first, others, lead⟩ := leads chars rest
    rw [mapPieces_word, lead] at h
    cases h

theorem opensCall_mapPieces {rule : PieceRule} (leads : LeadsWithWord rule) (list : List Piece) :
    opensCall (mapPieces rule list) = opensCall list := by
  rw [Bool.eq_iff_iff, opensCall_iff, opensCall_iff]
  constructor
  · rintro ⟨tail, opened⟩
    obtain ⟨rest, same, -⟩ := mapPieces_eq_mark leads opened
    exact ⟨rest, same⟩
  · rintro ⟨tail, rfl⟩
    exact ⟨mapPieces rule tail, mapPieces_mark rule '(' tail⟩

theorem mapPieces_typePieces_angled (width : VectorWidth) (rest : List Piece) :
    mapPieces typePieces (width.angled ++ rest) = width.angled ++ mapPieces typePieces rest := by
  simp [VectorWidth.angled, mapPieces_word, typePieces]

theorem widthAhead?_mapPieces_typePieces (list : List Piece) :
    widthAhead? (mapPieces typePieces list) = widthAhead? list := by
  ext width
  simp only [widthAhead?_eq_some_iff]
  constructor
  · rintro ⟨tail, ahead⟩
    obtain ⟨inner, rfl, inside⟩ := mapPieces_eq_mark typePieces_leadsWithWord ahead
    change mapPieces typePieces inner =
        .word [width.digit] :: .mark '>' :: .mark '(' :: tail at inside
    match inner with
    | [] => simp at inside
    | .mark c :: _ => simp at inside
    | .word chars :: rest =>
      rw [mapPieces_word] at inside
      cases found : VectorType.ofShortName? chars with
      | some type => simp [typePieces, found, VectorWidth.angled] at inside
      | none =>
        simp only [typePieces, found, List.drop_zero, List.singleton_append, List.cons.injEq,
          Piece.word.injEq] at inside
        obtain ⟨rfl, closing⟩ := inside
        obtain ⟨rest, rfl, opening⟩ := mapPieces_eq_mark typePieces_leadsWithWord closing
        obtain ⟨rest, rfl, -⟩ := mapPieces_eq_mark typePieces_leadsWithWord opening
        exact ⟨rest, rfl⟩
  · rintro ⟨tail, rfl⟩
    exact ⟨mapPieces typePieces tail, by rw [mapPieces_typePieces_angled, mapPieces_mark]⟩

theorem widthAhead?_angled (width : VectorWidth) (rest : List Piece) :
    widthAhead? (width.angled ++ rest) = if opensCall rest then some width else none := by
  split
  · next opened =>
    obtain ⟨tail, rfl⟩ := opensCall_iff.mp opened
    exact widthAhead?_eq_some_iff.mpr ⟨tail, rfl⟩
  · next closed =>
    cases ahead : widthAhead? (width.angled ++ rest) with
    | none => rfl
    | some other =>
      obtain ⟨tail, same⟩ := widthAhead?_eq_some_iff.mp ahead
      have follows : rest = .mark '(' :: tail := by
        simpa [VectorWidth.angled] using (List.append_inj same rfl).2
      exact absurd (opensCall_iff.mpr ⟨tail, follows⟩) closed

theorem mapPieces_castPieces_angled (width : VectorWidth) (rest : List Piece) :
    mapPieces castPieces (width.angled ++ rest) = width.angled ++ mapPieces castPieces rest := by
  simp [VectorWidth.angled, mapPieces_word, castPieces]

theorem mapPieces_constructorPieces_angled (width : VectorWidth) (rest : List Piece) :
    mapPieces constructorPieces (width.angled ++ rest) =
      width.angled ++ mapPieces constructorPieces rest := by
  simp [VectorWidth.angled, mapPieces_word, constructorPieces]

theorem mapPieces_castPieces_makerName (type : VectorType) (rest : List Piece) :
    mapPieces castPieces (.word type.makerName :: rest) =
      .word type.makerName :: mapPieces castPieces rest := by
  simp [mapPieces_word, castPieces]

/-- The later passes on a type name that the first one has lowered. -/
theorem later_passes_generic (type : VectorType) (rest : List Piece) :
    mapPieces castPieces (mapPieces constructorPieces
        (.word type.kind.name :: type.width.angled ++ mapPieces typePieces rest)) =
      (if opensCall rest then [.word type.makerName]
        else .word type.kind.name :: type.width.angled) ++
        mapPieces castPieces (mapPieces constructorPieces (mapPieces typePieces rest)) := by
  have ahead : widthAhead? (type.width.angled ++ mapPieces typePieces rest) =
      if opensCall rest then some type.width else none := by
    rw [widthAhead?_angled, opensCall_mapPieces typePieces_leadsWithWord]
  rw [List.cons_append, mapPieces_word]
  cases opened : opensCall rest with
  | true =>
    have made : constructorPieces type.kind.name (type.width.angled ++ mapPieces typePieces rest) =
        ([.word type.makerName], 3) := by
      simp [constructorPieces, ahead, opened]
    rw [made]
    exact mapPieces_castPieces_makerName type _
  | false =>
    have kept : constructorPieces type.kind.name (type.width.angled ++ mapPieces typePieces rest) =
        ([.word type.kind.name], 0) := by
      simp [constructorPieces, ahead, opened]
    have uncast : castPieces type.kind.name
        (type.width.angled ++ mapPieces constructorPieces (mapPieces typePieces rest)) =
        ([.word type.kind.name], 0) := by
      simp [castPieces, VectorWidth.angled, opensCall]
    rw [kept, List.drop_zero, mapPieces_constructorPieces_angled, List.singleton_append,
      mapPieces_word, uncast, List.drop_zero, mapPieces_castPieces_angled]
    rfl

/-- The later passes on a word that the first one has left alone. -/
theorem later_passes_scalar (kind : ScalarKind) {rest : List Piece}
    (plain : widthAhead? rest = none) :
    mapPieces castPieces (mapPieces constructorPieces
      (.word kind.name :: mapPieces typePieces rest)) =
      (if kind.isCastTarget && opensCall rest then [.mark '(', .word kind.name, .mark ')']
        else [.word kind.name]) ++
        mapPieces castPieces (mapPieces constructorPieces (mapPieces typePieces rest)) := by
  have kept : constructorPieces kind.name (mapPieces typePieces rest) = ([.word kind.name], 0) := by
    simp [constructorPieces, widthAhead?_mapPieces_typePieces, plain]
  -- the cast rule looks at what two passes have left, which opens a call where the line did
  have opens :
      opensCall (mapPieces constructorPieces (mapPieces typePieces rest)) = opensCall rest := by
    rw [opensCall_mapPieces constructorPieces_leadsWithWord,
      opensCall_mapPieces typePieces_leadsWithWord]
  rw [mapPieces_word, kept, List.drop_zero, List.singleton_append, mapPieces_word]
  simp only [castPieces, ScalarKind.ofName?_name, opens]
  split <;> rfl

theorem mapPieces_passes (list : List Piece) :
    mapPieces castPieces (mapPieces constructorPieces (mapPieces typePieces list)) =
      mapPieces scanPieces list := by
  fun_induction mapPieces scanPieces list with
  | case1 => simp
  | case2 c rest ih => simp [ih]
  | case3 chars rest ih =>
    have step := scanned chars rest
    generalize scanPieces chars rest = new at ih step ⊢
    rw [mapPieces_word typePieces]
    cases step with
    | maker type opened =>
      rw [← ih]
      simpa [typePieces, opened] using later_passes_generic type rest
    | generic type closed =>
      rw [← ih]
      simpa [typePieces, closed] using later_passes_generic type rest
    | construct type ahead =>
      have typed : typePieces type.kind.name rest = ([.word type.kind.name], 0) := by
        simp [typePieces]
      have made : constructorPieces type.kind.name (mapPieces typePieces rest) =
          ([.word type.makerName], 3) := by
        simp [constructorPieces, widthAhead?_mapPieces_typePieces, ahead]
      obtain ⟨tail, rfl⟩ := widthAhead?_eq_some_iff.mp ahead
      rw [typed, List.drop_zero, List.singleton_append, mapPieces_word, made,
        mapPieces_typePieces_angled]
      exact (mapPieces_castPieces_makerName type _).trans (congrArg _ ih)
    | cast kind target opened =>
      have plain : widthAhead? rest = none := by
        obtain ⟨tail, rfl⟩ := opensCall_iff.mp opened
        rfl
      rw [← ih]
      simpa [typePieces, target, opened] using later_passes_scalar kind plain
    | scalar kind plain uncast =>
      have later := later_passes_scalar kind plain
      rw [uncast] at later
      rw [← ih]
      simpa [typePieces] using later
    | other short named =>
      rw [← ih]
      simp [typePieces, constructorPieces, castPieces, short, named, mapPieces_word]

theorem lower_eq_mapPieces (line : Text) :
    lower line = unpieces (mapPieces scanPieces (pieces line)) := by
  rw [lower_eq_unpieces, mapPieces_passes]

theorem parted_scan {list : List Piece} (h : Parted list) : Parted (mapPieces scanPieces list) := by
  rw [← mapPieces_passes]
  exact parted_mapPieces castPieces_keepsParted
    (parted_mapPieces constructorPieces_keepsParted (parted_mapPieces typePieces_keepsParted h))

theorem pieces_lower (line : Text) : pieces (lower line) = mapPieces scanPieces (pieces line) := by
  rw [lower_eq_mapPieces, pieces_unpieces (parted_scan (parted_pieces line))]

end IspcShader.Lowering
