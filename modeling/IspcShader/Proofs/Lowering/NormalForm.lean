import IspcShader.Proofs.Lowering.Repetition

/-!
What lowering leaves behind. No short vector name and no call of a scalar kind is left; a call of a
generic vector name is left only where a cast stood right behind the name. A second run takes that
one up, and since it finds no cast any more, it leaves nothing for a third.
-/
namespace IspcShader

open Text

theorem ScalarKind.name_inj {kind other : ScalarKind} : kind.name = other.name ↔ kind = other := by
  refine ⟨fun same => ?_, congrArg name⟩
  have read := congrArg ofName? same
  rwa [ofName?_name, ofName?_name, Option.some_inj] at read

theorem VectorType.isWord_shortName (type : VectorType) : IsWord type.shortName := by
  obtain ⟨kind, width⟩ := type
  cases kind <;> cases width <;> decide

namespace Lowering

section Run

variable {kind : ScalarKind} {run rest : List Piece}

/-! Where a run of pieces that a scalar name leads can start. -/

theorem infix_mark_iff (c : Char) :
    .word kind.name :: run <:+: .mark c :: rest ↔ .word kind.name :: run <:+: rest := by
  rw [List.infix_cons_iff, List.cons_prefix_cons]
  simp

theorem infix_unnamed_iff {chars : Text} (named : ScalarKind.ofName? chars = none) :
    .word kind.name :: run <:+: .word chars :: rest ↔ .word kind.name :: run <:+: rest := by
  rw [List.infix_cons_iff, List.cons_prefix_cons, or_iff_right]
  rintro ⟨same, -⟩
  rw [← Piece.word.inj same, ScalarKind.ofName?_name] at named
  cases named

theorem infix_name_iff (other : ScalarKind) :
    .word kind.name :: run <:+: .word other.name :: rest ↔
      (kind = other ∧ run <+: rest) ∨ .word kind.name :: run <:+: rest := by
  rw [List.infix_cons_iff, List.cons_prefix_cons, Piece.word.injEq, ScalarKind.name_inj]

theorem infix_angled_iff (width : VectorWidth) :
    .word kind.name :: run <:+: width.angled ++ rest ↔ .word kind.name :: run <:+: rest := by
  change _ <:+: .mark '<' :: .word [width.digit] :: .mark '>' :: rest ↔ _
  rw [infix_mark_iff, infix_unnamed_iff (ScalarKind.ofName?_digit width), infix_mark_iff]

end Run

theorem ofShortName?_of_mem_scanPieces {word chars : Text} {behind : List Piece}
    (member : .word word ∈ (scanPieces chars behind).1) : VectorType.ofShortName? word = none := by
  have step := scanned chars behind
  generalize scanPieces chars behind = new at step member
  cases step with
  | maker type _ | construct type _ =>
    obtain rfl : word = type.makerName := by simpa using member
    exact VectorType.ofShortName?_makerName type
  | generic type _ =>
    obtain rfl | rfl : word = type.kind.name ∨ word = [type.width.digit] := by
      simpa [VectorWidth.angled] using member
    · exact VectorType.ofShortName?_name type.kind
    · exact VectorType.ofShortName?_digit type.width
  | cast kind _ _ | scalar kind _ _ =>
    obtain rfl : word = kind.name := by simpa using member
    exact VectorType.ofShortName?_name kind
  | other short _ =>
    obtain rfl : word = chars := by simpa using member
    exact short

theorem shortName_not_mem_scan (type : VectorType) (list : List Piece) :
    .word type.shortName ∉ mapPieces scanPieces list := by
  fun_induction mapPieces scanPieces list with
  | case1 => exact List.not_mem_nil
  | case2 c rest ih => simpa using ih
  | case3 chars rest ih =>
    rw [List.mem_append, not_or]
    refine ⟨fun member => ?_, ih⟩
    have none_read := ofShortName?_of_mem_scanPieces member
    rw [VectorType.ofShortName?_shortName] at none_read
    cases none_read

theorem call_not_infix_scan {target : ScalarKind} (casts : target.isCastTarget = true)
    {list : List Piece} (h : Parted list) :
    ¬ [.word target.name, .mark '('] <:+: mapPieces scanPieces list := by
  fun_induction mapPieces scanPieces list with
  | case1 => simp
  | case2 c rest ih =>
    cases h with
    | mark _ more => rw [infix_mark_iff]; exact ih more
  | case3 chars rest ih =>
    have step := scanned chars rest
    generalize scanPieces chars rest = new at ih step ⊢
    cases h with
    | word _ off more =>
      have later := ih (more.drop _)
      cases step with
      | maker type _ | construct type _ =>
        rw [List.singleton_append, infix_unnamed_iff (ScalarKind.ofName?_makerName type)]
        exact later
      | generic type _ =>
        rw [List.cons_append, infix_name_iff, infix_angled_iff, not_or]
        refine ⟨?_, later⟩
        rintro ⟨-, tail, same⟩
        cases (List.cons.inj same).1
      | cast kind _ _ =>
        rw [List.cons_append, infix_mark_iff, List.cons_append, infix_name_iff,
          List.singleton_append, infix_mark_iff, not_or]
        refine ⟨?_, later⟩
        rintro ⟨-, tail, same⟩
        cases (List.cons.inj same).1
      | scalar kind _ uncast =>
        rw [List.singleton_append, infix_name_iff, not_or]
        refine ⟨?_, later⟩
        rintro ⟨rfl, tail, same⟩
        have opened : opensCall (mapPieces scanPieces rest) = true :=
          opensCall_iff.mpr ⟨tail, same.symm⟩
        rw [opensCall_scan more off] at opened
        rw [casts, opened] at uncast
        cases uncast
      | other _ named =>
        rw [List.singleton_append, infix_unnamed_iff named]
        exact later

/-- The pieces of `int<4>(` for a type. -/
def callRun (type : VectorType) : List Piece :=
  .word type.kind.name :: (type.width.angled ++ [.mark '('])

/-- The pieces of `int<4>float(` for a type and the target of a cast. -/
def castRun (type : VectorType) (target : ScalarKind) : List Piece :=
  .word type.kind.name :: (type.width.angled ++ [.word target.name, .mark '('])

theorem angled_call_prefix_iff {width : VectorWidth} {list : List Piece} :
    width.angled ++ [.mark '('] <+: list ↔ widthAhead? list = some width := by
  rw [widthAhead?_eq_some_iff]
  constructor
  · rintro ⟨tail, rfl⟩
    exact ⟨tail, List.append_assoc _ _ _⟩
  · rintro ⟨tail, rfl⟩
    exact ⟨tail, List.append_assoc _ _ _⟩

/-- A call of a generic name is written just where that name stood in front of a cast. -/
theorem callRun_infix_scan_iff (type : VectorType) {list : List Piece} (h : Parted list) :
    callRun type <:+: mapPieces scanPieces list ↔
      ∃ target : ScalarKind, target.isCastTarget = true ∧ castRun type target <:+: list := by
  fun_induction mapPieces scanPieces list with
  | case1 => simp [callRun, castRun]
  | case2 c rest ih =>
    cases h with
    | mark _ more =>
      simp only [callRun, castRun, infix_mark_iff] at ih ⊢
      exact ih more
  | case3 chars rest ih =>
    have step := scanned chars rest
    generalize scanPieces chars rest = new at ih step ⊢
    cases h with
    | word _ off more =>
      have later := ih (more.drop _)
      unfold callRun castRun at later ⊢
      cases step with
      | maker other _ =>
        simp only [List.singleton_append, infix_unnamed_iff (ScalarKind.ofName?_makerName other),
          infix_unnamed_iff (ScalarKind.ofName?_shortName other)]
        exact later
      | generic other closed =>
        have shut : opensCall (mapPieces scanPieces rest) = false := by
          rw [opensCall_scan more off, closed]
        have plain : widthAhead? (other.width.angled ++ mapPieces scanPieces rest) = none := by
          rw [widthAhead?_angled, shut]
          rfl
        simp only [List.cons_append, infix_name_iff, angled_call_prefix_iff, List.drop_zero, plain,
          infix_angled_iff, infix_unnamed_iff (ScalarKind.ofName?_shortName other)]
        simpa using later
      | construct other ahead =>
        obtain ⟨tail, rfl⟩ := widthAhead?_eq_some_iff.mp ahead
        have apart (target : ScalarKind) : ¬ type.width.angled ++ [.word target.name, .mark '('] <+:
            other.width.angled ++ .mark '(' :: tail := by
          simp [VectorWidth.angled, List.cons_prefix_cons]
        simp only [List.singleton_append, infix_unnamed_iff (ScalarKind.ofName?_makerName other),
          infix_name_iff, apart, and_false, false_or, infix_angled_iff]
        exact later
      | cast kind _ opened =>
        obtain ⟨tail, rfl⟩ := opensCall_iff.mp opened
        simp only [List.cons_append, List.nil_append, infix_mark_iff, infix_name_iff,
          VectorWidth.angled, List.cons_prefix_cons]
        simpa [VectorWidth.angled, infix_mark_iff] using later
      | scalar kind plain _ =>
        simp only [List.singleton_append, infix_name_iff, angled_call_prefix_iff, List.drop_zero,
          widthAhead?_scan_eq_some_iff more off plain]
        constructor
        · rintro (⟨rfl, target, tail, casts, follows⟩ | found)
          · exact ⟨target, casts, .inl ⟨rfl, tail, by rw [follows]; simp⟩⟩
          · obtain ⟨target, casts, inner⟩ := later.mp found
            exact ⟨target, casts, .inr inner⟩
        · rintro ⟨target, casts, ⟨rfl, tail, follows⟩ | inner⟩
          · exact .inl ⟨rfl, target, tail, casts, by rw [← follows]; simp⟩
          · exact .inr (later.mpr ⟨target, casts, inner⟩)
      | other _ named =>
        simp only [List.singleton_append, infix_unnamed_iff named]
        exact later

def angle (width : VectorWidth) : Text :=
  "<" ++ [width.digit] ++ ">"

theorem pieces_angle_call (width : VectorWidth) :
    pieces (angle width ++ "(") = width.angled ++ [.mark '('] := by
  cases width <;> decide

theorem pieces_angle_cast (width : VectorWidth) (target : ScalarKind) :
    pieces (angle width ++ target.name ++ "(") =
      width.angled ++ [.word target.name, .mark '('] := by
  cases width <;> cases target <;> decide

theorem endsOffWord_call (lead : Text) : endsOffWord (lead ++ "(") = true :=
  endsOffWord_append_cons lead '('

theorem lower_eq_self_iff (line : Text) : lower line = line ↔ Settled (pieces line) := by
  have cut := parted_pieces line
  conv => lhs; rhs; rw [← unpieces_pieces line]
  rw [lower_eq_mapPieces, unpieces_inj (parted_scan cut) cut, mapPieces_scanPieces_eq_self_iff]

theorem castsBehindGeneric_iff (line : Text) :
    CastsBehindGeneric line ↔
      ∃ (type : VectorType) (target : ScalarKind), target.isCastTarget = true ∧
      HasWord type.kind.name (angle type.width ++ target.name ++ "(") line := by
  constructor
  · rintro ⟨before, type, target, after, off, casts, rfl⟩
    refine ⟨type, target, casts, before, after, ?_, off, rfl⟩
    simp [VectorType.genericName, angle]
  · rintro ⟨type, target, casts, before, after, rfl, off, -⟩
    refine ⟨before, type, target, after, off, casts, ?_⟩
    simp [VectorType.genericName, angle]

theorem not_hasWord_call_lower {target : ScalarKind} (casts : target.isCastTarget = true)
    (line : Text) : ¬ HasWord target.name "(" (lower line) := by
  rw [hasWord_iff_pieces target.isWord_name (by decide), pieces_lower]
  exact call_not_infix_scan casts (parted_pieces line)

theorem not_castsBehindGeneric_lower (line : Text) : ¬ CastsBehindGeneric (lower line) := by
  rintro ⟨before, type, target, after, -, casts, same⟩
  refine not_hasWord_call_lower casts line ⟨before ++ type.genericName, after, ?_, ?_, rfl⟩
  · rw [same, List.append_assoc _ (String.toList "(")]
  · rw [VectorType.genericName, ← List.append_assoc]
    exact endsOffWord_append_cons _ '>'

/-- The normal form of lowering. No short vector name is left as a word, nor any cast as a call; a
call of a generic vector name is left exactly if the line had that name right in front of a cast; a
second run changes the line exactly in that case, and a third one never does. -/
theorem lower_normal_form (line : Text) :
    (∀ type : VectorType, ¬ HasWord type.shortName [] (lower line)) ∧
    (∀ target : ScalarKind, target.isCastTarget = true → ¬ HasWord target.name "(" (lower line)) ∧
    (∀ type : VectorType, HasWord type.kind.name (angle type.width ++ "(") (lower line) ↔
      ∃ target : ScalarKind, target.isCastTarget = true ∧
        HasWord type.kind.name (angle type.width ++ target.name ++ "(") line) ∧
    (lower (lower line) ≠ lower line ↔
      ∃ (type : VectorType) (target : ScalarKind), target.isCastTarget = true ∧
        HasWord type.kind.name (angle type.width ++ target.name ++ "(") line) ∧
    lower (lower (lower line)) = lower (lower line) := by
  have cut := parted_pieces line
  have settled (line : Text) : lower (lower line) = lower line ↔ ¬ CastsBehindGeneric line := by
    rw [lower_eq_self_iff, pieces_lower, settled_scan_iff (parted_pieces line), exposed_pieces_iff]
  refine ⟨?_, fun target casts => not_hasWord_call_lower casts line, ?_, ?_, ?_⟩
  · intro type found
    rw [hasWord_iff_pieces type.isWord_shortName rfl, pieces_lower] at found
    exact shortName_not_mem_scan type (pieces line) (found.subset (List.mem_singleton_self _))
  · intro type
    simp only [hasWord_iff_pieces type.kind.isWord_name (endsOffWord_call _), pieces_lower,
      pieces_angle_call, pieces_angle_cast]
    exact callRun_infix_scan_iff type cut
  · rw [ne_eq, settled, Classical.not_not, castsBehindGeneric_iff]
  · exact (settled (lower line)).mpr (not_castsBehindGeneric_lower line)

end Lowering
end IspcShader
