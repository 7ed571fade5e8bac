import IspcShader.Proofs.EntryPoint.Accounting
import IspcShader.Proofs.EntryPoint.Coordinate
import IspcShader.Proofs.Lowering.NormalForm

/-!
How many components a coordinate has. The declaration in the dispatch loop goes by the last digit of
the type's name, the lowering of types by the whole name. The two agree on every vector type, and on
a scalar type unless its name ends in a digit other than one.
-/
namespace IspcShader

open Text

def VectorWidth.count : VectorWidth → Nat
  | two => 2
  | three => 3
  | four => 4

theorem VectorWidth.count_ne_one (width : VectorWidth) : width.count ≠ 1 := by
  cases width <;> decide

theorem VectorWidth.digit_inj {width other : VectorWidth} :
    width.digit = other.digit ↔ width = other := by
  refine ⟨fun same => ?_, congrArg digit⟩
  have read : ofDigit? width.digit = ofDigit? other.digit := by rw [same]
  rwa [ofDigit?_digit, ofDigit?_digit, Option.some.injEq] at read

theorem VectorType.genericName_inj {vector other : VectorType} :
    vector.genericName = other.genericName ↔ vector = other := by
  refine ⟨fun same => ?_, congrArg genericName⟩
  obtain ⟨kind, width⟩ := vector
  obtain ⟨kind', width'⟩ := other
  have split : kind.name ++ '<' :: (width.digit :: ">".toList) =
      kind'.name ++ '<' :: (width'.digit :: ">".toList) := by
    simpa [genericName] using same
  obtain ⟨names, rest⟩ :=
    word_append_inj kind.isWord_name.chars kind'.isWord_name.chars rfl rfl split
  have digits : width.digit = width'.digit := by simpa using rest
  rw [ScalarKind.name_inj.mp names, VectorWidth.digit_inj.mp digits]

namespace Lowering

/-- A type's name is lowered as a whole or not at all. -/
theorem typePass_of_chars {type : Text} (chars : ∀ c ∈ type, isWordChar c = true) :
    typePass type = ((VectorType.ofShortName? type).map VectorType.genericName).getD type := by
  by_cases empty : type = []
  · subst empty
    exact mapWords_nil typeRule
  · have whole : mapWords typeRule (type ++ []) = _ := mapWords_word typeRule ⟨empty, chars⟩ rfl
    rw [List.append_nil] at whole
    rw [typePass, whole, typeRule]
    cases VectorType.ofShortName? type <;> simp

theorem typePass_eq_genericName_iff {type : Text} (chars : ∀ c ∈ type, isWordChar c = true)
    (vector : VectorType) : typePass type = vector.genericName ↔ type = vector.shortName := by
  rw [typePass_of_chars chars]
  constructor
  · intro same
    cases short : VectorType.ofShortName? type with
    | some other =>
      rw [short] at same
      rw [← VectorType.genericName_inj.mp same, VectorType.shortName_of_ofShortName? short]
    | none =>
      rw [short] at same
      have angle : '<' ∈ type := by
        rw [show type = vector.genericName from same]
        simp [VectorType.genericName]
      exact absurd (chars '<' angle) (by decide)
  · rintro rfl
    rw [VectorType.ofShortName?_shortName]
    rfl

end Lowering

theorem trailingDigit?_shortName (vector : VectorType) :
    trailingDigit? vector.shortName = some vector.width.count := by
  obtain ⟨kind, width⟩ := vector
  rw [trailingDigit?, VectorType.shortName, List.getLast?_concat]
  cases width <;> rfl

namespace CoordinateArg

variable {arg : CoordinateArg}

/-- The value of a coordinate with as many components as there are axes, or fewer. -/
def axisList (count : Nat) : Text :=
  "\x7b " ++ List.intercalate ", " ((["x", "y", "z"] : List Text).take (min count 3)) ++ " \x7d"

theorem value_of_digit {digit : Nat} (ends : trailingDigit? arg.type = some digit)
    (several : digit ≠ 1) : arg.value = axisList digit := by
  have lanes : arg.lanes = digit := by rw [lanes_eq, ends, Option.getD_some]
  have taken : axes.take digit = axes.take (min digit 3) := List.take_eq_take_min
  rw [value, lanes, if_neg several, taken]
  rfl

theorem value_eq_axis_iff :
    arg.value = "x" ↔ ∀ digit, trailingDigit? arg.type = some digit → digit = 1 := by
  constructor
  · intro single digit ends
    by_contra several
    rw [value_of_digit ends several] at single
    exact absurd (congrArg List.head? single) (by simp [axisList])
  · intro none
    have lanes : arg.lanes = 1 := by
      rw [lanes_eq]
      cases ends : trailingDigit? arg.type with
      | none => rfl
      | some digit => exact none digit ends
    rw [value, if_pos lanes]

theorem statement_inj_value {text : Text} :
    arg.statement = arg.type ++ " " ++ arg.name ++ " = " ++ text ++ ";" ↔ arg.value = text := by
  rw [statement, List.append_left_inj, List.append_right_inj]

/-- The declaration has one axis for each element of the lowered type, as far as there are axes, or
the first axis alone if that type is no vector; a warning is due to vectors of four elements
only. -/
structure FollowsType (arg : CoordinateArg) (number : Nat) (warnings : List Event) : Prop where
  vector : ∀ vector : VectorType, Lowering.typePass arg.type = vector.genericName →
    arg.statement = arg.type ++ " " ++ arg.name ++ " = " ++ axisList vector.width.count ++ ";" ∧
    warnings = if vector.width.count = 4 then [.excessComponents arg.name 4 number] else []
  scalar : (∀ vector : VectorType, Lowering.typePass arg.type ≠ vector.genericName) →
    arg.statement = arg.type ++ " " ++ arg.name ++ " = " ++ "x" ++ ";" ∧ warnings = []

theorem warnings_of_one (single : ∀ digit, trailingDigit? arg.type = some digit → digit = 1)
    (number : Nat) : arg.warnings number = [] := by
  unfold warnings
  split
  · next digit ends => rw [if_neg (by rw [single digit ends]; decide)]
  · rfl

theorem followsType_of_vector {vector : VectorType} (short : arg.type = vector.shortName)
    (number : Nat) : arg.FollowsType number (arg.warnings number) := by
  have chars : ∀ c ∈ arg.type, isWordChar c = true := short ▸ vector.isWord_shortName.chars
  have ends : trailingDigit? arg.type = some vector.width.count := by
    rw [short, trailingDigit?_shortName]
  constructor
  · intro other lowered
    have generic := (Lowering.typePass_eq_genericName_iff chars vector).mpr short
    obtain rfl : vector = other := VectorType.genericName_inj.mp (generic.symm.trans lowered)
    rw [statement_inj_value, value_of_digit ends vector.width.count_ne_one, warnings, ends]
    refine ⟨rfl, ?_⟩
    cases vector.width <;> rfl
  · intro none
    exact absurd ((Lowering.typePass_eq_genericName_iff chars vector).mpr short) (none vector)

theorem followsType_iff (chars : ∀ c ∈ arg.type, isWordChar c = true) (number : Nat) :
    arg.FollowsType number (arg.warnings number) ↔
      (∃ vector : VectorType, arg.type = vector.shortName) ∨
        ∀ digit, trailingDigit? arg.type = some digit → digit = 1 := by
  by_cases short : ∃ vector : VectorType, arg.type = vector.shortName
  · obtain ⟨vector, short⟩ := short
    exact iff_of_true (followsType_of_vector short number) (.inl ⟨vector, short⟩)
  · -- the type is no vector, so all depends on the scalar case
    have none : ∀ vector : VectorType, Lowering.typePass arg.type ≠ vector.genericName := by
      intro vector lowered
      exact short ⟨vector, (Lowering.typePass_eq_genericName_iff chars vector).mp lowered⟩
    rw [or_iff_right short, ← value_eq_axis_iff, ← statement_inj_value]
    constructor
    · intro follows
      exact (follows.scalar none).1
    · intro single
      refine ⟨fun vector lowered => absurd lowered (none vector), fun _ => ⟨single, ?_⟩⟩
      exact warnings_of_one (value_eq_axis_iff.mp (statement_inj_value.mp single)) number

end CoordinateArg

namespace BuiltinScan

/-- A dispatch coordinate that is found is recorded under its inner type, and reported by that
type's last digit. -/
theorem visit_of_located {param : CoordinateParam} (chars : ∀ c ∈ param.type, isWordChar c = true)
    (builtin : sameIgnoringCase param.builtin "SV_DispatchThreadID" = true) {scan : BuiltinScan}
    (declared : (param.listed.locate? scan.params).isSome = true) (entryLine : Text)
    (number : Nat) : (visit entryLine number scan param.listed).args = scan.args ++ [param.arg] ∧
      (visit entryLine number scan param.listed).events =
        scan.events ++ param.arg.warnings number := by
  obtain ⟨⟨before, after⟩, located⟩ := Option.isSome_iff_exists.mp declared
  have isWord : IsWord param.builtin := isWord_of_sameIgnoringCase builtin (by decide)
  have type : Macro.unwrap param.listed.type = param.type :=
    CoordinateParam.unwrap_of_chars isWord chars
  have coordinate : param.listed.coordinate = param.arg := by
    rw [Parameter.coordinate, type]
    rfl
  rw [visit_of_coordinate located (CoordinateParam.isDispatchCoordinate_listed builtin),
    Outcome.warnings, coordinate]
  exact ⟨rfl, rfl⟩

end BuiltinScan

theorem Dispatch.argLine_mem_wrapper {args : List CoordinateArg} {arg : CoordinateArg}
    (member : arg ∈ args) (main : Text) (resources : List Resource) (policy : ResourcePolicy) :
    argLine arg ∈ wrapper main resources args policy :=
  List.mem_append_left _ (List.mem_append_right _ (List.mem_map_of_mem member))

namespace EntryPoint

open BuiltinScan

/-- The entry point keeps what has been recorded and reported behind any of its builtin
parameters. -/
theorem exists_ofMarker_append (marker : EntryMarker) (number : Nat) (shader : Shader)
    {front back : List Parameter} {param : Parameter}
    (listed : shader.builtinParams = front ++ param :: back) (resources : List Resource)
    (suffix : Option Text) (policy : ResourcePolicy) :
    let behind :=
      run marker.line number (front ++ [param]) (unwrapStructs shader.structParams marker.params)
    let lowered := ofMarker marker number shader resources suffix policy
    ∃ args events, lowered.1.args = behind.args ++ args ∧ lowered.2 = behind.events ++ events := by
  intro behind lowered
  obtain ⟨args, events, recorded, reported, -⟩ := exists_foldl_append marker.line number behind back
  have scan :
      run marker.line number shader.builtinParams
        (unwrapStructs shader.structParams marker.params) =
      back.foldl (visit marker.line number) behind := by
    rw [listed, List.append_cons]
    exact List.foldl_append
  have shape : lowered = _ := ofMarker_of_run scan resources suffix policy
  rw [shape]
  dsimp only
  rw [recorded, reported, List.append_assoc]
  exact ⟨_, _, rfl, rfl⟩

/-- The declaration of a coordinate follows its lowered type just when that type is a vector or its
name does not end in a digit other than one. Any other name is taken for a vector of as many
components as its last digit says. -/
theorem declaration_follows_type_iff {marker : EntryMarker} {number : Nat} {shader : Shader}
    {front back : List Parameter} {param : CoordinateParam}
    (chars : ∀ c ∈ param.type, isWordChar c = true)
    (builtin : sameIgnoringCase param.builtin "SV_DispatchThreadID" = true)
    (listed : shader.builtinParams = front ++ param.listed :: back)
    (declared : (param.listed.locate? (run marker.line number front
      (unwrapStructs shader.structParams marker.params)).params).isSome = true)
    (resources : List Resource) (suffix : Option Text) (policy : ResourcePolicy) :
    let params := unwrapStructs shader.structParams marker.params
    let before := run marker.line number front params
    let behind := run marker.line number (front ++ [param.listed]) params
    let lowered := ofMarker marker number shader resources suffix policy
    ∃ warnings laterArgs laterEvents,
      behind.args = before.args ++ [param.arg] ∧ behind.events = before.events ++ warnings ∧
      lowered.1.args = behind.args ++ laterArgs ∧ lowered.2 = behind.events ++ laterEvents ∧
      Dispatch.argLine param.arg ∈ lowered.1.wrapper ∧
      (param.arg.FollowsType number warnings ↔
        (∃ vector : VectorType, param.type = vector.shortName) ∨
          ∀ digit, trailingDigit? param.type = some digit → digit = 1) ∧
      ∀ digit, trailingDigit? param.type = some digit → digit ≠ 1 →
        param.arg.statement = param.type ++ " " ++ param.var ++ " = " ++
          CoordinateArg.axisList digit ++ ";" ∧
        warnings = if 3 < digit then [.excessComponents param.var digit number] else [] := by
  intro params before behind lowered
  have step : behind = visit marker.line number before param.listed := List.foldl_concat ..
  obtain ⟨args, events⟩ := visit_of_located chars builtin declared marker.line number
  rw [← step] at args events
  obtain ⟨laterArgs, laterEvents, recorded, reported⟩ :=
    exists_ofMarker_append marker number shader listed resources suffix policy
  refine ⟨param.arg.warnings number, laterArgs, laterEvents, args, events, recorded, reported, ?_,
    CoordinateArg.followsType_iff chars number, ?_⟩
  · have member : param.arg ∈ lowered.1.args := by
      rw [recorded, args]
      simp
    exact Dispatch.argLine_mem_wrapper member _ resources policy
  · intro digit ends several
    refine ⟨CoordinateArg.statement_inj_value.mpr (CoordinateArg.value_of_digit ends several), ?_⟩
    have last : trailingDigit? param.arg.type = some digit := ends
    rw [CoordinateArg.warnings, last]
    rfl

/-- A scalar of sixteen bits behind another coordinate is taken for a vector of six components. -/
theorem declaration_follows_type_iff_sixteen :
    let param : CoordinateParam := ⟨"sv_dispatchthreadid", "uint16", "lane"⟩
    let front : List Parameter := [⟨"SV_DispatchThreadID(uint4)", "id"⟩]
    let shader : Shader :=
      { name := "Sixteen", stage := .comp, builtinParams := front ++ param.listed :: [] }
    let marker : EntryMarker :=
      ⟨"void ", "CS_MAIN", "SV_DispatchThreadID(uint4) id, sv_dispatchthreadid(uint16) lane)"⟩
    let lowered := ofMarker marker 3 shader [] none .alias
    sameIgnoringCase param.builtin "SV_DispatchThreadID" = true ∧
      (param.listed.locate? (run marker.line 3 front
        (unwrapStructs shader.structParams marker.params)).params).isSome = true ∧
      Dispatch.argLine param.arg ∈ lowered.1.wrapper ∧
      ¬ param.arg.FollowsType 3 [.excessComponents "lane" 6 3] ∧
      param.arg.statement = "uint16 lane = \x7b x, y, z \x7d;" := by
  intro param front shader marker lowered
  have builtin : sameIgnoringCase param.builtin "SV_DispatchThreadID" = true := by decide
  have declared : (param.listed.locate?
      (run marker.line 3 front (unwrapStructs shader.structParams marker.params)).params).isSome =
        true := by
    decide +kernel
  have ends : trailingDigit? param.type = some 6 := by decide
  obtain ⟨warnings, -, -, -, -, -, -, member, follows, several⟩ :=
    declaration_follows_type_iff (List.all_eq_true.mp (by decide)) builtin rfl
      declared [] none .alias
  obtain ⟨statement, rfl⟩ := several 6 ends (by decide)
  refine ⟨builtin, declared, member, ?_, statement⟩
  intro agrees
  obtain ⟨vector, short⟩ | single := follows.mp agrees
  · rw [short, trailingDigit?_shortName] at ends
    obtain ⟨kind, width⟩ := vector
    cases width <;> cases ends
  · exact absurd (single 6 ends) (by decide)

/-- A scalar that is declared with two values. -/
theorem scalar_declared_as_pair :
    let shader : Shader :=
      { name := "s", stage := .comp, builtinParams := [⟨"SV_DispatchThreadID(uint32)", "i"⟩] }
    ∃ marker, EntryMarker.find? "void CS_MAIN(SV_DispatchThreadID(uint32) i)" = some marker ∧
      let entry := (ofMarker marker 1 shader [] (some "TEST") .alias).1
      Lowering.typePass "uint32" = "uint32" ∧ entry.args = [⟨"uint32", "i"⟩] ∧
        "        uint32 i = \x7b x, y \x7d;".toList ∈ entry.wrapper ∧
        "        uint32 i = x;".toList ∉ entry.wrapper := by
  intro shader
  refine ⟨⟨"void ", "CS_MAIN", "SV_DispatchThreadID(uint32) i)"⟩, ?_⟩
  decide +kernel

end EntryPoint

end IspcShader
