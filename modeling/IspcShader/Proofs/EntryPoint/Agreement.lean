import IspcShader.Proofs.EntryPoint.Coordinate
import IspcShader.Proofs.EntryPoint.Marker
import IspcShader.Proofs.Resource.Parameter

/-!
The implementation's signature, the wrapper's signature and the call between them are written apart
from each other. Read back as calls, they list the same resources and the same coordinates in the
same order.
-/
namespace IspcShader

open Text Macro

/-- A resource whose name is one word and whose element type neither nests nor separates. -/
structure Resource.IsPlain (resource : Resource) : Prop where
  baseName : IsWord resource.baseName
  baseType : ∀ c ∈ resource.baseType, Macro.isPlain c = true

instance (resource : Resource) : Decidable resource.IsPlain :=
  decidable_of_iff (IsWord resource.baseName ∧ resource.baseType.all Macro.isPlain = true)
    ⟨fun h => ⟨h.1, List.all_eq_true.mp h.2⟩,
      fun h => ⟨h.baseName, List.all_eq_true.mpr h.baseType⟩⟩

namespace Resource

variable {resource : Resource} {suffix : Text}

theorem IsPlain.isWord_named (plain : resource.IsPlain)
    (chars : ∀ c ∈ suffix, isWordChar c = true) :
    IsWord (resource.baseName ++ suffix) :=
  plain.baseName.append chars

theorem IsPlain.isArgument_parameter (plain : resource.IsPlain)
    (chars : ∀ c ∈ suffix, isWordChar c = true) : IsArgument (resource.parameter suffix) :=
  (isArgument_parameter_iff plain.baseName chars).mpr (depthAfter_plain plain.baseType 0)

end Resource

theorem CoordinateParam.IsProper.isArgument_lowered {param : CoordinateParam}
    (proper : param.IsProper) : IsArgument param.lowered := by
  have plain : ∀ c ∈ param.lowered, Macro.isPlain c = true := by
    intro c member
    rcases List.mem_append.mp member with front | named
    · rcases List.mem_append.mp front with typed | blank
      · exact isPlain_of_isWordChar (proper.type.chars c typed)
      · obtain rfl : c = ' ' := by simpa using blank
        decide
    · exact isPlain_of_isWordChar (proper.var.chars c named)
  refine .of_plain plain (proper.var.trim_append ?_)
  intro c first
  obtain ⟨d, rest, shape⟩ := List.exists_cons_of_ne_nil proper.type.ne_nil
  obtain rfl : d = c := by simpa [shape] using first
  exact isBlank_of_isWordChar (proper.type.chars d (by simp [shape]))

theorem CoordinateParam.lowered_ne_nil (param : CoordinateParam) : param.lowered ≠ [] := by
  simp [CoordinateParam.lowered]

theorem ne_singleton_nil {args : List Text} (nonempty : ∀ arg ∈ args, arg ≠ []) : args ≠ [[]] := by
  rintro rfl
  exact nonempty [] List.mem_cons_self rfl

namespace EntryPoint

theorem startsWith_closing (after : Text) : startsWith ")" (trimStart (')' :: after)) = true := by
  have solid : isBlank ')' = false := by decide
  simp [trimStart, solid, startsWith, List.isPrefixOf]

theorem not_startsWith_closing {c : Char} (on : isWordChar c = true) (rest : Text) :
    startsWith ")" (trimStart (c :: rest)) = false := by
  have different : ')' ≠ c := by
    rintro rfl
    exact absurd on (by decide)
  simp [trimStart, isBlank_of_isWordChar on, startsWith, List.isPrefixOf, different]

/-- The comma stands between resources and coordinates just when there are some of both. -/
theorem withResources_lowered (resources : List Resource) {params : List CoordinateParam}
    (proper : ∀ param ∈ params, param.IsProper) (after : Text) :
    withResources resources (List.intercalate ", " (params.map CoordinateParam.lowered) ++
      ')' :: after) =
      List.intercalate ", " (resources.map (·.parameter "") ++
        params.map CoordinateParam.lowered) ++ ')' :: after := by
  cases params with
  | nil => simpa [withResources] using fun _ => startsWith_closing after
  | cons param more =>
    cases resources with
    | nil => simp [withResources]
    | cons resource others =>
      -- the coordinates start with a word, so they are not taken for an empty list
      obtain ⟨c, rest, shape⟩ :=
        List.exists_cons_of_ne_nil (proper param List.mem_cons_self).type.ne_nil
      have on : isWordChar c = true :=
        (proper param List.mem_cons_self).type.chars c (by simp [shape])
      obtain ⟨tail, opens⟩ : ∃ tail,
          List.intercalate ", " ((param :: more).map CoordinateParam.lowered) ++ ')' :: after =
            c :: tail := by
        cases more <;> simp [CoordinateParam.lowered, shape]
      rw [withResources, intercalate_append (by simp) (by simp)]
      simp only [opens, not_startsWith_closing on, List.isEmpty_cons, Bool.or_self]
      rw [← opens]
      simp

theorem isWord_exportName {name : Text} (isWord : IsWord name) {suffix : Option Text}
    (chars : ∀ text ∈ suffix, ∀ c ∈ text, isWordChar c = true) :
    IsWord (exportName name suffix) := by
  cases suffix with
  | none => exact isWord
  | some text =>
    have joint : IsWord "_".toList := by decide
    exact (isWord.append joint.chars).append (chars text rfl)

theorem isWord_implementationName {main : Text} (isWord : IsWord main) :
    IsWord (Dispatch.implementationName main) := by
  have mark : IsWord "_impl".toList := by decide
  exact isWord.append mark.chars

theorem isWord_argSuffix : IsWord Dispatch.argSuffix := by
  decide

theorem isArgument_extentParams : ∀ param ∈ Dispatch.extentParams, IsArgument param := by
  have plain : ∀ param ∈ Dispatch.extentParams, param.all Macro.isPlain = true := by decide
  have trimmed : ∀ param ∈ Dispatch.extentParams, trim param = param := by decide
  intro param member
  exact .of_plain (List.all_eq_true.mp (plain param member)) (trimmed param member)

section Agreement

variable {shader : Shader} {resources : List Resource} {params : List CoordinateParam}
variable {before main name : Text} {suffix : Option Text}

theorem args_signature (isWord : IsWord main) (plain : ∀ resource ∈ resources, resource.IsPlain) :
    (Invocation.find? (Dispatch.signature main resources) main).map Invocation.args =
      some (resources.map (·.parameter Dispatch.argSuffix) ++ Dispatch.extentParams) := by
  have each : ∀ arg ∈ resources.map (·.parameter Dispatch.argSuffix) ++ Dispatch.extentParams,
      IsArgument arg := by
    intro arg member
    rcases List.mem_append.mp member with declared | extent
    · obtain ⟨resource, listed, rfl⟩ := List.mem_map.mp declared
      exact (plain resource listed).isArgument_parameter isWord_argSuffix.chars
    · exact isArgument_extentParams arg extent
  have several :
      resources.map (·.parameter Dispatch.argSuffix) ++ Dispatch.extentParams ≠ [[]] := by
    intro same
    have lengths := congrArg List.length same
    simp [Dispatch.extentParams] at lengths
  have shape : Dispatch.signature main resources = "export void " ++ main ++ "(" ++
      List.intercalate ", " (resources.map (·.parameter Dispatch.argSuffix) ++
        Dispatch.extentParams) ++
      ")" ++ " \x7b" := by
    have closing : ") \x7b".toList = ")".toList ++ " \x7b".toList := rfl
    unfold Dispatch.signature
    simp only [closing, List.append_assoc]
  rw [shape]
  exact Invocation.args_find? isWord (by decide) (by decide) each several

theorem args_callLine (isWord : IsWord main) (plain : ∀ resource ∈ resources, resource.IsPlain)
    {args : List CoordinateArg} (named : ∀ arg ∈ args, IsWord arg.name) :
    (Invocation.find? (Dispatch.callLine main resources args)
        (Dispatch.implementationName main)).map Invocation.args =
      some (resources.map (·.handleName ++ Dispatch.argSuffix) ++ args.map (·.name)) := by
  have words : ∀ arg ∈ resources.map (·.handleName ++ Dispatch.argSuffix) ++ args.map (·.name),
      IsWord arg := by
    intro arg member
    rcases List.mem_append.mp member with passed | coordinate
    · obtain ⟨resource, listed, rfl⟩ := List.mem_map.mp passed
      exact (plain resource listed).isWord_named isWord_argSuffix.chars
    · obtain ⟨arg, listed, rfl⟩ := List.mem_map.mp coordinate
      exact named arg listed
  have shape :
      Dispatch.callLine main resources args = "        " ++ Dispatch.implementationName main ++
      "(" ++ List.intercalate ", "
        (resources.map (·.handleName ++ Dispatch.argSuffix) ++ args.map (·.name)) ++
          ")" ++ ";" := by
    have closing : ");".toList = ")".toList ++ ";".toList := rfl
    unfold Dispatch.callLine
    simp only [closing, List.append_assoc]
  rw [shape]
  refine Invocation.args_find? (isWord_implementationName isWord) (by decide) (by decide)
    (fun arg member => .of_isWord (words arg member)) ?_
  exact ne_singleton_nil fun arg member => (words arg member).ne_nil

/-- What the entry point declared by `params` becomes: the parameters are lowered behind the
resources, and the coordinates are passed on. -/
theorem ofMarker_eq (proper : ∀ param ∈ params, param.IsProper) (structs : shader.structParams = [])
    (builtins : shader.builtinParams = params.map CoordinateParam.listed) (number : Nat)
    (after : Text) (policy : ResourcePolicy) :
    let marker : EntryMarker :=
      ⟨before, name, List.intercalate ", " (params.map CoordinateParam.written) ++ ')' :: after⟩
    let main := exportName name suffix
    (ofMarker marker number shader resources suffix policy).1 =
      { line := before ++ Dispatch.implementationName main ++ "(" ++
          List.intercalate ", " (resources.map (·.parameter "") ++
            params.map CoordinateParam.lowered) ++
          ")" ++ after
        mainName := main
        args := params.map CoordinateParam.arg
        wrapper := Dispatch.wrapper main resources (params.map CoordinateParam.arg) policy } := by
  intro marker main
  obtain ⟨text, args⟩ := BuiltinScan.run_listed marker.line number proper after
  have unwrapped : unwrapStructs shader.structParams marker.params =
      List.intercalate ", " (params.map CoordinateParam.written) ++ ')' :: after := by
    rw [structs]
    rfl
  simp only [ofMarker, ofScan, unwrapped, builtins, text, args,
    withResources_lowered resources proper after]
  simp [marker, main]

/-- The signature, the call and the exported signature of an entry point list the same resources in
the same order, and the signature and the call the same coordinates behind them. -/
theorem declaration_agrees_with_call (plain : ∀ resource ∈ resources, resource.IsPlain)
    (proper : ∀ param ∈ params, param.IsProper) (new : '(' ∉ before)
    (off : endsOffWord before = true) (isWord : IsWord name) (marked : ("_MAIN" : Text) <:+ name)
    (chars : ∀ text ∈ suffix, ∀ c ∈ text, isWordChar c = true) (structs : shader.structParams = [])
    (builtins : shader.builtinParams = params.map CoordinateParam.listed) (number : Nat)
    (after : Text) (policy : ResourcePolicy) :
    ∃ marker, EntryMarker.find? (before ++ name ++ "(" ++
        List.intercalate ", " (params.map CoordinateParam.written) ++ ")" ++ after) = some marker ∧
      let entry := (ofMarker marker number shader resources suffix policy).1
      entry.mainName = exportName name suffix ∧
      (Invocation.find? entry.line entry.implementationName).map Invocation.args =
        some (resources.map (·.parameter "") ++ params.map CoordinateParam.lowered) ∧
      ∃ (header : Text) (body : List Text) (call : Text),
        entry.wrapper = header :: body ++ [call, "    \x7d", "\x7d"] ∧
        (Invocation.find? call entry.implementationName).map Invocation.args =
          some (resources.map (fun resource => resource.handleName ++ ("_arg" : Text)) ++
            params.map CoordinateParam.var) ∧
        (Invocation.find? header entry.mainName).map Invocation.args =
          some (resources.map (·.parameter "_arg") ++
            (["uniform uint dispatch_x", "uniform uint dispatch_y", "uniform uint dispatch_z"] :
              List Text)) := by
  have main := isWord_exportName isWord chars
  have each : ∀ arg ∈ resources.map (·.parameter "") ++ params.map CoordinateParam.lowered,
      IsArgument arg ∧ arg ≠ [] := by
    intro arg member
    rcases List.mem_append.mp member with declared | coordinate
    · obtain ⟨resource, listed, rfl⟩ := List.mem_map.mp declared
      have bare : ∀ c ∈ "".toList, isWordChar c = true := fun c inside => by cases inside
      exact ⟨(plain resource listed).isArgument_parameter bare, resource.parameter_ne_nil _⟩
    · obtain ⟨param, listed, rfl⟩ := List.mem_map.mp coordinate
      exact ⟨(proper param listed).isArgument_lowered, param.lowered_ne_nil⟩
  have named : ∀ arg ∈ params.map CoordinateParam.arg, IsWord arg.name := by
    intro arg member
    obtain ⟨param, listed, rfl⟩ := List.mem_map.mp member
    exact (proper param listed).var
  have shape :
      before ++ name ++ "(" ++ List.intercalate ", " (params.map CoordinateParam.written) ++
      ")" ++ after = before ++ name ++ "(" ++
        (List.intercalate ", " (params.map CoordinateParam.written) ++ ')' :: after) := by
    simp
  rw [shape]
  refine ⟨_, EntryMarker.find?_eq_of_new_call new off isWord marked, ?_⟩
  intro entry
  have lowered : entry = _ := ofMarker_eq proper structs builtins number after policy
  rw [lowered]
  refine ⟨rfl, ?_, Dispatch.signature (exportName name suffix) resources, _,
    Dispatch.callLine (exportName name suffix) resources
    (params.map CoordinateParam.arg), rfl, ?_, ?_⟩
  · exact Invocation.args_find? (isWord_implementationName main) off new
      (fun arg member => (each arg member).1)
        (ne_singleton_nil fun arg member => (each arg member).2)
  · have call := args_callLine main plain named
    rw [List.map_map] at call
    exact call
  · have extents : Dispatch.extentParams =
        (["uniform uint dispatch_x", "uniform uint dispatch_y", "uniform uint dispatch_z"] :
          List Text) := by
      decide +kernel
    rw [← extents]
    exact args_signature main plain

theorem declaration_agrees_with_call_pair :
    let resources : List Resource :=
      [⟨"CBUFFER(Params)", "Params", "gParams", "gParams", false, true⟩,
       ⟨"RWBuffer(float4)", "float4", "Out[2]", "Out", true, false⟩]
    let params : List CoordinateParam :=
      [⟨"SV_DispatchThreadID", "uint3", "id"⟩, ⟨"sv_dispatchthreadid", "uint", "i"⟩]
    let shader : Shader :=
      { name := "Pair", stage := .comp, builtinParams := params.map CoordinateParam.listed }
    let declared : List Text :=
      ["uniform const Params& gParams", "uniform float4 Out[]", "uint3 id", "uint i"]
    let passed : List Text := ["gParams_arg", "Out_arg", "id", "i"]
    let exported : List Text := ["uniform const Params& gParams_arg", "uniform float4 Out_arg[]"]
    ∃ marker, EntryMarker.find? ("void " ++ "CS_MAIN" ++ "(" ++
        List.intercalate ", " (params.map CoordinateParam.written) ++ ")" ++ " \x7b") =
          some marker ∧
      let entry := (ofMarker marker 1 shader resources (some "v2") .alias).1
      entry.mainName = exportName "CS_MAIN" (some "v2") ∧
      (Invocation.find? entry.line entry.implementationName).map Invocation.args = some declared ∧
      ∃ (header : Text) (body : List Text) (call : Text),
        entry.wrapper = header :: body ++ [call, "    \x7d", "\x7d"] ∧
        (Invocation.find? call entry.implementationName).map Invocation.args = some passed ∧
        (Invocation.find? header entry.mainName).map Invocation.args =
          some (exported ++
            (["uniform uint dispatch_x", "uniform uint dispatch_y", "uniform uint dispatch_z"] :
              List Text)) := by
  intro resources params shader declared passed exported
  have declares :
      declared = resources.map (·.parameter "") ++ params.map CoordinateParam.lowered := by
    decide +kernel
  have passes : passed = resources.map (fun resource => resource.handleName ++ ("_arg" : Text)) ++
      params.map CoordinateParam.var := by
    decide +kernel
  have exports : exported = resources.map (·.parameter "_arg") := by decide +kernel
  rw [declares, passes, exports]
  have plain : ∀ resource ∈ resources, resource.IsPlain := by decide
  have proper : ∀ param ∈ params, param.IsProper := by decide
  have suffixed : ∀ text ∈ some "v2".toList, ∀ c ∈ text, isWordChar c = true := by
    rintro text ⟨⟩
    exact List.all_eq_true.mp (by decide)
  exact declaration_agrees_with_call plain proper (by decide) (by decide) (by decide) (by decide)
    suffixed rfl rfl 1 " \x7b" .alias

end Agreement

end EntryPoint

end IspcShader
