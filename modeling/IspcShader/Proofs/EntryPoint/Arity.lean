import IspcShader.Proofs.EntryPoint.Agreement
import IspcShader.Proofs.EntryPoint.Lookup
import IspcShader.Proofs.EntryPoint.Marker
import IspcShader.Proofs.Macro.Tally

/-!
How many parameters an implementation declares, and how many its call passes. Every parameter of the
entry line is declared, with its macro layer off, but only dispatch coordinates are passed: a
builtin of another kind is warned about, a struct is not.
-/
namespace IspcShader

open Text Macro

/-- A parameter on an entry line: a struct, `VSOutput(In)`, or a builtin,
`SV_DispatchThreadID(uint3) id`. -/
inductive EntryParam where
  | struct (param : Parameter)
  | builtin (param : CoordinateParam)
  deriving DecidableEq, Repr

namespace EntryParam

def written : EntryParam → Text
  | struct param => param.type ++ "(" ++ param.var ++ ")"
  | builtin param => param.written

def builtin? : EntryParam → Option CoordinateParam
  | struct _ => none
  | builtin param => some param

end EntryParam

structure Parameter.IsNamed (param : Parameter) : Prop where
  type : IsWord param.type
  var : IsWord param.var

structure CoordinateParam.IsNamed (param : CoordinateParam) : Prop where
  builtin : IsWord param.builtin
  type : IsWord param.type
  var : IsWord param.var

instance (param : Parameter) : Decidable param.IsNamed :=
  decidable_of_iff (IsWord param.type ∧ IsWord param.var)
    ⟨fun h => ⟨h.1, h.2⟩, fun h => ⟨h.type, h.var⟩⟩

instance (param : CoordinateParam) : Decidable param.IsNamed :=
  decidable_of_iff (IsWord param.builtin ∧ IsWord param.type ∧ IsWord param.var)
    ⟨fun h => ⟨h.1, h.2.1, h.2.2⟩, fun h => ⟨h.builtin, h.type, h.var⟩⟩

theorem isChunk_spaced {a b : Text} (ha : IsWord a) (hb : IsWord b) : IsChunk (a ++ " " ++ b) := by
  refine ((IsChunk.of_isWord ha).append_plain ?_).append_plain fun c member =>
    isPlain_of_isWordChar (hb.chars c member)
  intro c member
  obtain rfl : c = ' ' := by simpa using member
  decide

/-- Taking the layer off struct parameters leaves the number of parameters as it is. -/
theorem EntryPoint.tally_unwrapStructs {structs : List Parameter}
    (named : ∀ param ∈ structs, param.IsNamed) (params : Text) (depth : Nat) :
    tally depth (unwrapStructs structs params) = tally depth params := by
  unfold unwrapStructs
  induction structs generalizing params with
  | nil => rfl
  | cons param rest ih =>
    have first := named param List.mem_cons_self
    have old := IsChunk.wrap first.type (IsChunk.of_isWord first.var).closed
    have fresh := isChunk_spaced first.type first.var
    rw [List.foldl_cons, ih fun other member => named other (List.mem_cons_of_mem _ member)]
    exact (old.tally_replaced fresh (replaced_replaceAll _ _ params) depth).symm

namespace BuiltinScan

variable {entryLine : Text} {number : Nat} {scan : BuiltinScan}

theorem events_subset_visit (param : Parameter) :
    scan.events ⊆ (visit entryLine number scan param).events := by
  intro event member
  unfold visit record
  split
  · exact List.mem_append_left _ member
  · dsimp only
    split <;> exact List.mem_append_left _ member

theorem events_subset_foldl (builtins : List Parameter) :
    scan.events ⊆ (builtins.foldl (visit entryLine number) scan).events := by
  induction builtins generalizing scan with
  | nil => exact fun event member => member
  | cons param rest ih => exact fun event member => ih (events_subset_visit param member)

/-- A builtin that is not warned about is passed on, and leaves one parameter where it was. -/
theorem visit_of_silent {param : CoordinateParam} (named : param.IsNamed)
    (silent : ∀ event ∈ (visit entryLine number scan param.listed).events,
      event.isWarning = false) :
    (visit entryLine number scan param.listed).args = scan.args ++ [param.arg] ∧
      ∀ depth, tally depth (visit entryLine number scan param.listed).params =
        tally depth scan.params := by
  have unwrapped : Macro.unwrap param.listed.type = param.type :=
    CoordinateParam.unwrap_declaredType named.builtin named.type
  unfold visit record at silent ⊢
  cases located : param.listed.locate? scan.params with
  | none =>
    rw [located] at silent
    exact nomatch silent _ (List.mem_append_right _ List.mem_cons_self)
  | some place =>
    obtain ⟨before, after⟩ := place
    rw [located] at silent
    dsimp only at silent ⊢
    by_cases coordinate : param.listed.isDispatchCoordinate = true
    · rw [if_pos coordinate]
      refine ⟨by rw [unwrapped]; rfl, ?_⟩
      intro depth
      obtain ⟨blanks, shape, -, blank⟩ := Parameter.append_of_locate? located
      have old : IsChunk (param.listed.type ++ blanks ++ param.listed.var) := by
        refine ((IsChunk.wrap named.builtin (IsChunk.of_isWord named.type).closed).append_plain
          fun c member => isPlain_of_isBlank (blank c member)).append_plain ?_
        exact fun c member => isPlain_of_isWordChar (named.var.chars c member)
      have fresh : IsChunk (param.type ++ " " ++ param.listed.var) :=
        isChunk_spaced named.type named.var
      rw [shape, old.tally_eq fresh, unwrapped]
      simp only [List.append_assoc]
    · rw [if_neg coordinate] at silent
      exact nomatch silent _ (List.mem_append_right _ List.mem_cons_self)

theorem foldl_of_silent {params : List CoordinateParam} (named : ∀ param ∈ params, param.IsNamed)
    (silent : ∀ event ∈
      ((params.map CoordinateParam.listed).foldl (visit entryLine number) scan).events,
      event.isWarning = false) :
    let final := (params.map CoordinateParam.listed).foldl (visit entryLine number) scan
    final.args = scan.args ++ params.map CoordinateParam.arg ∧
      ∀ depth, tally depth final.params = tally depth scan.params := by
  induction params generalizing scan with
  | nil => exact ⟨(List.append_nil _).symm, fun depth => rfl⟩
  | cons param rest ih =>
    rw [List.map_cons, List.foldl_cons] at silent ⊢
    obtain ⟨passed, counted⟩ := visit_of_silent (named param List.mem_cons_self) fun event member =>
      silent event (events_subset_foldl _ member)
    obtain ⟨others, unchanged⟩ :=
      ih (fun other member => named other (List.mem_cons_of_mem _ member)) silent
    refine ⟨?_, fun depth => (unchanged depth).trans (counted depth)⟩
    rw [others, passed, List.map_cons, List.append_assoc, List.singleton_append]

end BuiltinScan

theorem Resource.IsPlain.closed_parameter {resource : Resource} (plain : resource.IsPlain) :
    depthAfter 0 (resource.parameter "") = some 0 ∧
      (resource.parameter "").all isBlank = false := by
  have argument : IsArgument (resource.parameter "") :=
    plain.isArgument_parameter fun c none => nomatch none
  refine ⟨argument.closed, Bool.eq_false_iff.mpr fun blank => resource.parameter_ne_nil "" ?_⟩
  rw [← argument.trimmed]
  exact trim_eq_nil_iff.mpr blank

namespace EntryPoint

theorem arity_withResources {resources : List Resource}
    (plain : ∀ resource ∈ resources, resource.IsPlain) {params : Text} {count : Nat}
    (h : arity params = some count) :
    arity (withResources resources params) = some (resources.length + count) := by
  by_cases none : resources = []
  · simpa [none, withResources] using h
  have each : ∀ text ∈ resources.map (·.parameter ""),
      depthAfter 0 text = some 0 ∧ text.all isBlank = false := by
    intro text member
    obtain ⟨resource, listed, rfl⟩ := List.mem_map.mp member
    exact (plain resource listed).closed_parameter
  have joined := tally_intercalate (mt List.map_eq_nil_iff.mp none)
    (fun text member => (each text member).1) fun text member => (each text member).2
  have positive := List.length_pos_iff.mpr none
  rw [arity_eq] at h
  obtain ⟨⟨pieces, blank⟩, counted, rfl⟩ := Option.map_eq_some_iff.mp h
  obtain ⟨first, single⟩ := blank_of_tally counted
  have some : resources.isEmpty = false := by simpa using none
  rw [withResources, ← first, some, Bool.false_or, arity_eq, List.append_assoc, joined,
    List.length_map]
  cases blank with
  | true =>
    -- nothing follows the resources, so there is no comma
    obtain rfl := single rfl
    rw [if_pos rfl]
    simp [counted]
    omega
  | false =>
    have comma : tally 0 (", " ++ params) = _ := tally_comma params
    rw [if_neg Bool.false_ne_true, comma, counted]
    simp
    omega

end EntryPoint

namespace EntryPoint

/-- Where nothing is warned about, the implementation declares each parameter of its line and the
call passes each listed builtin, both behind the resources. So the two agree just when no struct is
among the parameters. -/
theorem arity_agrees_iff {line inside after : Text} {marker : EntryMarker}
    {params : List EntryParam} {builtins : List CoordinateParam} {shader : Shader}
    {resources : List Resource} {suffix : Option Text} {policy : ResourcePolicy} {number : Nat}
    (found : EntryMarker.find? line = some marker)
    (closed : readInside 0 marker.params = some (inside, after))
    (listing : arguments inside = params.map EntryParam.written)
    (structs : ∀ param ∈ shader.structParams, param.IsNamed)
    (listed : shader.builtinParams = builtins.map CoordinateParam.listed)
    (named : ∀ param ∈ builtins, param.IsNamed) (plain : ∀ resource ∈ resources, resource.IsPlain)
    (chars : ∀ text ∈ suffix, ∀ c ∈ text, isWordChar c = true)
    (new : contains (Dispatch.implementationName (exportName marker.name suffix) ++ "(")
      marker.before = false)
    (silent : ∀ event ∈ (ofMarker marker number shader resources suffix policy).2,
      event.isWarning = false) :
    let entry := (ofMarker marker number shader resources suffix policy).1
    ∃ (declared passed body : List Text) (call : Text),
      (Invocation.find? entry.line entry.implementationName).map Invocation.args = some declared ∧
      entry.wrapper = body ++ [call, "    \x7d", "\x7d"] ∧
      (Invocation.find? call entry.implementationName).map Invocation.args = some passed ∧
      declared.length = resources.length + params.length ∧
      passed.length = resources.length + builtins.length ∧
      (builtins.Perm (params.filterMap EntryParam.builtin?) →
        (declared.length = passed.length ↔ ∀ param ∈ params, param.builtin?.isSome = true)) := by
  obtain ⟨isWord, off⟩ := EntryMarker.isWord_of_find? found
  have main := isWord_exportName isWord chars
  let scan := BuiltinScan.run marker.line number shader.builtinParams
    (unwrapStructs shader.structParams marker.params)
  have quiet : ∀ event ∈ scan.events, event.isWarning = false := fun event member =>
    silent event (List.mem_append_left _ member)
  obtain ⟨args, counted⟩ : scan.args = builtins.map CoordinateParam.arg ∧
      ∀ depth, tally depth scan.params =
        tally depth (unwrapStructs shader.structParams marker.params) := by
    dsimp only [scan, BuiltinScan.run] at quiet ⊢
    rw [listed] at quiet ⊢
    exact BuiltinScan.foldl_of_silent named quiet
  have count : arity scan.params = some params.length := by
    rw [arity_eq, counted, tally_unwrapStructs structs, ← arity_eq]
    exact arity_eq_some_iff.mpr ⟨inside, after, closed, by rw [listing, List.length_map]⟩
  have passes : ∀ arg ∈ scan.args, IsWord arg.name := by
    intro arg member
    rw [args] at member
    obtain ⟨param, one, rfl⟩ := List.mem_map.mp member
    exact (named param one).var
  have shape : (ofMarker marker number shader resources suffix policy).1.line = marker.before ++
      Dispatch.implementationName (exportName marker.name suffix) ++
        '(' :: withResources resources scan.params := by
    simp [ofMarker, ofScan, scan]
  obtain ⟨declared, declares, size⟩ :=
    Invocation.exists_args_of_arity (isWord_implementationName main)
    off new (arity_withResources plain count)
  rw [← shape] at declares
  refine ⟨declared, _, _, Dispatch.callLine (exportName marker.name suffix) resources scan.args,
    declares, rfl, args_callLine main plain passes, size, ?_, ?_⟩
  · simp [args]
  · intro permuted
    have lengths := permuted.length_eq
    rw [size, ← List.filterMap_length_eq_length]
    simp only [args, List.length_append, List.length_map]
    omega

theorem arity_agrees_iff_mixed :
    let line : Text := "float4 PS_MAIN( VSOutput(In),SV_DispatchThreadID(uint3) id )"
    let marker : EntryMarker :=
      ⟨"float4 ", "PS_MAIN", " VSOutput(In),SV_DispatchThreadID(uint3) id )"⟩
    let builtins : List CoordinateParam := [⟨"SV_DispatchThreadID", "uint3", "id"⟩]
    let params : List EntryParam :=
      [.struct ⟨"VSOutput", "In"⟩, .builtin ⟨"SV_DispatchThreadID", "uint3", "id"⟩]
    let shader : Shader :=
      { name := "Mixed", stage := .frag, structParams := [⟨"VSOutput", "In"⟩]
        builtinParams := builtins.map CoordinateParam.listed }
    let resources : List Resource := [⟨"RWBuffer(float4)", "float4", "Out[2]", "Out", true, false⟩]
    let lowered := ofMarker marker 1 shader resources (some "v2") .alias
    EntryMarker.find? line = some marker ∧ (∀ event ∈ lowered.2, event.isWarning = false) ∧
      ∃ (declared passed body : List Text) (call : Text),
        (Invocation.find? lowered.1.line lowered.1.implementationName).map Invocation.args =
          some declared ∧
        lowered.1.wrapper = body ++ [call, "    \x7d", "\x7d"] ∧
        (Invocation.find? call lowered.1.implementationName).map Invocation.args = some passed ∧
        declared.length = 1 + 2 ∧ passed.length = 1 + 1 ∧
        (builtins.Perm (params.filterMap EntryParam.builtin?) →
          (declared.length = passed.length ↔ ∀ param ∈ params, param.builtin?.isSome = true)) := by
  intro line marker builtins params shader resources lowered
  have found : EntryMarker.find? line = some marker := by decide +kernel
  have silent : ∀ event ∈ lowered.2, event.isWarning = false := by decide +kernel
  have closed : readInside 0 marker.params =
      some (" VSOutput(In),SV_DispatchThreadID(uint3) id ".toList, []) := by
    decide +kernel
  have listing : arguments " VSOutput(In),SV_DispatchThreadID(uint3) id ".toList =
      params.map EntryParam.written := by
    decide +kernel
  have structs : ∀ param ∈ shader.structParams, param.IsNamed := by decide
  have named : ∀ param ∈ builtins, param.IsNamed := by decide
  have plain : ∀ resource ∈ resources, resource.IsPlain := by decide
  have chars : ∀ text ∈ some "v2".toList, ∀ c ∈ text, isWordChar c = true := by
    rintro text ⟨⟩
    exact List.all_eq_true.mp (by decide)
  have new : contains (Dispatch.implementationName (exportName marker.name (some "v2")) ++ "(")
      marker.before = false := by
    decide +kernel
  exact ⟨found, silent,
    arity_agrees_iff found closed listing structs rfl named plain chars new silent⟩

/-- A struct parameter is declared and not passed, and no warning says so. -/
theorem struct_param_not_passed :
    let marker : EntryMarker := ⟨"void ", "PS_MAIN", "VSOutput(In))"⟩
    let shader : Shader := { name := "s", stage := .frag, structParams := [⟨"VSOutput", "In"⟩] }
    let lowered := ofMarker marker 1 shader [] (some "TEST") .alias
    let call : Text := "        PS_MAIN_TEST_impl();"
    EntryMarker.find? "void PS_MAIN(VSOutput(In))" = some marker ∧
      (∀ event ∈ lowered.2, event.isWarning = false) ∧
      (Invocation.find? lowered.1.line lowered.1.implementationName).map Invocation.args =
        some ["VSOutput In".toList] ∧
      lowered.1.wrapper.drop 6 = [call, "    \x7d", "\x7d"] ∧
      (Invocation.find? call lowered.1.implementationName).map Invocation.args = some [] := by
  decide +kernel

end EntryPoint

end IspcShader
