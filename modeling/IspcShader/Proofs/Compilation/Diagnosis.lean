import IspcShader.Proofs.Compilation.Closing
import IspcShader.Proofs.Compilation.Output
import IspcShader.Proofs.Compilation.Threading

/-!
No declaring macro gets lost whose brackets close. With a number of arguments that it takes it is
rewritten, with any other number its line is reported. A macro whose brackets stay open is no call,
and its line passes like any other.
-/
namespace IspcShader

open Text

namespace Declaration.Kind

def counts : Kind → List Nat
  | struct => [1]
  | field => [2, 3]
  | resource => [5]
  | shared => [2]

def takes : Kind → List Text → Bool
  | struct, args => (Struct.ofArgs? args).isSome
  | field, args => (Field.ofArgs? args).isSome
  | resource, args => (Resource.ofArgs? args).isSome
  | shared, args => (Shared.ofArgs? args).isSome

theorem takes_iff (kind : Kind) (args : List Text) :
    kind.takes args = true ↔ args.length ∈ kind.counts := by
  cases kind with
  | struct => rcases args with _ | ⟨a, _ | ⟨b, more⟩⟩ <;> simp [takes, Struct.ofArgs?, counts]
  | field =>
    rcases args with _ | ⟨a, _ | ⟨b, _ | ⟨c, _ | ⟨d, more⟩⟩⟩⟩ <;>
      simp [takes, Field.ofArgs?, counts]
  | resource =>
    rcases args with _ | ⟨a, _ | ⟨b, _ | ⟨c, _ | ⟨d, _ | ⟨e, _ | ⟨f, more⟩⟩⟩⟩⟩⟩ <;>
      simp [takes, Resource.ofArgs?, counts]
  | shared =>
    rcases args with _ | ⟨a, _ | ⟨b, _ | ⟨c, more⟩⟩⟩ <;> simp [takes, Shared.ofArgs?, counts]

section Read

variable {α : Type} {build : List Text → Option α} {kind : Kind} {line : Text} {args : List Text}

theorem exists_read_ok (found : kind.args? line = some args) (taken : (build args).isSome = true) :
    ∃ declaration, build args = some declaration ∧
      kind.read build line = some (.ok declaration) := by
  obtain ⟨declaration, built⟩ := Option.isSome_iff_exists.mp taken
  exact ⟨declaration, built, read_eq_ok_iff.mpr ⟨args, found, built⟩⟩

theorem read_eq_error (found : kind.args? line = some args)
    (refused : ¬ (build args).isSome = true) :
    kind.read build line = some (.error ⟨kind, args.length⟩) := by
  rw [read, found, Option.map_some, check, Option.not_isSome_iff_eq_none.mp refused]

end Read

end Declaration.Kind

namespace Compilation

/-- What the rewrite of a declaring macro with these arguments comes to: the struct is opened,
unless it ends on its own line, the member takes the place of its line or leaves none, one resource
is taken up, or the accessor and the declaration of group-shared storage are written. -/
def Rewritten (job : Job) (state : State) (source : NumberedLine) (outcome : Outcome)
    (args : List Text) : Declaration.Kind → Prop
  | .struct => ∃ declaration, Declaration.Struct.ofArgs? args = some declaration ∧
    outcome.state.mode =
      if contains "\x7d;" source.text then .outside
      else .inside declaration.name (!job.shader.isInterface declaration.name)
  | .field => ∃ field, Declaration.Field.ofArgs? args = some field ∧
    match field.memberLine? (leadingBlanks source.text) state.mode.ignoresSemantics
      job.binary.capabilities with
    | none => outcome.lines = []
    | some member => Lowering.lower member ∈ outcome.lines
  | .resource => ∃ declaration, Declaration.Resource.ofArgs? args = some declaration ∧
    outcome.state.resources = state.resources ++ [Resource.ofDeclaration declaration]
  | .shared => ∃ declaration, Declaration.Shared.ofArgs? args = some declaration ∧
    let base := Macro.arrayBase declaration.name
    outcome.lines =
      ["#define _Get" ++ base ++ " " ++ base,
       Lowering.lower ("uniform " ++ declaration.type ++ " " ++ declaration.name ++ ";"),
       "//line " ++ Text.ofNat source.number]

section Step

variable {job : Job} {state : State} {source : NumberedLine}

theorem fate_ne_dropped (statement : Marker.isDirective source.text = false)
    (stays : dropsMember (openedMode job state.mode source.text) source.text = false) :
    fate job state.mode source.text ≠ .dropped := by
  unfold fate
  rw [statement, stays]
  cases (openedMode job state.mode source.text).isInside <;>
    cases Marker.closesStruct source.text <;>
    simp

theorem mem_events_of_blockDraft (stays : fate job state.mode source.text ≠ .dropped)
    {event : Event} (h : event ∈ (blockDraft job state source).events) :
    event ∈ (step job state source).events := by
  rw [step_eq]
  cases fated : fate job state.mode source.text with
  | dropped => exact absurd fated stays
  | closing => exact h
  | kept =>
    dsimp only
    rw [Draft.finish_events]
    simp only [List.mem_append]
    exact .inl (.inl (.inl h))

theorem mode_of_struct {declaration : Declaration.Struct}
    (found : Declaration.Struct.read source.text = some (.ok declaration)) :
    (step job state source).state.mode =
      if contains "\x7d;" source.text then .outside
      else .inside declaration.name (!job.shader.isInterface declaration.name) := by
  have statement := Declaration.Kind.isDirective_of_read found
  have unread : Declaration.Field.read source.text = none :=
    Declaration.Kind.read_eq_none_of_read found (by decide)
  have opened : openedMode job state.mode source.text =
      .inside declaration.name (!job.shader.isInterface declaration.name) := by
    simp only [openedMode, found]
  change _ = if Marker.closesStruct source.text then _ else _
  rw [step_mode, modeBehind, fate, statement, opened]
  cases Marker.closesStruct source.text <;> simp [dropsMember, unread, BlockMode.isInside]

theorem reported_of_struct {fault : Declaration.Malformed}
    (found : Declaration.Struct.read source.text = some (.error fault)) :
    .malformed fault source.number source.file ∈ (step job state source).events := by
  have statement := Declaration.Kind.isDirective_of_read found
  have unread : Declaration.Field.read source.text = none :=
    Declaration.Kind.read_eq_none_of_read found (by decide)
  apply mem_events_of_blockDraft (fate_ne_dropped statement (by simp only [dropsMember, unread]))
  simp [blockDraft, found, faultEvents]

theorem lines_of_field {field : Declaration.Field} (inside : state.mode.isInside = true)
    (found : Declaration.Field.read source.text = some (.ok field))
    (entry : EntryMarker.find? source.text = none) (plain : Marker.isReturn source.text = false)
    (hint : Marker.hasOutputHint source.text = false) :
    match field.memberLine? (leadingBlanks source.text) state.mode.ignoresSemantics
      job.binary.capabilities with
    | none => (step job state source).lines = []
    | some member => Lowering.lower member ∈ (step job state source).lines := by
  rw [step_of_field inside (Declaration.Kind.isDirective_of_read found) found]
  cases field.memberLine? (leadingBlanks source.text) state.mode.ignoresSemantics
    job.binary.capabilities with
  | none => rfl
  | some member =>
    have resource : Declaration.Resource.read source.text = none :=
      Declaration.Kind.read_eq_none_of_read found (by decide)
    have shared : Declaration.Shared.read source.text = none :=
      Declaration.Kind.read_eq_none_of_read found (by decide)
    dsimp only
    split
    · exact List.mem_cons_of_mem _ List.mem_cons_self
    · rw [Draft.finish_lines job source _ rfl, keptLine_of_unmarked entry plain hint]
      simp [expansion?, resource, shared]

theorem reported_of_field {fault : Declaration.Malformed} (inside : state.mode.isInside = true)
    (found : Declaration.Field.read source.text = some (.error fault)) :
    .malformed fault source.number source.file ∈ (step job state source).events := by
  have statement := Declaration.Kind.isDirective_of_read found
  apply mem_events_of_blockDraft (fate_ne_dropped statement (by simp only [dropsMember, found]))
  simp [blockDraft, isInside_openedMode inside, found, faultEvents]

theorem step_of_storage {α : Type} {build : List Text → Option α} {kind : Declaration.Kind}
    {result : Except Declaration.Malformed α} (found : kind.read build source.text = some result)
    (storage : kind = .resource ∨ kind = .shared)
    (apart : (state.mode.isInside && Marker.closesStruct source.text) = false) :
    step job state source = (blockDraft job state source).finish job source := by
  have unopened : Declaration.Struct.read source.text = none :=
    Declaration.Kind.read_eq_none_of_read found (by rcases storage with rfl | rfl <;> decide)
  have unread : Declaration.Field.read source.text = none :=
    Declaration.Kind.read_eq_none_of_read found (by rcases storage with rfl | rfl <;> decide)
  rw [step_eq, fate_of_undeclared (Declaration.Kind.isDirective_of_read found) unopened
    unread, apart]
  rfl

theorem resources_of_resource {declaration : Declaration.Resource}
    (found : Declaration.Resource.read source.text = some (.ok declaration))
    (apart : (state.mode.isInside && Marker.closesStruct source.text) = false) :
    (step job state source).state.resources =
      state.resources ++ [Resource.ofDeclaration declaration] := by
  rw [step_resources, declaredOn, apart, if_neg Bool.false_ne_true, written, found]

theorem reported_of_resource {fault : Declaration.Malformed}
    (found : Declaration.Resource.read source.text = some (.error fault))
    (apart : (state.mode.isInside && Marker.closesStruct source.text) = false) :
    .malformed fault source.number source.file ∈ (step job state source).events := by
  rw [step_of_storage found (.inl rfl) apart, Draft.finish_events]
  simp [resourceEvents, found, faultEvents]

theorem lines_of_shared {declaration : Declaration.Shared}
    (found : Declaration.Shared.read source.text = some (.ok declaration))
    (apart : (state.mode.isInside && Marker.closesStruct source.text) = false)
    (entry : EntryMarker.find? source.text = none) (plain : Marker.isReturn source.text = false)
    (hint : Marker.hasOutputHint source.text = false) :
    (step job state source).lines =
      [Expansion.accessorFor (Macro.arrayBase declaration.name),
       Lowering.lower ("uniform " ++ declaration.type ++ " " ++ declaration.name ++ ";"),
       originComment source] := by
  have resource : Declaration.Resource.read source.text = none :=
    Declaration.Kind.read_eq_none_of_read found (by decide)
  rw [step_of_storage found (.inr rfl) apart, Draft.finish_lines job source _ rfl,
    keptLine_of_unmarked entry plain hint, expansion?, resource, found]
  rfl

theorem reported_of_shared {fault : Declaration.Malformed}
    (found : Declaration.Shared.read source.text = some (.error fault))
    (apart : (state.mode.isInside && Marker.closesStruct source.text) = false) :
    .malformed fault source.number source.file ∈ (step job state source).events := by
  rw [step_of_storage found (.inr rfl) apart, Draft.finish_events]
  simp [found, faultEvents]

end Step

/-- No macro whose brackets close is ignored: with a number of arguments that it takes it is
rewritten, with any other number the line is reported. Members count inside a block only, and
storage is declared on lines that do not end one. -/
theorem rewritten_or_reported (job : Job) (state : State) (source : NumberedLine)
    {kind : Declaration.Kind} {rest inside after : Text}
    (starts : trimStart source.text = kind.keyword ++ '(' :: rest)
    (closed : Macro.readInside 0 rest = some (inside, after))
    (within : kind = .field → state.mode.isInside = true)
    (apart : kind = .resource ∨ kind = .shared →
      (state.mode.isInside && contains "\x7d;" source.text) = false) :
    let args := Macro.arguments inside
    (args.length ∈ kind.counts →
      (kind = .field ∨ kind = .shared → contains "_MAIN(" source.text = false ∧
        contains "SET_OUTPUT_FORMAT(" source.text = false) →
      Rewritten job state source (step job state source) args kind) ∧
    (args.length ∉ kind.counts →
      .malformed ⟨kind, args.length⟩ source.number source.file ∈
        (step job state source).events) := by
  intro args
  have found : kind.args? source.text = some args :=
    Declaration.Kind.args?_eq_some_iff.mpr ⟨rest, inside, after, starts, closed, rfl⟩
  have unreturned : kind = .field ∨ kind = .shared → Marker.isReturn source.text = false := by
    intro block
    rw [Marker.isReturn, starts]
    rcases block with rfl | rfl <;> rfl
  rw [← kind.takes_iff]
  constructor
  · intro taken plain
    cases kind with
    | struct =>
      obtain ⟨declaration, built, read⟩ := Declaration.Kind.exists_read_ok found taken
      exact ⟨declaration, built, mode_of_struct read⟩
    | field =>
      obtain ⟨field, built, read⟩ := Declaration.Kind.exists_read_ok found taken
      obtain ⟨unmarked, unhinted⟩ := plain (.inl rfl)
      exact ⟨field, built, lines_of_field (within rfl) read (EntryMarker.find?_eq_none unmarked)
        (unreturned (.inl rfl)) unhinted⟩
    | resource =>
      obtain ⟨declaration, built, read⟩ := Declaration.Kind.exists_read_ok found taken
      exact ⟨declaration, built, resources_of_resource read (apart (.inl rfl))⟩
    | shared =>
      obtain ⟨declaration, built, read⟩ := Declaration.Kind.exists_read_ok found taken
      obtain ⟨unmarked, unhinted⟩ := plain (.inr rfl)
      exact ⟨declaration, built, lines_of_shared read (apart (.inr rfl))
        (EntryMarker.find?_eq_none unmarked) (unreturned (.inr rfl)) unhinted⟩
  · intro refused
    cases kind with
    | struct => exact reported_of_struct (Declaration.Kind.read_eq_error found refused)
    | field => exact reported_of_field (within rfl) (Declaration.Kind.read_eq_error found refused)
    | resource =>
      exact reported_of_resource (Declaration.Kind.read_eq_error found refused) (apart (.inl rfl))
    | shared =>
      exact reported_of_shared (Declaration.Kind.read_eq_error found refused) (apart (.inr rfl))

theorem rewritten_or_reported_pair :
    let job : Job :=
      { shader := { name := "Pair", stage := .comp }, binary := { filename := "pair.comp" },
        options := {} }
    let state : State := { mode := .inside "Light" true }
    let shared : NumberedLine := ⟨0, 7, "  GroupShared(float, gCache[64]);"⟩
    let short : NumberedLine := ⟨2, 8, "\tRES(Buffer(float4), Buf[4]); // t0"⟩
    Macro.readInside 0 "float, gCache[64]);".toList =
      some ("float, gCache[64]".toList, ";".toList) ∧
      Rewritten job state shared (step job state shared) ["float", "gCache[64]"] .shared ∧
      Macro.readInside 0 "Buffer(float4), Buf[4]); // t0".toList =
        some ("Buffer(float4), Buf[4]".toList, "; // t0".toList) ∧
      .malformed ⟨.resource, 2⟩ 8 2 ∈ (step job state short).events := by
  intro job state shared short
  have sharedStarts : trimStart shared.text =
      Declaration.Kind.shared.keyword ++ '(' :: "float, gCache[64]);".toList := by
    decide +kernel
  have shortStarts : trimStart short.text =
      Declaration.Kind.resource.keyword ++ '(' :: "Buffer(float4), Buf[4]); // t0".toList := by
    decide +kernel
  have sharedClosed : Macro.readInside 0 "float, gCache[64]);".toList =
      some ("float, gCache[64]".toList, ";".toList) := by
    decide +kernel
  have shortClosed : Macro.readInside 0 "Buffer(float4), Buf[4]); // t0".toList =
      some ("Buffer(float4), Buf[4]".toList, "; // t0".toList) := by
    decide +kernel
  have sharedArgs :
      Macro.arguments "float, gCache[64]".toList = ["float".toList, "gCache[64]".toList] := by
    decide +kernel
  have shortArgs : Macro.arguments "Buffer(float4), Buf[4]".toList =
      ["Buffer(float4)".toList, "Buf[4]".toList] := by
    decide +kernel
  have first :=
    (rewritten_or_reported job state shared sharedStarts sharedClosed (fun h => nomatch h)
    fun _ => by decide +kernel).1
  have second := (rewritten_or_reported job state short shortStarts shortClosed (fun h => nomatch h)
    fun _ => by decide +kernel).2
  rw [sharedArgs] at first
  rw [shortArgs] at second
  exact ⟨sharedClosed, first (by decide) fun _ => by decide +kernel, shortClosed,
    second (by decide)⟩

/-- A macro whose brackets stay open is passed on: it declares nothing, and nothing is reported. -/
theorem unclosed_resource_ignored :
    let job : Job :=
      { shader := { name := "s", stage := .comp }, binary := { filename := "test.comp" },
        options := {} }
    let source : NumberedLine :=
      ⟨0, 1, "RES(Buffer(float4), Buf, UPDATE_FREQ_NONE, t0, binding = 0;"⟩
    startsWith "RES(" (trimStart source.text) = true ∧ (step job {} source).state = {} ∧
      (step job {} source).events = [] := by
  decide +kernel

end Compilation

end IspcShader
