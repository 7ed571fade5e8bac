import IspcShader.Proofs.Compilation.Output
import IspcShader.Proofs.Declaration.Printing

/-!
Lines that pass through. Where nothing is declared, closed or entered, the rules leave the state as
it is and hand the line on. A macro with a wrong number of arguments declares nothing: no rule
behind the one that has read it takes the line up again, so its fault is the only thing that is
reported.
-/
namespace IspcShader

open Text

namespace Declaration

/-- No macro on the line is taken up, though one may be refused. -/
structure DeclaresNothing (line : Text) : Prop where
  struct : ∀ declaration, Struct.read line ≠ some (.ok declaration)
  field : ∀ declaration, Field.read line ≠ some (.ok declaration)
  resource : ∀ declaration, Resource.read line ≠ some (.ok declaration)
  shared : ∀ declaration, Shared.read line ≠ some (.ok declaration)

variable {kind : Kind} {line : Text}

theorem Kind.readAs_eq_none {result : Except Malformed Declared}
    (found : kind.readAs line = some result) {other : Kind} (different : kind ≠ other) :
    other.readAs line = none := by
  rw [readAs_eq] at found ⊢
  exact read_eq_none_of_read found different

theorem declaresNothing_of_refused {fault : Malformed}
    (refused : kind.readAs line = some (.error fault)) : DeclaresNothing line := by
  -- what another reader takes up would be read as its kind, and the line has one kind at most
  have untaken (other : Kind) (declared : Declared) : other.readAs line ≠ some (.ok declared) := by
    intro taken
    by_cases same : kind = other
    · rw [← same, refused] at taken
      cases taken
    · rw [Kind.readAs_eq_none refused same] at taken
      cases taken
  constructor
  · exact fun declaration read =>
      untaken .struct (.struct declaration) (by rw [Kind.readAs, read]; rfl)
  · exact fun declaration read =>
      untaken .field (.field declaration) (by rw [Kind.readAs, read]; rfl)
  · exact fun declaration read =>
      untaken .resource (.resource declaration) (by rw [Kind.readAs, read]; rfl)
  · exact fun declaration read =>
      untaken .shared (.shared declaration) (by rw [Kind.readAs, read]; rfl)

end Declaration

namespace Compilation

open Declaration

section DeclaresNothing

variable {line : Text} (nothing : DeclaresNothing line) (job : Job) (mode : BlockMode)

include nothing

theorem openedMode_of_declaresNothing : openedMode job mode line = mode := by
  unfold openedMode
  split
  · next declaration read => exact absurd read (nothing.struct declaration)
  · rfl

theorem openedLine_of_declaresNothing : openedLine line = line := by
  unfold openedLine
  split
  · next declaration read => exact absurd read (nothing.struct declaration)
  · rfl

theorem dropsMember_of_declaresNothing : dropsMember mode line = false := by
  unfold dropsMember
  split
  · next field read => exact absurd read (nothing.field field)
  · rfl

theorem memberLine_of_declaresNothing (before : Text) :
    memberLine job mode line before = before := by
  unfold memberLine
  split
  · next field read => exact absurd read (nothing.field field)
  · rfl

theorem written_of_declaresNothing : Compilation.written line = [] := by
  unfold Compilation.written
  split
  · next declaration read => exact absurd read (nothing.resource declaration)
  · rfl

theorem expansion?_of_declaresNothing : expansion? job line = none := by
  unfold expansion?
  split
  · next declaration read => exact absurd read (nothing.resource declaration)
  · split
    · next declaration read => exact absurd read (nothing.shared declaration)
    · rfl

end DeclaresNothing

def faultsOf (source : NumberedLine) (kind : Kind) : List Event :=
  faultEvents source (kind.readAs source.text)

/-- The faults that the rules come to on a line that passes through, in the order of the rules. -/
def passingFaults (mode : BlockMode) (source : NumberedLine) : List Event :=
  faultsOf source .struct ++ (if mode.isInside then faultsOf source .field else []) ++
    faultsOf source .resource ++ faultsOf source .shared

theorem faultEvents_map {α β : Type} (source : NumberedLine) (wrap : α → β)
    (read : Option (Except Malformed α)) :
    faultEvents source (read.map (Except.map wrap)) = faultEvents source read := by
  rcases read with _ | (fault | declaration) <;> rfl

theorem resourceEvents_of_declaresNothing {source : NumberedLine}
    (nothing : DeclaresNothing source.text) :
    resourceEvents source = faultsOf source .resource := by
  rw [faultsOf, Kind.readAs, faultEvents_map]
  unfold resourceEvents
  split
  · next declaration read => exact absurd read (nothing.resource declaration)
  · rfl

section Step

variable {source : NumberedLine}

theorem blockDraft_of_declaresNothing (nothing : DeclaresNothing source.text) (job : Job)
    (state : State) : blockDraft job state source =
      { state, line := source.text
        events := faultsOf source .struct ++ if state.mode.isInside then faultsOf source .field
          else [] } := by
  simp only [blockDraft, openedMode_of_declaresNothing nothing,
    openedLine_of_declaresNothing nothing, memberLine_of_declaresNothing nothing, ite_self,
    faultsOf, Kind.readAs, faultEvents_map]

theorem Draft.finish_of_declaresNothing (nothing : DeclaresNothing source.text)
    (entry : EntryMarker.find? source.text = none) (plain : Marker.isReturn source.text = false)
    (hint : Marker.hasOutputHint source.text = false) (job : Job) {draft : Draft}
    (unexpanded : draft.accessors = []) :
    draft.finish job source =
      { state := draft.state, lines := [Lowering.lower draft.line]
        events := draft.events ++ faultsOf source .resource ++ faultsOf source .shared } := by
  have shared : faultsOf source .shared = faultEvents source (Shared.read source.text) :=
    faultEvents_map source Declared.shared _
  rw [finish, declare_eq, written_of_declaresNothing nothing, expansion?_of_declaresNothing nothing,
    resourceEvents_of_declaresNothing nothing, ← shared]
  simp [enter, entry, plain, hideHint, hint, emit, unexpanded]

/-- A line on which nothing is declared, closed, entered, returned or hinted at is lowered and
handed on. -/
theorem step_of_declaresNothing (nothing : DeclaresNothing source.text)
    (statement : Marker.isDirective source.text = false)
    (unclosed : Marker.closesStruct source.text = false)
    (entry : EntryMarker.find? source.text = none) (plain : Marker.isReturn source.text = false)
    (hint : Marker.hasOutputHint source.text = false) (job : Job) (state : State) :
    step job state source =
      { state, lines := [Lowering.lower source.text],
        events := passingFaults state.mode source } := by
  have kept : fate job state.mode source.text = .kept := by
    simp [fate, statement, unclosed, dropsMember_of_declaresNothing nothing]
  rw [step_eq, kept]
  dsimp only
  rw [blockDraft_of_declaresNothing nothing,
    Draft.finish_of_declaresNothing nothing entry plain hint job rfl]
  rfl

theorem faultsOf_of_refused {kind : Kind} {fault : Malformed}
    (refused : kind.readAs source.text = some (.error fault)) (other : Kind) :
    faultsOf source other = if other = kind then [.malformed fault source.number source.file]
      else [] := by
  split
  · next same => rw [same, faultsOf, refused, faultEvents]
  · next different =>
    rw [faultsOf, Kind.readAs_eq_none refused (Ne.symm different)]
    rfl

theorem passingFaults_of_refused {kind : Kind} {fault : Malformed} {mode : BlockMode}
    (refused : kind.readAs source.text = some (.error fault))
    (within : kind = .field → mode.isInside = true) :
    passingFaults mode source = [.malformed fault source.number source.file] := by
  simp only [passingFaults, faultsOf_of_refused refused]
  cases kind with
  | field => simp [within rfl]
  | struct | resource | shared => simp

end Step

/-- A macro with a wrong number of arguments, on a line that ends no block and has neither an entry
point nor an output hint, leaves the state as it is: the line is lowered and handed on, the one
warning names its number and file, and the lines behind it are compiled as if it were not there. -/
theorem refused_macro_passes (job : Job) (state : State) (source : NumberedLine) {kind : Kind}
    {fault : Malformed} (refused : kind.readAs source.text = some (.error fault))
    (within : kind = .field → state.mode.isInside = true)
    (unclosed : contains "\x7d;" source.text = false)
    (unmarked : contains "_MAIN(" source.text = false)
    (unhinted : contains "SET_OUTPUT_FORMAT(" source.text = false) :
    let event : Event := .malformed fault source.number source.file
    event.level = .warn ∧
      event.details =
        [("line".toList, .number source.number), ("file".toList, .number source.file)] ∧
      step job state source = { state, lines := [Lowering.lower source.text], events := [event] } ∧
      ∀ rest, run job state (source :: rest) =
        { state := (run job state rest).state
          lines := Lowering.lower source.text :: (run job state rest).lines
          events := event :: (run job state rest).events } := by
  intro event
  have found : kind.read kind.build source.text = some (.error fault) := by
    rw [← kind.readAs_eq, refused]
  have passes : step job state source =
      { state, lines := [Lowering.lower source.text], events := [event] } := by
    rw [step_of_declaresNothing (declaresNothing_of_refused refused)
        (Kind.isDirective_of_read found) unclosed (EntryMarker.find?_eq_none unmarked)
        (Kind.isReturn_of_read found) unhinted job state,
      passingFaults_of_refused refused within]
  refine ⟨rfl, rfl, passes, ?_⟩
  intro rest
  rw [run, passes]
  rfl

/-- A member with too many arguments inside a block, and a resource with too few. -/
theorem refused_macro_passes_pair :
    let job : Job :=
      { shader := { name := "Pair", stage := .comp }, binary := { filename := "pair.comp" },
        options := {} }
    let state : State := { mode := .inside "Light" true }
    let member : NumberedLine := ⟨0, 7, "  DATA(float4, a[2], None, float2(1));"⟩
    let resource : NumberedLine := ⟨2, 8, "RES(Buffer(float4), Buf); // RETURN"⟩
    Declaration.Kind.field.readAs member.text = some (.error ⟨.field, 4⟩) ∧
      step job state member =
        { state, lines := ["  DATA(float<4>, a[2], None, make_float2(1));"]
          events := [.malformed ⟨.field, 4⟩ 7 0] } ∧
      Declaration.Kind.resource.readAs resource.text = some (.error ⟨.resource, 2⟩) ∧
      (run job state [resource, ⟨2, 9, "\x7d;"⟩]).state = { mode := .outside } := by
  intro job state member resource
  have four : Declaration.Kind.field.args? member.text =
      some (["float4", "a[2]", "None", "float2(1)"] : List Text) := by
    decide +kernel
  have two : Declaration.Kind.resource.args? resource.text =
      some (["Buffer(float4)", "Buf"] : List Text) := by
    decide +kernel
  have first : Declaration.Kind.field.readAs member.text = some (.error ⟨.field, 4⟩) := by
    rw [Kind.readAs_eq]
    exact Kind.read_eq_error four (by decide)
  have second : Declaration.Kind.resource.readAs resource.text = some (.error ⟨.resource, 2⟩) := by
    rw [Kind.readAs_eq]
    exact Kind.read_eq_error two (by decide)
  obtain ⟨-, -, passes, -⟩ :=
    refused_macro_passes job state member first (fun _ => rfl) (by decide +kernel)
    (by decide +kernel) (by decide +kernel)
  obtain ⟨-, -, -, rest⟩ := refused_macro_passes job state resource second
    (fun same => absurd same (by decide)) (by decide +kernel) (by decide +kernel)
      (by decide +kernel)
  have line : Lowering.lower member.text = "  DATA(float<4>, a[2], None, make_float2(1));" := by
    decide +kernel
  rw [line] at passes
  refine ⟨first, passes, second, ?_⟩
  rw [rest]
  decide +kernel

end Compilation

end IspcShader
