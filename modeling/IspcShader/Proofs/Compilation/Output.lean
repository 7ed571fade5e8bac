import IspcShader.Proofs.Compilation.Rules
import IspcShader.Proofs.EntryPoint.Marker

/-!
What one line gives out. The rules of struct blocks leave a draft that is known from the line and
the mode alone; from there the line ends a block, or goes through the rules behind, each of which
adds its events and may put its own text in place of the line.
-/
namespace IspcShader

open Text

namespace Compilation

def faultEvents {α : Type} (source : NumberedLine) :
    Option (Except Declaration.Malformed α) → List Event
  | some (.error fault) => [.malformed fault source.number source.file]
  | _ => []

def openedLine (line : Text) : Text :=
  match Declaration.Struct.read line with
  | some (.ok declaration) => declaration.openingLine line
  | _ => line

def memberLine (job : Job) (mode : BlockMode) (line before : Text) : Text :=
  match Declaration.Field.read line with
  | some (.ok field) =>
    (field.memberLine? (leadingBlanks line) mode.ignoresSemantics job.binary.capabilities).getD
      before
  | _ => before

/-- The draft of a line that the rules of struct blocks have passed and not dropped. -/
def blockDraft (job : Job) (state : State) (source : NumberedLine) : Draft :=
  let mode := openedMode job state.mode source.text
  { state := { state with mode }
    line :=
      if mode.isInside then memberLine job mode source.text (openedLine source.text)
      else openedLine source.text
    events := faultEvents source (Declaration.Struct.read source.text) ++
      if mode.isInside then faultEvents source (Declaration.Field.read source.text) else [] }

def expansion? (job : Job) (line : Text) : Option Expansion :=
  match Declaration.Resource.read line with
  | some (.ok declaration) =>
    some (.ofResource (.ofDeclaration declaration) line job.options.policy)
  | _ =>
    match Declaration.Shared.read line with
    | some (.ok declaration) => some (.ofShared declaration)
    | _ => none

def resourceEvents (source : NumberedLine) : List Event :=
  match Declaration.Resource.read source.text with
  | some (.ok declaration) =>
    let resource := Resource.ofDeclaration declaration
    [.resourceFound source.number resource.name resource.declaredType resource.isReadonly]
  | read => faultEvents source read

def enteringEvents (job : Job) (source : NumberedLine) (entry : Option EntryPoint)
    (resources : List Resource) : List Event :=
  match EntryMarker.find? source.text, entry with
  | none, _ => []
  | some marker, some _ => [.secondEntry marker.name source.number]
  | some marker, none =>
    (EntryPoint.ofMarker marker source.number job.shader resources job.mangle? job.options.policy).2

def enteredLine (job : Job) (source : NumberedLine) (state : State) (before : Text) : Text :=
  match entered job source state.resources, state.entry with
  | some entry, none => entry.line
  | some _, some _ => before
  | none, _ =>
    if Marker.isReturn source.text then Draft.returnLine job.shader source.text else before

/-- The text that a kept line is handed out as, up to its lowering. -/
def keptLine (job : Job) (source : NumberedLine) (draft : Draft) : Text :=
  let state := { draft.state with resources := draft.state.resources ++ written source.text }
  let line := enteredLine job source state
    (((expansion? job source.text).map Expansion.declaration).getD draft.line)
  if Marker.hasOutputHint source.text then "//" ++ line else line

theorem keptLine_of_unmarked {source : NumberedLine} (entry : EntryMarker.find? source.text = none)
    (plain : Marker.isReturn source.text = false) (hint : Marker.hasOutputHint source.text = false)
    (job : Job) (draft : Draft) :
    keptLine job source draft =
      ((expansion? job source.text).map Expansion.declaration).getD draft.line := by
  simp only [keptLine, enteredLine, entered, entry, plain, hint, Option.map_none,
    Bool.false_eq_true, if_false]

namespace Draft

variable (job : Job) (source : NumberedLine) (draft : Draft)

theorem openStruct_eq (state : State) :
    openStruct job source { state, line := source.text } =
      { state := { state with mode := openedMode job state.mode source.text }
        line := openedLine source.text
        events := faultEvents source (Declaration.Struct.read source.text) } := by
  rcases read : Declaration.Struct.read source.text with _ | (fault | declaration) <;>
    simp only [openStruct, openedMode, openedLine, faultEvents, read, warn, List.nil_append]

theorem member?_eq (stays : dropsMember draft.state.mode source.text = false) :
    draft.member? job source =
      some { draft with
        line := memberLine job draft.state.mode source.text draft.line
        events := draft.events ++ faultEvents source (Declaration.Field.read source.text) } := by
  rcases read : Declaration.Field.read source.text with _ | (fault | field)
  · simp only [member?, memberLine, faultEvents, read, List.append_nil]
  · simp only [member?, memberLine, faultEvents, read, warn]
  · have drops := memberLine?_eq_none_iff field (leadingBlanks source.text)
      draft.state.mode.ignoresSemantics job.binary.capabilities
    simp only [dropsMember, read] at stays
    rw [stays] at drops
    obtain ⟨member, shape⟩ := Option.ne_none_iff_exists'.mp fun gone =>
      Bool.false_ne_true (drops.mp gone)
    simp only [member?, memberLine, faultEvents, read, shape, Option.map_some, Option.getD_some,
      List.append_nil]

theorem declare_eq :
    (draft.declareResource job source).declareShared source =
      { state := { draft.state with resources := draft.state.resources ++ written source.text }
        line := ((expansion? job source.text).map Expansion.declaration).getD draft.line
        accessors := draft.accessors ++ ((expansion? job source.text).map Expansion.accessor).toList
        events := draft.events ++ resourceEvents source ++
          faultEvents source (Declaration.Shared.read source.text) } := by
  rcases resource : Declaration.Resource.read source.text with _ | (fault | declaration)
  · rcases shared : Declaration.Shared.read source.text with _ | (fault | declaration) <;>
      simp [declareResource, declareShared, expansion?, resourceEvents, faultEvents,
        written, resource, shared, warn, expand]
  all_goals
    have shared : Declaration.Shared.read source.text = none :=
      Declaration.Kind.read_eq_none_of_read resource (by decide)
    simp [declareResource, declareShared, expansion?, resourceEvents, faultEvents,
      written, resource, shared, warn, expand]

theorem enter_eq :
    draft.enter job source =
      { draft with
        state := (draft.enter job source).state
        line := enteredLine job source draft.state draft.line
        events := draft.events ++
          enteringEvents job source draft.state.entry draft.state.resources } := by
  cases found : EntryMarker.find? source.text with
  | none =>
    by_cases returns : Marker.isReturn source.text = true <;>
      simp [enter, enteredLine, entered, enteringEvents, found, returns]
  | some marker =>
    cases entry : draft.state.entry <;>
      simp [enter, enteredLine, entered, enteringEvents, found, entry]

/-- A kept line is handed out behind its accessor and in front of its origin, where it has an
accessor. -/
theorem finish_lines (new : draft.accessors = []) :
    (draft.finish job source).lines =
      match expansion? job source.text with
      | some expansion =>
        [expansion.accessor, Lowering.lower (keptLine job source draft), originComment source]
      | none => [Lowering.lower (keptLine job source draft)] := by
  rw [finish, declare_eq, enter_eq]
  by_cases hint : Marker.hasOutputHint source.text = true <;>
    cases declared : expansion? job source.text <;>
      simp [emit, hideHint, keptLine, new, hint, declared]

theorem finish_events :
    (draft.finish job source).events =
      draft.events ++ resourceEvents source ++
        faultEvents source (Declaration.Shared.read source.text) ++
        enteringEvents job source draft.state.entry
          (draft.state.resources ++ written source.text) := by
  rw [finish, declare_eq, enter_eq]
  by_cases hint : Marker.hasOutputHint source.text = true <;> simp [emit, hideHint, hint]

end Draft

/-- A member declares no struct, so nothing is reported where it is dropped. -/
theorem faultEvents_of_dropsMember {mode : BlockMode} {source : NumberedLine}
    (drops : dropsMember mode source.text = true) :
    faultEvents source (Declaration.Struct.read source.text) = [] := by
  unfold dropsMember at drops
  split at drops
  · next field read =>
    have unread : Declaration.Struct.read source.text = none :=
      Declaration.Kind.read_eq_none_of_read read (by decide)
    rw [unread, faultEvents]
    exact fun fault h => nomatch h
  · cases drops

theorem passBlock_eq {α : Type} (job : Job) (state : State) {source : NumberedLine}
    (statement : Marker.isDirective source.text = false) (done : Outcome → α) (goOn : Draft → α) :
    let draft := Draft.openStruct job source { state, line := source.text }
    draft.passBlock source (draft.member? job source) done goOn =
      match fate job state.mode source.text with
      | .dropped => done { state := { state with mode := openedMode job state.mode source.text } }
      | .closing => done ((blockDraft job state source).close source)
      | .kept => goOn (blockDraft job state source) := by
  intro draft
  dsimp only [draft]
  unfold Draft.passBlock fate blockDraft
  simp only [statement, Bool.false_eq_true, if_false, Draft.openStruct_eq]
  by_cases inside : (openedMode job state.mode source.text).isInside = true
  · simp only [inside, if_true]
    cases drops : dropsMember (openedMode job state.mode source.text) source.text with
    | true =>
      rw [(Draft.member?_eq_none_iff job source _).mpr drops, faultEvents_of_dropsMember drops]
      rfl
    | false =>
      rw [Draft.member?_eq job source _ drops]
      by_cases closes : Marker.closesStruct source.text = true
      · simp only [closes, if_true, Bool.false_eq_true, if_false]
      · simp only [closes, Bool.false_eq_true, if_false]
  · simp only [inside, Bool.false_eq_true, if_false, List.append_nil]

/-- Everything that a line does, by its fate. -/
theorem step_eq (job : Job) (state : State) (source : NumberedLine) :
    step job state source =
      match fate job state.mode source.text with
      | .dropped => { state := { state with mode := openedMode job state.mode source.text } }
      | .closing => (blockDraft job state source).close source
      | .kept => (blockDraft job state source).finish job source := by
  unfold step
  cases directive : Marker.isDirective source.text with
  | true => simp only [fate, directive, if_true, openedMode_of_isDirective directive]
  | false =>
    rw [if_neg Bool.false_ne_true]
    exact passBlock_eq job state directive id _

/-- The state behind a line: only a kept one adds to the resources or enters the entry point. -/
theorem step_state (job : Job) (state : State) (source : NumberedLine) :
    (step job state source).state =
      match fate job state.mode source.text with
      | .dropped => { state with mode := openedMode job state.mode source.text }
      | .closing => { state with mode := .outside }
      | .kept =>
        { mode := openedMode job state.mode source.text
          resources := state.resources ++ written source.text
          entry :=
            state.entry.or (entered job source (state.resources ++ written source.text)) } := by
  rw [step_eq]
  cases fate job state.mode source.text with
  | dropped => rfl
  | closing => rfl
  | kept => exact Draft.finish_state job source _

end Compilation

end IspcShader
