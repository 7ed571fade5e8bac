import IspcShader.Compilation.Step
import IspcShader.Proofs.Text.Search

/-!
What one line does to the state of a compilation. A line is dropped, closes a struct or comes to the
rules behind those of struct blocks, and only there are resources taken up and the entry point
entered.
-/
namespace IspcShader

open Text

namespace Declaration.Kind

/-- The macros are told apart by the first letter of their names. -/
theorem eq_of_head?_eq {a b : Kind} (same : a.keyword.head? = b.keyword.head?) : a = b := by
  cases a <;> cases b <;> revert same <;> decide

theorem exists_rest_of_args? {kind : Kind} {line : Text} {args : List Text}
    (h : kind.args? line = some args) : ∃ rest, trimStart line = kind.keyword ++ '(' :: rest := by
  simp only [args?] at h
  split at h
  · next starts =>
    obtain ⟨rest, joined⟩ := List.isPrefixOf_iff_prefix.mp starts
    refine ⟨rest, ?_⟩
    rw [← joined]
    simp
  · cases h

theorem head?_of_args? {kind : Kind} {line : Text} {args : List Text}
    (h : kind.args? line = some args) : (trimStart line).head? = kind.keyword.head? := by
  obtain ⟨rest, starts⟩ := exists_rest_of_args? h
  rw [starts]
  cases kind <;> rfl

/-- A line invokes one declaring macro at most. -/
theorem eq_of_args? {a b : Kind} {line : Text} {as bs : List Text} (ha : a.args? line = some as)
    (hb : b.args? line = some bs) : a = b :=
  eq_of_head?_eq ((head?_of_args? ha).symm.trans (head?_of_args? hb))

theorem args?_of_isDirective {line : Text} (directive : Marker.isDirective line = true)
    (kind : Kind) : kind.args? line = none := by
  cases found : kind.args? line with
  | none => rfl
  | some args =>
    have head := head?_of_args? found
    unfold Marker.isDirective at directive
    split at directive
    · have solid : isBlank '#' = false := by decide
      have hash : some '#' = kind.keyword.head? := by simpa [trimStart, solid] using head
      cases kind <;> exact absurd hash (by decide)
    · cases directive

variable {α : Type} {build : List Text → Option α}

theorem read_eq_none {kind : Kind} {line : Text} (h : kind.args? line = none) :
    kind.read build line = none := by
  rw [read, h, Option.map_none]

theorem exists_args?_of_read {kind : Kind} {line : Text} {result : Except Malformed α}
    (h : kind.read build line = some result) : ∃ args, kind.args? line = some args := by
  obtain ⟨args, found, -⟩ := Option.map_eq_some_iff.mp h
  exact ⟨args, found⟩

theorem read_eq_none_of_read {β : Type} {build' : List Text → Option β} {a b : Kind} {line : Text}
    {result : Except Malformed α} (h : a.read build line = some result) (different : a ≠ b) :
    b.read build' line = none := by
  obtain ⟨args, found⟩ := exists_args?_of_read h
  apply read_eq_none
  cases other : b.args? line with
  | none => rfl
  | some args' => exact absurd (eq_of_args? found other) different

theorem isDirective_of_read {kind : Kind} {line : Text} {result : Except Malformed α}
    (found : kind.read build line = some result) :
    Marker.isDirective line = false := by
  rw [Bool.eq_false_iff]
  intro directive
  rw [read_eq_none (args?_of_isDirective directive kind)] at found
  cases found

theorem isReturn_of_read {kind : Kind} {line : Text} {result : Except Malformed α}
    (found : kind.read build line = some result) : Marker.isReturn line = false := by
  obtain ⟨args, called⟩ := exists_args?_of_read found
  obtain ⟨rest, starts⟩ := exists_rest_of_args? called
  rw [Marker.isReturn, starts]
  cases kind <;> rfl

end Declaration.Kind

namespace Compilation

/-- The block mode behind the line's own `STRUCT`. -/
def openedMode (job : Job) (mode : BlockMode) (line : Text) : BlockMode :=
  match Declaration.Struct.read line with
  | some (.ok declaration) => .inside declaration.name (!job.shader.isInterface declaration.name)
  | _ => mode

def dropsMember (mode : BlockMode) (line : Text) : Bool :=
  match Declaration.Field.read line with
  | some (.ok field) => field.semantic.isSome && !mode.ignoresSemantics
  | _ => false

/-- The resource that a line declares by itself, as a list of one or none. -/
def written (line : Text) : List Resource :=
  match Declaration.Resource.read line with
  | some (.ok declaration) => [Resource.ofDeclaration declaration]
  | _ => []

def entered (job : Job) (source : NumberedLine) (resources : List Resource) : Option EntryPoint :=
  (EntryMarker.find? source.text).map fun marker =>
    (EntryPoint.ofMarker marker source.number job.shader resources job.mangle? job.options.policy).1

inductive Fate where
  | dropped
  | closing
  | kept
  deriving DecidableEq, Repr

def fate (job : Job) (mode : BlockMode) (line : Text) : Fate :=
  if Marker.isDirective line then .dropped
  else if (openedMode job mode line).isInside then
    if dropsMember (openedMode job mode line) line then .dropped
    else if Marker.closesStruct line then .closing
    else .kept
  else .kept

theorem memberLine?_eq_none_iff (field : Declaration.Field) (indent : Text) (ignores : Bool)
    (capabilities : Capabilities) :
    field.memberLine? indent ignores capabilities = none ↔
      (field.semantic.isSome && !ignores) = true := by
  unfold Declaration.Field.memberLine?
  by_cases drops : (field.semantic.isSome && !ignores) = true
  · rw [if_pos drops]
    exact iff_of_true rfl drops
  · rw [if_neg drops]
    exact iff_of_false (Option.some_ne_none _) drops

namespace Draft

variable (job : Job) (source : NumberedLine) (draft : Draft)

theorem openStruct_state : (openStruct job source draft).state =
    { draft.state with mode := openedMode job draft.state.mode source.text } := by
  rcases read : Declaration.Struct.read source.text with _ | (fault | declaration) <;>
    simp only [openStruct, openedMode, read, warn]

theorem member?_eq_none_iff :
    draft.member? job source = none ↔ dropsMember draft.state.mode source.text = true := by
  rcases read : Declaration.Field.read source.text with _ | (fault | field)
  · simp [member?, dropsMember, read]
  · simp [member?, dropsMember, read]
  · simp only [member?, dropsMember, read, Option.map_eq_none_iff]
    exact memberLine?_eq_none_iff field _ _ _

theorem declareResource_state : (declareResource job source draft).state =
    { draft.state with resources := draft.state.resources ++ written source.text } := by
  rcases read : Declaration.Resource.read source.text with _ | (fault | declaration) <;>
    simp only [declareResource, written, read, warn, List.append_nil]

theorem declareShared_state : (declareShared source draft).state = draft.state := by
  unfold declareShared
  split <;> rfl

theorem enter_state : (enter job source draft).state =
    { draft.state with
      entry := draft.state.entry.or (entered job source draft.state.resources) } := by
  unfold enter entered
  cases found : EntryMarker.find? source.text with
  | none =>
    dsimp only
    split <;> simp
  | some marker =>
    cases before : draft.state.entry with
    | none => rfl
    | some entry =>
      dsimp only
      rw [Option.some_or, ← before]

theorem hideHint_state : (hideHint source draft).state = draft.state := by
  unfold hideHint
  split <;> rfl

/-- The rules for a kept line take up the resource and enter the entry point, in this order. -/
theorem finish_state : (finish job source draft).state =
    { mode := draft.state.mode
      resources := draft.state.resources ++ written source.text
      entry := draft.state.entry.or
        (entered job source (draft.state.resources ++ written source.text)) } := by
  simp only [finish, emit, hideHint_state, enter_state, declareShared_state, declareResource_state]

end Draft

theorem openedMode_of_isDirective {line : Text}
    (directive : Marker.isDirective line = true) (job : Job) (mode : BlockMode) :
    openedMode job mode line = mode := by
  have unread : Declaration.Struct.read line = none :=
    Declaration.Kind.read_eq_none (Declaration.Kind.args?_of_isDirective directive .struct)
  simp only [openedMode, unread]

end Compilation

end IspcShader
