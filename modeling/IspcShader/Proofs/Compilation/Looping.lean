import IspcShader.Compilation.Basic
import IspcShader.Proofs.Compilation.Output
import IspcShader.Proofs.Declaration.Reading
import IspcShader.Proofs.Text.SearchLoop

/-!
Compiling with the searches run as loops. Two searches go on from occurrence to occurrence: the one
for the call of a macro, and the one for a builtin parameter of the entry point. A compilation that
makes them as loops has the result of `compile`, provided that all of them end. Macros have names,
so only a builtin parameter without a type can keep a compilation from ending.
-/
namespace IspcShader

open Text

namespace Macro.Invocation

/-- The search for a call. It ends at the first call site, also if the brackets do not close
there. -/
def searchLoop (name : Text) : SearchLoop Invocation where
  needle := name
  verdict? site := if isCallSite site then some (read? name site) else none

theorem resultOf_searchLoop (name : Text) (sites : List Occurrence) :
    (searchLoop name).resultOf sites = (sites.find? isCallSite).bind (read? name) := by
  induction sites with
  | nil => rfl
  | cons site rest ih =>
    rw [SearchLoop.resultOf_cons, List.find?_cons, ih]
    cases call : isCallSite site <;> simp [searchLoop, call]

theorem run_searchLoop (text name : Text) :
    (searchLoop name).run text = provided ((searchLoop name).Ends text) (find? text name) := by
  rw [SearchLoop.run_eq, resultOf_searchLoop]
  rfl

theorem verdict?_searchLoop_nil (text : Text) :
    (searchLoop []).verdict? ⟨[], text⟩ = none ↔ startsWith "(" text = false := by
  have site : isCallSite ⟨[], text⟩ = startsWith "(" text := rfl
  change (if isCallSite ⟨[], text⟩ then some (read? [] ⟨[], text⟩) else none) = none ↔ _
  rw [site]
  cases startsWith "(" text <;> simp

end Macro.Invocation

namespace Parameter

/-- The search for a builtin parameter. It ends where the variable follows the type. -/
def searchLoop (param : Parameter) : SearchLoop (Text × Text) where
  needle := param.type
  verdict? found := (restAfterVar? param.var found.after).map fun rest => some (found.before, rest)

theorem resultOf_searchLoop (param : Parameter) (sites : List Occurrence) :
    param.searchLoop.resultOf sites = sites.findSome? fun found =>
      (restAfterVar? param.var found.after).map fun rest => (found.before, rest) := by
  induction sites with
  | nil => rfl
  | cons found rest ih =>
    rw [SearchLoop.resultOf_cons, List.findSome?_cons, ih]
    cases follows : restAfterVar? param.var found.after <;> simp [searchLoop, follows]

theorem run_searchLoop (param : Parameter) (params : Text) :
    param.searchLoop.run params =
      provided (param.searchLoop.Ends params) (param.locate? params) := by
  rw [SearchLoop.run_eq, resultOf_searchLoop]
  rfl

end Parameter

namespace Looping

open Compilation Declaration

section Rules

def args (kind : Kind) (line : Text) : Part (Option (List Text)) :=
  let line := trimStart line
  if startsWith (kind.keyword ++ "(") line then
    ((Macro.Invocation.searchLoop kind.keyword).run line).map (Option.map Macro.Invocation.args)
  else return none

def read {α : Type} (kind : Kind) (build : List Text → Option α) (line : Text) :
    Part (Option (Except Malformed α)) :=
  (args kind line).map (Option.map (kind.check build))

/-- The keyword of a macro is never empty, so its search ends on every line. -/
theorem args_eq (kind : Kind) (line : Text) : args kind line = Part.some (kind.args? line) := by
  have ends (text : Text) : (Macro.Invocation.searchLoop kind.keyword).Ends text :=
    SearchLoop.ends_of_ne_nil kind.keyword_ne_nil text
  simp only [args, Kind.args?]
  split
  · rw [Macro.Invocation.run_searchLoop, provided_of (ends _), Part.map_some]
  · rfl

theorem read_eq {α : Type} (kind : Kind) (build : List Text → Option α) (line : Text) :
    read kind build line = Part.some (kind.read build line) := by
  rw [read, args_eq, Part.map_some]
  rfl

variable (job : Job) (source : NumberedLine) (draft : Draft)

-- The rules of `Draft`, where the macro is read by the loop.

def openStruct : Part Draft :=
  (read .struct Struct.ofArgs? source.text).map fun read => draft.openStruct job source read

def member : Part (Option Draft) :=
  (read .field Field.ofArgs? source.text).map fun read => draft.member? job source read

def declareResource : Part Draft :=
  (read .resource Declaration.Resource.ofArgs? source.text).map fun read =>
    draft.declareResource job source read

def declareShared : Part Draft :=
  (read .shared Shared.ofArgs? source.text).map fun read => draft.declareShared source read

theorem openStruct_eq : openStruct job source draft = Part.some (draft.openStruct job source) := by
  rw [openStruct, read_eq, Part.map_some]
  rfl

theorem member_eq : member job source draft = Part.some (draft.member? job source) := by
  rw [member, read_eq, Part.map_some]
  rfl

theorem declareResource_eq :
    declareResource job source draft = Part.some (draft.declareResource job source) := by
  rw [declareResource, read_eq, Part.map_some]
  rfl

theorem declareShared_eq : declareShared source draft = Part.some (draft.declareShared source) := by
  rw [declareShared, read_eq, Part.map_some]
  rfl

end Rules

section Builtins

variable (entryLine : Text) (number : Nat)

def visit (scan : BuiltinScan) (param : Parameter) : Part BuiltinScan :=
  (param.searchLoop.run scan.params).map fun found => scan.record entryLine number param found

/-- The searches for all builtin parameters end, each in the text that those before it have left. -/
def VisitsEnd : BuiltinScan → List Parameter → Prop
  | _, [] => True
  | scan, param :: rest =>
    param.searchLoop.Ends scan.params ∧ VisitsEnd (scan.visit entryLine number param) rest

theorem visit_eq (scan : BuiltinScan) (param : Parameter) :
    visit entryLine number scan param =
      provided (param.searchLoop.Ends scan.params) (scan.visit entryLine number param) := by
  rw [visit, Parameter.run_searchLoop, map_provided]
  rfl

theorem foldlM_visit_eq (scan : BuiltinScan) (builtins : List Parameter) :
    builtins.foldlM (visit entryLine number) scan =
      provided (VisitsEnd entryLine number scan builtins)
        (builtins.foldl (BuiltinScan.visit entryLine number) scan) := by
  induction builtins generalizing scan with
  | nil => exact (provided_of trivial).symm
  | cons param rest ih =>
    simp only [List.foldlM_cons, visit_eq, ih, Part.bind_eq_bind, bind_provided]
    rfl

theorem visitsEnd_of_typed (scan : BuiltinScan) {builtins : List Parameter}
    (typed : ∀ param ∈ builtins, param.type ≠ []) : VisitsEnd entryLine number scan builtins := by
  induction builtins generalizing scan with
  | nil => trivial
  | cons param rest ih =>
    obtain ⟨first, others⟩ := List.forall_mem_cons.mp typed
    exact ⟨SearchLoop.ends_of_ne_nil first scan.params, ih _ others⟩

end Builtins

section Entry

def ofMarker (marker : EntryMarker) (number : Nat) (shader : Shader) (resources : List Resource)
    (suffix : Option Text) (policy : ResourcePolicy) : Part (EntryPoint × List Event) :=
  (shader.builtinParams.foldlM (visit marker.line number)
    { params := EntryPoint.unwrapStructs shader.structParams marker.params }).map
      (EntryPoint.ofScan marker number resources suffix policy)

/-- Nothing is searched for unless the first entry point is on the line. -/
def enter (job : Job) (source : NumberedLine) (draft : Draft) : Part Draft :=
  match EntryMarker.find? source.text, draft.state.entry with
  | some marker, none =>
    (ofMarker marker source.number job.shader draft.state.resources job.mangle?
      job.options.policy).map fun lowered => draft.enter job source fun _ _ => lowered
  | _, _ => return draft.enter job source

def EntryEnds (shader : Shader) (source : NumberedLine) (entry : Option EntryPoint) : Prop :=
  ∀ marker, EntryMarker.find? source.text = some marker → entry = none →
    VisitsEnd marker.line source.number
      { params := EntryPoint.unwrapStructs shader.structParams marker.params } shader.builtinParams

theorem enter_eq (job : Job) (source : NumberedLine) (draft : Draft) :
    enter job source draft =
      provided (EntryEnds job.shader source draft.state.entry) (draft.enter job source) := by
  unfold enter EntryEnds Draft.enter
  cases EntryMarker.find? source.text with
  | none => exact (provided_of (by simp)).symm
  | some marker =>
    cases draft.state.entry with
    | some entry => exact (provided_of (by simp)).symm
    | none =>
      simp only [ofMarker, foldlM_visit_eq, map_provided]
      exact provided_congr (by simp)

end Entry

section Lines

def finish (job : Job) (source : NumberedLine) (draft : Draft) : Part Outcome := do
  let draft ← declareResource job source draft
  let draft ← declareShared source draft
  let draft ← enter job source draft
  return draft.hideHint source |>.emit source

def step (job : Job) (state : State) (source : NumberedLine) : Part Outcome :=
  if Marker.isDirective source.text then return { state }
  else do
    let draft ← openStruct job source { state, line := source.text }
    let member? ← member job source draft
    draft.passBlock source member? pure (finish job source)

def run (job : Job) (state : State) : List NumberedLine → Part Outcome
  | [] => return { state }
  | source :: rest => do
    let first ← step job state source
    let others ← run job first.state rest
    return {
      state := others.state
      lines := first.lines ++ others.lines
      events := first.events ++ others.events }

def compile (job : Job) (header : Header) : Part Compiled :=
  (run job {} job.shader.lines).map (.ofBody job header)

/-- Only on a kept line is an entry point entered. -/
def LineEnds (job : Job) (state : State) (source : NumberedLine) : Prop :=
  fate job state.mode source.text = .kept → EntryEnds job.shader source state.entry

def LinesEnd (job : Job) : State → List NumberedLine → Prop
  | _, [] => True
  | state, source :: rest =>
    LineEnds job state source ∧ LinesEnd job (Compilation.step job state source).state rest

variable (job : Job)

theorem finish_eq (source : NumberedLine) (draft : Draft) :
    finish job source draft =
      provided (EntryEnds job.shader source draft.state.entry) (draft.finish job source) := by
  have entry : (Draft.declareShared source (draft.declareResource job source)).state.entry =
      draft.state.entry := by
    rw [Draft.declareShared_state, Draft.declareResource_state]
  simp only [finish, declareResource_eq, declareShared_eq, enter_eq, entry, Part.bind_eq_bind,
    Part.bind_some, Part.pure_eq_some, Part.bind_some_eq_map, map_provided]
  rfl

theorem step_eq (state : State) (source : NumberedLine) :
    step job state source =
      provided (LineEnds job state source) (Compilation.step job state source) := by
  rw [Compilation.step_eq, step, LineEnds]
  cases directive : Marker.isDirective source.text with
  | true =>
    simp only [fate, directive, if_true, openedMode_of_isDirective directive]
    exact (provided_of (absurd · (by decide))).symm
  | false =>
    simp only [Bool.false_eq_true, if_false, openStruct_eq, member_eq, Part.bind_eq_bind,
      Part.bind_some, passBlock_eq job state directive]
    cases fate job state.mode source.text with
    | dropped => exact (provided_of (absurd · (by decide))).symm
    | closing => exact (provided_of (absurd · (by decide))).symm
    | kept =>
      dsimp only
      rw [finish_eq]
      exact provided_congr (by simp [blockDraft])

theorem run_eq (state : State) (lines : List NumberedLine) :
    run job state lines =
      provided (LinesEnd job state lines) (Compilation.run job state lines) := by
  induction lines generalizing state with
  | nil => exact (provided_of trivial).symm
  | cons source rest ih =>
    simp only [run, step_eq, ih, Part.bind_eq_bind, Part.pure_eq_some,
      Part.bind_some_eq_map, map_provided, bind_provided]
    rfl

theorem compile_eq (header : Header) :
    compile job header =
      provided (LinesEnd job {} job.shader.lines) (IspcShader.compile job header) := by
  simp only [compile, run_eq, map_provided]
  rfl

theorem linesEnd_of_typed (typed : ∀ param ∈ job.shader.builtinParams, param.type ≠ [])
    (state : State) (lines : List NumberedLine) : LinesEnd job state lines := by
  induction lines generalizing state with
  | nil => trivial
  | cons source rest ih =>
    refine ⟨?_, ih _⟩
    intro _ marker _ _
    exact visitsEnd_of_typed _ _ _ typed

theorem compile_of_typed (typed : ∀ param ∈ job.shader.builtinParams, param.type ≠ [])
    (header : Header) : compile job header = Part.some (IspcShader.compile job header) := by
  rw [compile_eq, provided_of (linesEnd_of_typed job typed _ _)]

end Lines

end Looping

end IspcShader
