import IspcShader.Proofs.Compilation.Lockstep
import IspcShader.Proofs.Lowering.Append

/-!
What hangs on the resource policy. Whether resources are commented out or become handles at file
scope, the lines are taken up in the same way: the two compilations differ in the lines that declare
resources, where the handle stands in front of the comment, and in the wrapper, which binds the
handles.
-/
namespace IspcShader

open Text

def Job.withPolicy (job : Job) (policy : ResourcePolicy) : Job :=
  { job with options := { job.options with policy } }

/-- Two entry points of which the second binds the handles of some resources, right behind the first
line of its wrapper, and which are the same apart from that. -/
structure EntryPoint.GainsBindings (resources : List Resource)
    (entry bound : EntryPoint) : Prop where
  line : bound.line = entry.line
  mainName : bound.mainName = entry.mainName
  args : bound.args = entry.args
  wrapper : ∃ first others, entry.wrapper = first :: others ∧
    bound.wrapper = first ::
      (resources.map (fun resource =>
        ("    " ++ resource.baseName ++ " = " ++ resource.baseName ++ "_arg;" : Text)) ++ others)

namespace Dispatch

theorem bindingLine_eq (resource : Resource) :
    bindingLine resource = "    " ++ resource.baseName ++ " = " ++ resource.baseName ++ "_arg;" :=
  List.append_assoc _ _ _

theorem wrapper_eq (main : Text) (resources : List Resource) (args : List CoordinateArg)
    (policy : ResourcePolicy) :
    wrapper main resources args policy = signature main resources ::
      (bindings resources policy ++ (coordinateLines ++ args.map argLine ++
        [callLine main resources args, "    \x7d", "\x7d"])) := by
  simp [wrapper]

end Dispatch

namespace Compilation

/-- The blocks that one source line leaves when resources are commented out and when they become
handles, given the resources that it declares. -/
inductive GainsHandle (source : NumberedLine) : List Resource → List Text → List Text → Prop
  | same (block : List Text) : GainsHandle source [] block block
  | declaration {resource : Resource} {accessor comment handle origin : Text}
      (unmarked : contains "_MAIN(" source.text = false →
        contains "SET_OUTPUT_FORMAT(" source.text = false →
          handle = Lowering.lower resource.handle ++ " " ++ comment) :
      GainsHandle source [resource] [accessor, comment, origin] [accessor, handle, origin]

/-- States that differ at most in what their entry point is, if they have one. -/
structure State.Agrees (state other : State) : Prop where
  mode : other.mode = state.mode
  resources : other.resources = state.resources
  entry : other.entry.isSome = state.entry.isSome

theorem none_or_some {entry bound : Option EntryPoint} (both : bound.isSome = entry.isSome) :
    entry = none ∧ bound = none ∨ ∃ first second, entry = some first ∧ bound = some second := by
  cases entry with
  | none => exact .inl ⟨rfl, Option.isNone_iff_eq_none.mp (Option.isSome_eq_false_iff.mp both)⟩
  | some first =>
    obtain ⟨second, rfl⟩ := Option.isSome_iff_exists.mp both
    exact .inr ⟨first, second, rfl, rfl⟩

section Step

variable (job : Job) (p q : ResourcePolicy) {state other : State} (source : NumberedLine)

theorem fate_withPolicy (mode : BlockMode) (line : Text) :
    fate (job.withPolicy p) mode line = fate job mode line := rfl

theorem blockDraft_line_withPolicy (mode : other.mode = state.mode) :
    (blockDraft (job.withPolicy q) other source).line =
      (blockDraft (job.withPolicy p) state source).line := by
  simp only [blockDraft, mode]
  rfl

theorem blockDraft_events_withPolicy (mode : other.mode = state.mode) :
    (blockDraft (job.withPolicy q) other source).events =
      (blockDraft (job.withPolicy p) state source).events := by
  simp only [blockDraft, mode]
  rfl

/-- Of the entry points so far, it only counts whether there is one. -/
theorem enteringEvents_withPolicy {entry bound : Option EntryPoint}
    (both : bound.isSome = entry.isSome) (resources : List Resource) :
    enteringEvents (job.withPolicy q) source bound resources =
      enteringEvents (job.withPolicy p) source entry resources := by
  unfold enteringEvents
  cases EntryMarker.find? source.text with
  | none => rfl
  | some marker =>
    obtain ⟨rfl, rfl⟩ | ⟨entry, bound, rfl, rfl⟩ := none_or_some both
    · rfl
    · rfl

theorem enteredLine_withPolicy (agrees : state.Agrees other) (before : Text) :
    enteredLine (job.withPolicy q) source other before =
      enteredLine (job.withPolicy p) source state before := by
  obtain ⟨-, resources, both⟩ := agrees
  unfold enteredLine entered
  rw [resources]
  cases EntryMarker.find? source.text with
  | none => rfl
  | some marker =>
    obtain ⟨unset, unset'⟩ | ⟨entry, bound, known, given⟩ := none_or_some both
    · rw [unset, unset']
      rfl
    · rw [known, given]
      rfl

theorem lockstep_withPolicy : Lockstep (job.withPolicy p) (job.withPolicy q) State.Agrees := by
  intro state other source agrees
  obtain ⟨mode, resources, entry⟩ := agrees
  constructor
  · rw [step_state, step_state, fate_withPolicy, fate_withPolicy, mode]
    cases fate job state.mode source.text with
    | dropped => exact ⟨rfl, resources, entry⟩
    | closing => exact ⟨rfl, resources, entry⟩
    | kept =>
      refine ⟨rfl, congrArg (· ++ written source.text) resources, ?_⟩
      simp only [entered, Option.isSome_or, Option.isSome_map, entry]
  · rw [step_eq, step_eq, fate_withPolicy, fate_withPolicy, mode]
    cases fate job state.mode source.text with
    | dropped => rfl
    | closing => exact blockDraft_events_withPolicy job p q source mode
    | kept =>
      have taken : (blockDraft (job.withPolicy q) other source).state.resources =
          (blockDraft (job.withPolicy p) state source).state.resources := resources
      have entering := enteringEvents_withPolicy job p q source entry
        ((blockDraft (job.withPolicy p) state source).state.resources ++ written source.text)
      simp only [Draft.finish_events, blockDraft_events_withPolicy job p q source mode, taken]
      exact congrArg _ entering

theorem expansion?_withPolicy {line : Text} (nothing : written line = []) :
    expansion? (job.withPolicy q) line = expansion? (job.withPolicy p) line := by
  unfold expansion?
  rcases read : Declaration.Resource.read line with _ | (fault | declaration)
  · rfl
  · rfl
  · rw [written, read] at nothing
    cases nothing

theorem step_lines_withPolicy (agrees : state.Agrees other) (nothing : written source.text = []) :
    (step (job.withPolicy q) other source).lines =
      (step (job.withPolicy p) state source).lines := by
  have line := blockDraft_line_withPolicy job p q source agrees.mode
  rw [step_eq, step_eq, fate_withPolicy, fate_withPolicy, agrees.mode]
  cases fate job state.mode source.text with
  | dropped => rfl
  | closing => simp only [Draft.close, line]
  | kept =>
    have kept : keptLine (job.withPolicy q) source (blockDraft (job.withPolicy q) other source) =
        keptLine (job.withPolicy p) source (blockDraft (job.withPolicy p) state source) := by
      have taken : State.Agrees
          { (blockDraft (job.withPolicy p) state source).state with
            resources :=
              (blockDraft (job.withPolicy p) state source).state.resources ++ written source.text }
          { (blockDraft (job.withPolicy q) other source).state with
            resources :=
              (blockDraft (job.withPolicy q) other source).state.resources ++
                written source.text } :=
        ⟨congrArg (openedMode job · source.text) agrees.mode,
          congrArg (· ++ written source.text) agrees.resources, agrees.entry⟩
      simp only [keptLine, expansion?_withPolicy job p q nothing, line,
        enteredLine_withPolicy job p q source taken]
    dsimp only
    rw [Draft.finish_lines _ _ _ rfl, Draft.finish_lines _ _ _ rfl, kept,
      expansion?_withPolicy job p q nothing]

/-- Under the two policies a line leaves the same block unless it declares a resource; then the
handle is lowered on its own and put in front of the comment. -/
theorem gainsHandle_step (agrees : state.Agrees other) :
    GainsHandle source (declaredOn state.mode source.text)
      (step (job.withPolicy .comment) state source).lines
      (step (job.withPolicy .alias) other source).lines := by
  rcases written_eq_nil_or_read source.text with nothing | ⟨declaration, read⟩
  · rw [step_lines_withPolicy job .comment .alias source agrees nothing, declaredOn,
      nothing, ite_self]
    exact .same _
  · rw [step_eq, step_eq, fate_withPolicy, fate_withPolicy, agrees.mode,
      fate_of_read read, declaredOn]
    cases state.mode.isInside && Marker.closesStruct source.text with
    | true =>
      -- the end of a struct is handed on before any declaration is looked for
      have line := blockDraft_line_withPolicy job .comment .alias source agrees.mode
      simp only [if_true, Draft.close, line]
      exact .same _
    | false =>
      simp only [Bool.false_eq_true, if_false, written, read]
      rw [Draft.finish_lines _ _ _ rfl, Draft.finish_lines _ _ _ rfl, expansion?, expansion?, read]
      refine .declaration ?_
      intro entry hint
      have plain := Declaration.Kind.isReturn_of_read read
      have remark : keptLine (job.withPolicy .comment) source
          (blockDraft (job.withPolicy .comment) state source) = "// " ++ trimStart source.text := by
        rw [keptLine_of_unmarked (EntryMarker.find?_eq_none entry) plain hint, expansion?, read]
        rfl
      have handle : keptLine (job.withPolicy .alias) source
          (blockDraft (job.withPolicy .alias) other source) =
            (Resource.ofDeclaration declaration).handle ++ ' ' ::
              ("// " ++ trimStart source.text) := by
        rw [keptLine_of_unmarked (EntryMarker.find?_eq_none entry) plain hint, expansion?, read]
        exact List.append_assoc _ [' '] _
      -- the blank between the two is a barrier, whatever the types and names are
      rw [remark, handle, Lowering.lower_append (by decide)]
      exact (List.append_assoc _ [' '] _).symm

end Step

theorem gainsBindings_of_entered {job : Job} {source : NumberedLine} {resources : List Resource}
    {entry bound : EntryPoint}
    (found : entered (job.withPolicy .comment) source resources = some entry)
    (again : entered (job.withPolicy .alias) source resources = some bound) :
    EntryPoint.GainsBindings resources entry bound := by
  obtain ⟨marker, marked, rfl⟩ := Option.map_eq_some_iff.mp found
  rw [entered, marked, Option.map_some] at again
  cases again
  refine ⟨rfl, rfl, rfl, _, _, Dispatch.wrapper_eq .., ?_⟩
  rw [← funext Dispatch.bindingLine_eq]
  exact Dispatch.wrapper_eq ..

theorem exists_gainsBindings (job : Job) {lines : List NumberedLine} {entry : EntryPoint}
    (found : (run (job.withPolicy .comment) {} lines).state.entry = some entry) :
    ∃ front source rest bound, lines = front ++ source :: rest ∧
      (run (job.withPolicy .alias) {} lines).state.entry = some bound ∧
      let resources := (run (job.withPolicy .comment) {} (front ++ [source])).state.resources
      entry.Threads (job.withPolicy .comment) source resources ∧
        bound.Threads (job.withPolicy .alias) source resources ∧
        EntryPoint.GainsBindings resources entry bound := by
  obtain ⟨front, source, rest, rfl, before, entering⟩ := exists_entering_line rfl found
  have lockstep := lockstep_withPolicy job .comment .alias
  have agrees := lockstep.state_run (⟨rfl, rfl, rfl⟩ : State.Agrees {} {}) front
  have next := (lockstep _ _ source agrees).1
  have unset : (run (job.withPolicy .alias) {} front).state.entry = none := by
    simpa [before] using agrees.entry
  obtain ⟨bound, given⟩ := Option.isSome_iff_exists.mp (next.entry.trans (entering ▸ rfl))
  have lowered := entered_of_step before entering
  have again := entered_of_step unset given
  rw [← step_resources (job.withPolicy .comment)] at lowered
  rw [← step_resources (job.withPolicy .alias), next.resources] at again
  refine ⟨front, source, rest, bound, rfl, ?_, ?_⟩
  · rw [run_append]
    exact @run_entry_of_some _ _ rest _ given
  · rw [run_append]
    exact ⟨EntryPoint.threads_of_entered lowered, EntryPoint.threads_of_entered again,
      gainsBindings_of_entered lowered again⟩

end Compilation

open Compilation

/-- The policy decides on declarations and bindings of resources only. The resources, the events
and, but for the bindings, the entry point are the same, and so are the lines of the two sources,
but for the wrapper and the lines that stand in place of the declarations. -/
theorem compile_withPolicy (job : Job) (header : Header)
    (single : ∀ source ∈ job.shader.lines, '\n' ∉ source.text) :
    let commenting := job.withPolicy .comment
    let aliasing := job.withPolicy .alias
    let commented := compile commenting header
    let aliased := compile aliasing header
    aliased.resources = commented.resources ∧ aliased.events = commented.events ∧
      (commented.entry = none ∧ aliased.entry = none ∨
        ∃ front source rest entry bound, job.shader.lines = front ++ source :: rest ∧
          commented.entry = some entry ∧ aliased.entry = some bound ∧
          let threaded := (run commenting {} (front ++ [source])).state.resources
          entry.Threads commenting source threaded ∧ bound.Threads aliasing source threaded ∧
            EntryPoint.GainsBindings threaded entry bound) ∧
      commented.source.splitOn '\n' = leadingLines job header ++
        (blocks commenting {} job.shader.lines).flatten ++
        (commented.entry.elim [] fun entry => entry.wrapper.map Lowering.lower) ++ [[]] ∧
      aliased.source.splitOn '\n' = leadingLines job header ++
        (blocks aliasing {} job.shader.lines).flatten ++
        (aliased.entry.elim [] fun entry => entry.wrapper.map Lowering.lower) ++ [[]] ∧
      ∀ front source rest, job.shader.lines = front ++ source :: rest →
        ∃ new block block', (blocks commenting {} job.shader.lines)[front.length]? = some block ∧
          (blocks aliasing {} job.shader.lines)[front.length]? = some block' ∧
          (run commenting {} (front ++ [source])).state.resources =
            (run commenting {} front).state.resources ++ new ∧
          GainsHandle source new block block' := by
  intro commenting aliasing commented aliased
  have lockstep : Lockstep commenting aliasing State.Agrees :=
    lockstep_withPolicy job .comment .alias
  have start : State.Agrees {} {} := ⟨rfl, rfl, rfl⟩
  have agrees := lockstep.state_run start job.shader.lines
  have entries : commented.entry = none ∧ aliased.entry = none ∨
      ∃ entry bound, commented.entry = some entry ∧ aliased.entry = some bound :=
    none_or_some agrees.entry
  refine ⟨agrees.resources, ?_, ?_, splitOn_source commenting header single,
    splitOn_source aliasing header single, ?_⟩
  · have body := lockstep.events_run start job.shader.lines
    have closing :
        entryEvents job.shader aliased.entry = entryEvents job.shader commented.entry := by
      obtain ⟨unset, unset'⟩ | ⟨entry, bound, known, given⟩ := entries
      · rw [unset, unset']
      · rw [known, given]
        rfl
    exact congrArg₂ (· ++ ·) body closing
  · obtain unset | ⟨entry, -, known, -⟩ := entries
    · exact .inl unset
    · obtain ⟨front, source, rest, bound, split, given, threads⟩ := exists_gainsBindings job known
      exact .inr ⟨front, source, rest, entry, bound, split, known, given, threads⟩
  · intro front source rest split
    have grown : (run commenting {} (front ++ [source])).state.resources =
        (run commenting {} front).state.resources ++
          declaredOn (run commenting {} front).state.mode source.text := by
      rw [run_append]
      exact step_resources ..
    exact ⟨_, _, _, getElem?_blocks _ _ split, getElem?_blocks _ _ split, grown,
      gainsHandle_step job source (lockstep.state_run start front)⟩

theorem compile_withPolicy_lights :
    let lights : NumberedLine :=
      ⟨0, 1, "  RES(RWBuffer(float4), Lights[4], NONE, u0, 0); // float3(x)"⟩
    let scene : NumberedLine :=
      ⟨0, 3, "RES(CBUFFER(Scene), uScene, NONE, b0, 1); SET_OUTPUT_FORMAT(0)"⟩
    let job : Job :=
      { shader := {
          name := "Lights"
          stage := .comp
          lines := [lights, ⟨0, 2, "void CS_MAIN()"⟩, scene] }
        binary := { filename := "lights.comp" }
        options := {} }
    let commented := compile (job.withPolicy .comment) ⟨[]⟩
    let aliased := compile (job.withPolicy .alias) ⟨[]⟩
    (∀ source ∈ job.shader.lines, '\n' ∉ source.text) ∧
      aliased.resources = commented.resources ∧ aliased.events = commented.events ∧
      (∃ front source rest entry bound, job.shader.lines = front ++ source :: rest ∧
        commented.entry = some entry ∧ aliased.entry = some bound ∧
        EntryPoint.GainsBindings (run (job.withPolicy .comment) {}
          (front ++ [source])).state.resources entry bound) ∧
      ∃ resource block block',
        (blocks (job.withPolicy .comment) {} job.shader.lines)[0]? = some block ∧
        (blocks (job.withPolicy .alias) {} job.shader.lines)[0]? = some block' ∧
        GainsHandle lights [resource] block block' := by
  intro lights scene job commented aliased
  have single : ∀ source ∈ job.shader.lines, '\n' ∉ source.text := by decide +kernel
  have entering : commented.entry ≠ none := by decide +kernel
  have counted : (run (job.withPolicy .comment) {} [lights]).state.resources.length = 1 := by
    decide +kernel
  obtain ⟨resources, events, entries, -, -, each⟩ := compile_withPolicy job ⟨[]⟩ single
  refine ⟨single, resources, events, ?_, ?_⟩
  · rcases entries with
      ⟨unset, -⟩ | ⟨front, source, rest, entry, bound, split, known, given, -, -, gains⟩
    · exact absurd unset entering
    · exact ⟨front, source, rest, entry, bound, split, known, given, gains⟩
  · obtain ⟨new, block, block', first, first', grown, gains⟩ := each [] lights _ rfl
    have all : (run (job.withPolicy .comment) {} [lights]).state.resources = new := grown
    rw [all] at counted
    obtain ⟨resource, rfl⟩ := List.length_eq_one_iff.mp counted
    exact ⟨resource, block, block', first, first', gains⟩

end IspcShader
