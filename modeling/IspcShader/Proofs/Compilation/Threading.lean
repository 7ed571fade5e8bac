import IspcShader.Compilation.Basic
import IspcShader.Proofs.Compilation.Output
import IspcShader.Proofs.Macro.Call

/-!
Which resources reach the entry point. The lines are read once, from top to bottom, and the entry
point is written out where it is met: it takes the resources declared up to there. A resource
declared further down is reported and may get a handle, but it is neither passed nor bound.
-/
namespace IspcShader

open Text

namespace Compilation

def modeBehind (job : Job) (mode : BlockMode) (line : Text) : BlockMode :=
  match fate job mode line with
  | .closing => .outside
  | _ => openedMode job mode line

/-- The resource that a line declares, unless the line is taken as the end of a struct. -/
def declaredOn (mode : BlockMode) (line : Text) : List Resource :=
  if mode.isInside && Marker.closesStruct line then [] else written line

def modeAfter (job : Job) (mode : BlockMode) (lines : List NumberedLine) : BlockMode :=
  lines.foldl (fun mode source => modeBehind job mode source.text) mode

def declaredIn (job : Job) (mode : BlockMode) : List NumberedLine → List Resource
  | [] => []
  | source :: rest =>
    declaredOn mode source.text ++ declaredIn job (modeBehind job mode source.text) rest

theorem declaredIn_append (job : Job) (mode : BlockMode) (front back : List NumberedLine) :
    declaredIn job mode (front ++ back) =
      declaredIn job mode front ++ declaredIn job (modeAfter job mode front) back := by
  induction front generalizing mode with
  | nil => rfl
  | cons source rest ih =>
    rw [List.cons_append, declaredIn, ih, declaredIn, List.append_assoc]
    rfl

theorem written_eq_nil_or_read (line : Text) :
    written line = [] ∨ ∃ declaration, Declaration.Resource.read line = some (.ok declaration) := by
  unfold written
  split
  · next declaration read => exact .inr ⟨declaration, read⟩
  · exact .inl rfl

/-- A line that neither opens a struct nor is a member is kept, or closes a struct. -/
theorem fate_of_undeclared {line : Text} (statement : Marker.isDirective line = false)
    (unopened : Declaration.Struct.read line = none) (unread : Declaration.Field.read line = none)
    (job : Job) (mode : BlockMode) :
    fate job mode line = if mode.isInside && Marker.closesStruct line then .closing else .kept := by
  have same : openedMode job mode line = mode := by simp only [openedMode, unopened]
  have noDrop : dropsMember mode line = false := by simp only [dropsMember, unread]
  cases inside : mode.isInside <;> simp [fate, same, noDrop, statement, inside]

theorem fate_of_read {line : Text} {result : Except Declaration.Malformed Declaration.Resource}
    (read : Declaration.Resource.read line = some result) (job : Job) (mode : BlockMode) :
    fate job mode line = if mode.isInside && Marker.closesStruct line then .closing else .kept :=
  fate_of_undeclared (Declaration.Kind.isDirective_of_read read)
    (Declaration.Kind.read_eq_none_of_read read (by decide))
    (Declaration.Kind.read_eq_none_of_read read (by decide)) job mode

section Step

variable (job : Job) (state : State) (source : NumberedLine)

theorem step_mode : (step job state source).state.mode = modeBehind job state.mode source.text := by
  rw [step_state, modeBehind]
  cases fate job state.mode source.text <;> rfl

theorem step_resources : (step job state source).state.resources =
    state.resources ++ declaredOn state.mode source.text := by
  rw [step_state]
  rcases written_eq_nil_or_read source.text with nothing | ⟨declaration, read⟩
  · -- whatever becomes of the line, there is nothing to take up
    cases fate job state.mode source.text <;> simp [declaredOn, nothing]
  · rw [fate_of_read read, declaredOn]
    cases state.mode.isInside && Marker.closesStruct source.text <;> simp

variable {job state source} {entry : EntryPoint}

theorem step_entry_of_some (h : state.entry = some entry) :
    (step job state source).state.entry = some entry := by
  rw [step_state]
  cases fate job state.mode source.text <;> simp [h]

/-- A line that brings the entry point is lowered with the resources up to and on this line. -/
theorem entered_of_step (first : state.entry = none)
    (h : (step job state source).state.entry = some entry) :
    entered job source (state.resources ++ declaredOn state.mode source.text) = some entry := by
  rw [← step_resources job state source]
  rw [step_state] at h ⊢
  cases kept : fate job state.mode source.text with
  | dropped => simp [kept, first] at h
  | closing => simp [kept, first] at h
  | kept => simpa [kept, first] using h

end Step

section Run

variable {job : Job} {state : State} {lines : List NumberedLine} {entry : EntryPoint}

theorem run_resources (job : Job) (state : State) (lines : List NumberedLine) :
    (run job state lines).state.resources = state.resources ++ declaredIn job state.mode lines := by
  induction lines generalizing state with
  | nil => simp [declaredIn]
  | cons source rest ih =>
    rw [run, declaredIn]
    dsimp only
    rw [ih, step_resources, step_mode, List.append_assoc]

theorem run_entry_of_some (h : state.entry = some entry) :
    (run job state lines).state.entry = some entry := by
  induction lines generalizing state with
  | nil => exact h
  | cons source rest ih => exact ih (step_entry_of_some h)

/-- The entry point comes from one line, and stays from there on. -/
theorem exists_entering_line (first : state.entry = none)
    (h : (run job state lines).state.entry = some entry) :
    ∃ front source rest, lines = front ++ source :: rest ∧
      (run job state front).state.entry = none ∧
      (step job (run job state front).state source).state.entry = some entry := by
  induction lines generalizing state with
  | nil =>
    rw [run_nil, first] at h
    cases h
  | cons source rest ih =>
    cases next : (step job state source).state.entry with
    | some found =>
      -- later lines leave the entry point alone, so this is the one found in the end
      have stays : (run job (step job state source).state rest).state.entry = some found :=
        run_entry_of_some next
      exact ⟨[], source, rest, rfl, first, next.trans (stays.symm.trans h)⟩
    | none =>
      obtain ⟨front, line, behind, rfl, before, entering⟩ := ih next h
      exact ⟨source :: front, line, behind, rfl, before, entering⟩

theorem exists_entry_line (first : state.entry = none)
    (h : (run job state lines).state.entry = some entry) :
    ∃ front source rest, lines = front ++ source :: rest ∧
      (run job state front).state.entry = none ∧
      entered job source (state.resources ++ declaredIn job state.mode (front ++ [source])) =
        some entry := by
  obtain ⟨front, source, rest, split, before, entering⟩ := exists_entering_line first h
  refine ⟨front, source, rest, split, before, ?_⟩
  have lowered := entered_of_step before entering
  rw [← step_resources job] at lowered
  rw [← run_resources, run_append]
  exact lowered

end Run

def ownParams (job : Job) (source : NumberedLine) (marker : EntryMarker) : Text :=
  (BuiltinScan.run marker.line source.number job.shader.builtinParams
    (EntryPoint.unwrapStructs job.shader.structParams marker.params)).params

end Compilation

open Compilation

/-- The entry point on a line passes just these resources on: they lead the implementation's
parameters, the wrapper's parameters and the call, and they are what the wrapper binds. -/
structure EntryPoint.Threads (entry : EntryPoint) (job : Job) (source : NumberedLine)
    (resources : List Resource) : Prop where
  line : ∃ marker, EntryMarker.find? source.text = some marker ∧
    entry.line = marker.before ++ entry.implementationName ++ "(" ++
      EntryPoint.withResources resources (ownParams job source marker)
  wrapper : entry.wrapper = Dispatch.signature entry.mainName resources ::
    (Dispatch.bindings resources job.options.policy ++ Dispatch.coordinateLines ++
      entry.args.map Dispatch.argLine ++
      [Dispatch.callLine entry.mainName resources entry.args, "    \x7d", "\x7d"])

namespace EntryPoint

theorem threads_of_entered {job : Job} {source : NumberedLine} {resources : List Resource}
    {entry : EntryPoint} (h : entered job source resources = some entry) :
    entry.Threads job source resources := by
  obtain ⟨marker, found, rfl⟩ := Option.map_eq_some_iff.mp h
  exact ⟨⟨marker, found, rfl⟩, by simp [ofMarker, ofScan, Dispatch.wrapper]⟩

theorem eq_nil_of_signature_append {main : Text} {a b : List Resource}
    (same : Dispatch.signature main (a ++ b) = Dispatch.signature main a) : b = [] := by
  unfold Dispatch.signature at same
  have lists := List.append_cancel_left (List.append_cancel_right same)
  rw [List.map_append, List.append_assoc] at lists
  cases b with
  | nil => rfl
  | cons resource others =>
    exact absurd lists (Macro.intercalate_insert_ne _ (by decide) (by simp) (List.cons_ne_nil _ _))

/-- An entry point that threads some resources threads more only if they are none. -/
theorem Threads.append_iff {entry : EntryPoint} {job : Job} {source : NumberedLine}
    {resources : List Resource} (threads : entry.Threads job source resources)
    (more : List Resource) : entry.Threads job source (resources ++ more) ↔ more = [] := by
  constructor
  · intro all
    have same := all.wrapper.symm.trans threads.wrapper
    exact eq_nil_of_signature_append (List.cons.inj same).1
  · rintro rfl
    rwa [List.append_nil]

end EntryPoint

theorem bindingLine_eq_iff {a b : Resource} :
    Dispatch.bindingLine a = Dispatch.bindingLine b ↔ a.handleName = b.handleName := by
  constructor
  · intro same
    unfold Dispatch.bindingLine at same
    have names := List.append_cancel_right (List.append_cancel_right same)
    have lengths := congrArg List.length names
    simp only [List.length_append] at lengths
    exact List.append_inj_right' names (by omega)
  · intro same
    unfold Dispatch.bindingLine
    rw [same]

theorem bindingLine_mem_bindings {resource : Resource} {resources : List Resource} :
    Dispatch.bindingLine resource ∈ Dispatch.bindings resources .alias ↔
      resource.handleName ∈ resources.map Resource.handleName := by
  simp only [Dispatch.bindings, List.mem_map, bindingLine_eq_iff]

/-- The entry point threads the resources declared up to and on its own line. These are all that are
reported just when no line behind it declares any; and where handles are bound, each reported one is
just when those declared behind have no names of their own. -/
theorem threads_resources_iff {job : Job} {header : Header} {entry : EntryPoint}
    (found : (compile job header).entry = some entry) :
    ∃ front source rest, job.shader.lines = front ++ source :: rest ∧
      (run job {} front).state.entry = none ∧
      let threaded := declaredIn job .outside (front ++ [source])
      let late := declaredIn job (modeAfter job .outside (front ++ [source])) rest
      (compile job header).resources = threaded ++ late ∧ entry.Threads job source threaded ∧
        (entry.Threads job source (compile job header).resources ↔ late = []) ∧
        ((∀ resource ∈ (compile job header).resources,
            Dispatch.bindingLine resource ∈ Dispatch.bindings threaded .alias) ↔
          ∀ resource ∈ late, resource.handleName ∈ threaded.map Resource.handleName) := by
  obtain ⟨front, source, rest, lines, first, lowered⟩ := exists_entry_line rfl found
  have threads := EntryPoint.threads_of_entered lowered
  have resources : (compile job header).resources = declaredIn job .outside (front ++ [source]) ++
      declaredIn job (modeAfter job .outside (front ++ [source])) rest := by
    rw [← declaredIn_append, List.append_assoc, List.singleton_append, ← lines]
    exact run_resources job {} job.shader.lines
  refine ⟨front, source, rest, lines, first, resources, threads, ?_, ?_⟩
  · rw [resources]
    exact threads.append_iff _
  · simp only [resources, bindingLine_mem_bindings, List.forall_mem_append]
    exact ⟨fun bound => bound.2, fun named => ⟨fun _ member => List.mem_map_of_mem member, named⟩⟩

theorem threads_resources_iff_between :
    let job : Job :=
      { shader :=
          { name := "Between", stage := .comp
            builtinParams := [⟨"SV_DispatchThreadID(uint3)", "id"⟩]
            lines := [
              ⟨0, 1, "RES(CBUFFER(Params), gParams, UPDATE_FREQ_NONE, b0, binding = 0);"⟩,
              ⟨0, 2, "void CS_MAIN(SV_DispatchThreadID(uint3) id)"⟩,
              ⟨0, 3, "RES(RWBuffer(float4), Out, UPDATE_FREQ_NONE, u0, binding = 1);"⟩] }
        binary := { filename := "between.comp" }
        options := {} }
    ∃ entry, (compile job ⟨[]⟩).entry = some entry ∧
      ∃ front source rest, job.shader.lines = front ++ source :: rest ∧
        (run job {} front).state.entry = none ∧
        let threaded := declaredIn job .outside (front ++ [source])
        let late := declaredIn job (modeAfter job .outside (front ++ [source])) rest
        (compile job ⟨[]⟩).resources = threaded ++ late ∧ entry.Threads job source threaded ∧
          (entry.Threads job source (compile job ⟨[]⟩).resources ↔ late = []) ∧
          ((∀ resource ∈ (compile job ⟨[]⟩).resources,
              Dispatch.bindingLine resource ∈ Dispatch.bindings threaded .alias) ↔
            ∀ resource ∈ late, resource.handleName ∈ threaded.map Resource.handleName) := by
  intro job
  have entered : (compile job ⟨[]⟩).entry.isSome = true := by decide +kernel
  obtain ⟨entry, found⟩ := Option.isSome_iff_exists.mp entered
  exact ⟨entry, found, threads_resources_iff found⟩

/-- A resource declared behind the entry point: it is reported and has its handle in the source, and
no line of the wrapper names it. -/
theorem late_resource_not_threaded :
    let job : Job :=
      { shader :=
          { name := "s", stage := .comp
            builtinParams := [⟨"SV_DispatchThreadID(uint3)", "id"⟩]
            lines := [
              ⟨0, 1, "void CS_MAIN(SV_DispatchThreadID(uint3) id)"⟩,
              ⟨0, 2, "RES(Buffer(float4), Buf, UPDATE_FREQ_NONE, t0, binding = 0);"⟩] }
        binary := { filename := "test.comp" }
        options := {} }
    ∃ entry resource, (compile job ⟨[]⟩).entry = some entry ∧
      (compile job ⟨[]⟩).resources = [resource] ∧
      (∀ source, ¬ entry.Threads job source [resource]) ∧
      contains (Lowering.lower resource.handle) (compile job ⟨[]⟩).source = true ∧
      ∀ line ∈ entry.wrapper, contains resource.handleName line = false := by
  intro job
  let resource : Resource := ⟨"Buffer(float4)", "float4", "Buf", "Buf", false, true⟩
  have reported : (compile job ⟨[]⟩).resources = [resource] := by decide +kernel
  have handled : contains (Lowering.lower resource.handle) (compile job ⟨[]⟩).source = true := by
    decide +kernel
  have entered : ∃ entry ∈ (compile job ⟨[]⟩).entry,
      entry.wrapper.head? ≠ some (Dispatch.signature entry.mainName [resource]) ∧
        ∀ line ∈ entry.wrapper, contains resource.handleName line = false := by
    decide +kernel
  obtain ⟨entry, found, other, unnamed⟩ := entered
  refine ⟨entry, resource, found, reported, ?_, handled, unnamed⟩
  intro source threads
  rw [threads.wrapper] at other
  exact other rfl

end IspcShader
