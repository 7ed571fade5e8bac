import IspcShader.Compilation.Basic
import IspcShader.Proofs.Compilation.Threading
import IspcShader.Proofs.Compilation.Trace

/-!
What is extracted from the lines of a shader: the resources in their order, and the first entry
point. Both are known from the lines and the block modes in front of them. The first entry line
gives the entry point, each later one a warning, and a shader without any gives a warning of its
own.
-/
namespace IspcShader

open Text

/-- The warnings about the number of entry points. -/
def Event.countsEntries : Event → Bool
  | secondEntry .. | noEntry .. => true
  | _ => false

namespace BuiltinScan

theorem filter_countsEntries_visit (entryLine : Text) (number : Nat) (scan : BuiltinScan)
    (param : Parameter) :
    (visit entryLine number scan param).events.filter Event.countsEntries =
      scan.events.filter Event.countsEntries := by
  unfold visit record
  split
  · simp [Event.countsEntries]
  · dsimp only
    split
    · split <;> simp [Event.countsEntries]
    · simp [Event.countsEntries]

theorem filter_countsEntries_foldl (entryLine : Text) (number : Nat) (builtins : List Parameter)
    (scan : BuiltinScan) :
    (builtins.foldl (visit entryLine number) scan).events.filter Event.countsEntries =
      scan.events.filter Event.countsEntries := by
  induction builtins generalizing scan with
  | nil => rfl
  | cons param rest ih => rw [List.foldl_cons, ih, filter_countsEntries_visit]

end BuiltinScan

theorem EntryPoint.filter_countsEntries_ofMarker (marker : EntryMarker) (number : Nat)
    (shader : Shader) (resources : List Resource) (suffix : Option Text) (policy : ResourcePolicy) :
    (ofMarker marker number shader resources suffix policy).2.filter Event.countsEntries = [] := by
  unfold ofMarker ofScan BuiltinScan.run
  dsimp only
  rw [List.filter_append, BuiltinScan.filter_countsEntries_foldl]
  rfl

namespace Compilation

def IsClosing (job : Job) (mode : BlockMode) (line : Text) : Prop :=
  ¬ IsDropped job mode line ∧ EndsBlock mode line

/-- A line that the entry rule comes to and finds an entry point on. -/
def IsEntryLine (job : Job) (mode : BlockMode) (line : Text) : Prop :=
  ¬ IsDropped job mode line ∧ ¬ EndsBlock mode line ∧ contains "_MAIN(" line = true

theorem isEntryLine_iff {job : Job} {mode : BlockMode} {line : Text} :
    IsEntryLine job mode line ↔ fate job mode line = .kept ∧ contains "_MAIN(" line = true := by
  rw [fate_eq_kept_iff, and_assoc]
  rfl

instance (job : Job) (mode : BlockMode) (line : Text) : Decidable (IsClosing job mode line) :=
  decidable_of_iff (fate job mode line = .closing) fate_eq_closing_iff

instance (job : Job) (mode : BlockMode) (line : Text) : Decidable (IsEntryLine job mode line) :=
  decidable_of_iff _ isEntryLine_iff.symm

def second? (source : NumberedLine) : Option Event :=
  (EntryMarker.find? source.text).map fun marker => .secondEntry marker.name source.number

def entryLines (job : Job) (state : State) (lines : List NumberedLine) :
    List (State × NumberedLine) :=
  (visits job state lines).filter fun visit => IsEntryLine job visit.1.mode visit.2.text

section Counted

variable (source : NumberedLine)

theorem filter_countsEntries_faultEvents {α : Type}
    (read : Option (Except Declaration.Malformed α)) :
    (faultEvents source read).filter Event.countsEntries = [] := by
  unfold faultEvents
  split <;> rfl

theorem filter_countsEntries_resourceEvents :
    (resourceEvents source).filter Event.countsEntries = [] := by
  unfold resourceEvents
  split
  · rfl
  · exact filter_countsEntries_faultEvents source _

theorem filter_countsEntries_blockDraft (job : Job) (state : State) :
    (blockDraft job state source).events.filter Event.countsEntries = [] := by
  unfold blockDraft
  dsimp only
  rw [List.filter_append, filter_countsEntries_faultEvents, List.nil_append]
  split
  · exact filter_countsEntries_faultEvents source _
  · rfl

theorem filter_countsEntries_enteringEvents (job : Job) (entry : Option EntryPoint)
    (resources : List Resource) :
    (enteringEvents job source entry resources).filter Event.countsEntries =
      if entry.isSome then (second? source).toList else [] := by
  unfold enteringEvents second?
  cases EntryMarker.find? source.text with
  | none => cases entry <;> rfl
  | some marker =>
    cases entry with
    | none => exact EntryPoint.filter_countsEntries_ofMarker ..
    | some entry => rfl

end Counted

section Step

variable (job : Job) (state : State) (source : NumberedLine)

theorem declaredOn_eq (mode : BlockMode) (line : Text) :
    declaredOn mode line = if IsClosing job mode line then [] else written line := by
  unfold declaredOn
  rcases written_eq_nil_or_read line with nothing | ⟨declaration, read⟩
  · rw [nothing, ite_self, ite_self]
  · have closing :
        IsClosing job mode line ↔ (mode.isInside && Marker.closesStruct line) = true := by
      rw [IsClosing, ← fate_eq_closing_iff, fate_of_read read]
      cases mode.isInside && Marker.closesStruct line <;> simp
    simp only [closing]

theorem entered_eq_none {resources : List Resource}
    (absent : contains "_MAIN(" source.text = false) :
    entered job source resources = none := by
  rw [entered, EntryMarker.find?_eq_none absent, Option.map_none]

theorem step_entry : (step job state source).state.entry =
    if IsEntryLine job state.mode source.text then
      state.entry.or (entered job source (state.resources ++ declaredOn state.mode source.text))
    else state.entry := by
  rw [step_state, declaredOn_eq job]
  simp only [isEntryLine_iff, IsClosing, ← fate_eq_closing_iff]
  cases fate job state.mode source.text with
  | dropped => rfl
  | closing => rfl
  | kept =>
    cases marked : contains "_MAIN(" source.text with
    | true => simp
    | false => simp [entered_eq_none job source marked]

theorem exists_entry_of_isEntryLine {job : Job} {state : State} {source : NumberedLine}
    (first : state.entry = none) (line : IsEntryLine job state.mode source.text) :
    ∃ marker, EntryMarker.find? source.text = some marker ∧
      (step job state source).state.entry =
        some (EntryPoint.ofMarker marker source.number job.shader
          (step job state source).state.resources job.mangle? job.options.policy).1 := by
  obtain ⟨marker, found⟩ := Option.isSome_iff_exists.mp
    ((EntryMarker.isSome_find? source.text).trans line.2.2)
  refine ⟨marker, found, ?_⟩
  rw [step_resources, step_entry, if_pos line, first, Option.none_or, entered, found,
    Option.map_some]

theorem step_counted : ((step job state source).events.filter Event.countsEntries).map some =
    if IsEntryLine job state.mode source.text ∧ state.entry.isSome = true then [second? source]
      else [] := by
  rw [step_eq]
  simp only [isEntryLine_iff]
  cases fate job state.mode source.text with
  | dropped => rfl
  | closing =>
    dsimp only [Draft.close]
    rw [filter_countsEntries_blockDraft]
    rfl
  | kept =>
    have before : (blockDraft job state source).state.entry = state.entry := rfl
    simp only [Draft.finish_events, List.filter_append, filter_countsEntries_blockDraft,
      filter_countsEntries_resourceEvents, filter_countsEntries_faultEvents,
      filter_countsEntries_enteringEvents, List.nil_append, before, true_and]
    rw [← EntryMarker.isSome_find?, second?]
    cases EntryMarker.find? source.text <;> cases state.entry <;> rfl

theorem enter_state_of_some {draft : Draft} {entry : EntryPoint}
    (h : draft.state.entry = some entry) : (draft.enter job source).state = draft.state := by
  rw [Draft.enter_state, h, Option.some_or, ← h]

end Step

section EntryLines

variable {job : Job} {state : State} {source : NumberedLine} {rest : List NumberedLine}

theorem entryLines_cons_of_pos (line : IsEntryLine job state.mode source.text) :
    entryLines job state (source :: rest) =
      (state, source) :: entryLines job (step job state source).state rest :=
  List.filter_cons_of_pos (by simpa using line)

theorem entryLines_cons_of_neg (line : ¬ IsEntryLine job state.mode source.text) :
    entryLines job state (source :: rest) = entryLines job (step job state source).state rest :=
  List.filter_cons_of_neg (by simpa using line)

theorem step_entry_of_neg (line : ¬ IsEntryLine job state.mode source.text) :
    (step job state source).state.entry = state.entry := by
  rw [step_entry, if_neg line]

end EntryLines

section Run

variable {job : Job} {state : State} {lines : List NumberedLine} {entry : EntryPoint}

theorem run_resources_eq_flatMap (job : Job) (state : State) (lines : List NumberedLine) :
    (run job state lines).state.resources = state.resources ++
      (visits job state lines).flatMap fun visit =>
        if IsClosing job visit.1.mode visit.2.text then [] else written visit.2.text := by
  induction lines generalizing state with
  | nil => simp [visits]
  | cons source rest ih =>
    rw [run, visits, List.flatMap_cons]
    dsimp only
    rw [ih, step_resources, declaredOn_eq job, List.append_assoc]

theorem run_entry_eq_none_iff (first : state.entry = none) :
    (run job state lines).state.entry = none ↔ entryLines job state lines = [] := by
  induction lines generalizing state with
  | nil => exact iff_of_true first rfl
  | cons source rest ih =>
    by_cases line : IsEntryLine job state.mode source.text
    · obtain ⟨marker, -, entered⟩ := exists_entry_of_isEntryLine first line
      have stays := @run_entry_of_some job _ rest _ entered
      rw [entryLines_cons_of_pos line, run, stays]
      exact iff_of_false (Option.some_ne_none _) (List.cons_ne_nil _ _)
    · rw [entryLines_cons_of_neg line]
      exact ih ((step_entry_of_neg line).trans first)

theorem run_entry_of_first {front rest : List NumberedLine} {source : NumberedLine}
    (first : state.entry = none) (before : entryLines job state front = [])
    (line : IsEntryLine job (run job state front).state.mode source.text) :
    ∃ marker, EntryMarker.find? source.text = some marker ∧
      (run job state (front ++ source :: rest)).state.entry =
        some (EntryPoint.ofMarker marker source.number job.shader
          (run job state (front ++ [source])).state.resources job.mangle?
            job.options.policy).1 := by
  have unset := (run_entry_eq_none_iff first).mpr before
  obtain ⟨marker, found, entered⟩ := exists_entry_of_isEntryLine unset line
  refine ⟨marker, found, ?_⟩
  rw [run_append, run_append]
  exact @run_entry_of_some job _ rest _ entered

theorem run_counted_of_some (h : state.entry = some entry) :
    ((run job state lines).events.filter Event.countsEntries).map some =
      (entryLines job state lines).map fun visit => second? visit.2 := by
  induction lines generalizing state with
  | nil => rfl
  | cons source rest ih =>
    rw [run, List.filter_append, List.map_append, step_counted, ih (step_entry_of_some h), h]
    by_cases line : IsEntryLine job state.mode source.text
    · rw [if_pos ⟨line, rfl⟩, entryLines_cons_of_pos line]
      rfl
    · rw [if_neg fun both => line both.1, entryLines_cons_of_neg line, List.nil_append]

theorem run_counted (first : state.entry = none) :
    ((run job state lines).events.filter Event.countsEntries).map some =
      (entryLines job state lines).tail.map fun visit => second? visit.2 := by
  induction lines generalizing state with
  | nil => rfl
  | cons source rest ih =>
    rw [run, List.filter_append, List.map_append, step_counted, first,
      if_neg fun both => Bool.false_ne_true both.2]
    by_cases line : IsEntryLine job state.mode source.text
    · obtain ⟨marker, -, entered⟩ := exists_entry_of_isEntryLine first line
      rw [run_counted_of_some entered, entryLines_cons_of_pos line, List.nil_append,
        List.tail_cons]
    · rw [ih ((step_entry_of_neg line).trans first), entryLines_cons_of_neg line, List.nil_append]

theorem map_filter_entryEvents (shader : Shader) (entry : Option EntryPoint) :
    ((entryEvents shader entry).filter Event.countsEntries).map some =
      if entry = none then [some (.noEntry shader.name)] else [] := by
  cases entry <;> rfl

end Run

end Compilation

open Compilation

/-- What a compilation extracts: the resources of all lines but those that end a block; the entry
point of the first entry line, with the resources up to there; a warning for each later entry line,
which leaves the entry point as it is; and a warning where there is no entry point. -/
theorem compile_extracts (job : Job) (header : Header) :
    let compiled := compile job header
    let entries := entryLines job {} job.shader.lines
    compiled.resources = (visits job {} job.shader.lines).flatMap (fun visit =>
        if IsClosing job visit.1.mode visit.2.text then [] else written visit.2.text) ∧
      (compiled.entry.isSome = true ↔ entries ≠ []) ∧
      (∀ front source rest, job.shader.lines = front ++ source :: rest →
        IsEntryLine job (run job {} front).state.mode source.text →
          (entryLines job {} front = [] →
            ∃ marker, EntryMarker.find? source.text = some marker ∧
              compiled.entry = some (EntryPoint.ofMarker marker source.number job.shader
                ((visits job {} (front ++ [source])).flatMap fun visit =>
                  if IsClosing job visit.1.mode visit.2.text then [] else written visit.2.text)
                job.mangle? job.options.policy).1) ∧
          (entryLines job {} front ≠ [] →
            let before := (run job {} front).state
            let after := (step job before source).state
            before.entry = compiled.entry ∧ after.entry = compiled.entry ∧
              after.resources = before.resources ++ written source.text ∧
              ∀ draft : Draft, draft.state.entry = before.entry →
                (draft.enter job source).state = draft.state)) ∧
      (compiled.events.filter Event.countsEntries).map some =
        (entries.tail.map fun visit =>
          (EntryMarker.find? visit.2.text).map fun marker =>
            Event.secondEntry marker.name visit.2.number) ++
        (if compiled.entry = none then [some (.noEntry job.shader.name)] else []) ∧
      ∀ name, .noEntry name ∈ compiled.events ↔ name = job.shader.name ∧ compiled.entry = none := by
  intro compiled entries
  have counted : (compiled.events.filter Event.countsEntries).map some =
      (entries.tail.map fun visit => second? visit.2) ++
        (if compiled.entry = none then [some (.noEntry job.shader.name)] else []) := by
    dsimp only [compiled, compile, Compiled.ofBody]
    rw [List.filter_append, List.map_append, run_counted rfl, map_filter_entryEvents]
    rfl
  refine ⟨?_, ?_, ?_, counted, ?_⟩
  · have extracted := run_resources_eq_flatMap job {} job.shader.lines
    rwa [List.nil_append] at extracted
  · rw [Option.isSome_iff_ne_none]
    exact not_congr (run_entry_eq_none_iff rfl)
  · intro front source rest split line
    constructor
    · intro before
      obtain ⟨marker, found, entered⟩ :=
        @run_entry_of_first job {} front rest source rfl before line
      refine ⟨marker, found, ?_⟩
      rw [run_resources_eq_flatMap, List.nil_append, ← split] at entered
      exact entered
    · intro earlier before after
      have unset := @run_entry_eq_none_iff job {} front rfl
      obtain ⟨entry, set⟩ := Option.ne_none_iff_exists'.mp (mt unset.mp earlier)
      have final : compiled.entry = some entry := by
        dsimp only [compiled, compile, Compiled.ofBody]
        rw [split, run_append]
        exact run_entry_of_some set
      refine ⟨set.trans final.symm, (step_entry_of_some set).trans final.symm, ?_, ?_⟩
      · have kept : ¬ IsClosing job before.mode source.text := fun closing => line.2.1 closing.2
        exact (step_resources ..).trans (by rw [declaredOn_eq job, if_neg kept])
      · intro draft same
        exact enter_state_of_some job source (same.trans set)
  · intro name
    have listed : .noEntry name ∈ compiled.events ↔
        some (.noEntry name) ∈ (compiled.events.filter Event.countsEntries).map some := by
      simp [Event.countsEntries]
    have other : some (.noEntry name) ∉ entries.tail.map fun visit => second? visit.2 := by
      intro member
      obtain ⟨visit, -, reported⟩ := List.mem_map.mp member
      obtain ⟨marker, -, clash⟩ := Option.map_eq_some_iff.mp reported
      cases clash
    rw [listed, counted, List.mem_append, or_iff_right other]
    by_cases unset : compiled.entry = none
    · simp [unset]
    · simp [unset]

end IspcShader
