import IspcShader.Proofs.Compilation.Threading
import IspcShader.Proofs.Compilation.Trace

/-!
The lines of a compiled source. The wrapper consists of single lines like all the rest, so the
source falls at its line feeds into the lines in front of the shader, the blocks of the shader's own
lines and the lowered wrapper.
-/
namespace IspcShader

open Text

namespace Text

theorem splitOn_unlines {lines : List Text} (single : ∀ line ∈ lines, IsLine line) :
    (Compilation.unlines lines).splitOn '\n' = lines ++ [[]] := by
  induction lines with
  | nil => rfl
  | cons line rest ih =>
    have first := List.splitOn_eq_singleton (single line List.mem_cons_self)
    have others := ih fun other later => single other (List.mem_cons_of_mem line later)
    have shape : Compilation.unlines (line :: rest) = line ++ '\n' :: Compilation.unlines rest :=
      List.append_assoc line ['\n'] _
    rw [shape, List.splitOn_append_cons_self, first, others, List.singleton_append,
      List.cons_append]

end Text

theorem CoordinateArg.isLine_value (arg : CoordinateArg) : IsLine arg.value := by
  have names : ∀ axis ∈ axes, IsLine axis := by decide
  have listed : IsLine (List.intercalate ", " (axes.take arg.lanes)) :=
    IsLine.intercalate (by decide) fun axis member => names axis (List.mem_of_mem_take member)
  unfold value
  split
  · decide
  · exact (IsLine.append (by decide) listed).append (by decide)

namespace Dispatch

variable {main : Text} {resources : List Resource} {args : List CoordinateArg}

theorem isLine_signature (name : IsLine main) (single : ∀ resource ∈ resources, resource.IsSingle) :
    IsLine (signature main resources) := by
  have params :
      IsLine (List.intercalate ", " (resources.map (·.parameter argSuffix) ++ extentParams)) := by
    refine IsLine.intercalate (by decide) ?_
    intro text listed
    rcases List.mem_append.mp listed with bound | extent
    · obtain ⟨resource, declared, rfl⟩ := List.mem_map.mp bound
      exact (single resource declared).parameter (by decide)
    · have names : ∀ param ∈ extentParams, IsLine param := by decide
      exact names text extent
  exact (((IsLine.append (by decide) name).append (by decide)).append params).append (by decide)

theorem isLine_bindings (policy : ResourcePolicy)
    (single : ∀ resource ∈ resources, resource.IsSingle) :
    ∀ line ∈ bindings resources policy, IsLine line := by
  intro line member
  cases policy with
  | comment => cases member
  | «alias» =>
    obtain ⟨resource, declared, rfl⟩ := List.mem_map.mp member
    have name : IsLine resource.handleName := (single resource declared).baseName
    exact ((((IsLine.append (by decide) name).append (by decide)).append name).append
      (by decide)).append (by decide)

theorem isLine_callLine (name : IsLine main) (single : ∀ resource ∈ resources, resource.IsSingle)
    (own : ∀ arg ∈ args, arg.IsSingle) : IsLine (callLine main resources args) := by
  have passed : IsLine (List.intercalate ", "
      (resources.map (·.handleName ++ argSuffix) ++ args.map (·.name))) := by
    refine IsLine.intercalate (by decide) ?_
    intro text listed
    rcases List.mem_append.mp listed with bound | coordinate
    · obtain ⟨resource, declared, rfl⟩ := List.mem_map.mp bound
      exact (single resource declared).baseName.append (by decide)
    · obtain ⟨arg, member, rfl⟩ := List.mem_map.mp coordinate
      exact (own arg member).name
  exact (((IsLine.append (by decide) (name.append (by decide))).append (by decide)).append
    passed).append (by decide)

theorem isLine_wrapper (policy : ResourcePolicy) (name : IsLine main)
    (single : ∀ resource ∈ resources, resource.IsSingle) (own : ∀ arg ∈ args, arg.IsSingle) :
    ∀ line ∈ wrapper main resources args policy, IsLine line := by
  have coordinates : ∀ line ∈ coordinateLines, IsLine line := by decide +kernel
  have statements : ∀ line ∈ args.map argLine, IsLine line := by
    intro line member
    obtain ⟨arg, listed, rfl⟩ := List.mem_map.mp member
    have type := (own arg listed).type
    have name := (own arg listed).name
    exact IsLine.append (by decide)
      ((((type.append (by decide)).append name).append (by decide)).append
        arg.isLine_value |>.append (by decide))
  unfold wrapper
  simp only [List.forall_mem_append, List.forall_mem_cons]
  exact ⟨⟨⟨⟨⟨isLine_signature name single, List.forall_mem_nil _⟩, isLine_bindings policy single⟩,
    coordinates⟩, statements⟩, isLine_callLine name single own, by decide, by decide,
    List.forall_mem_nil _⟩

end Dispatch

namespace Compilation

structure State.IsSingle (state : State) : Prop where
  resources : ∀ resource ∈ state.resources, resource.IsSingle
  wrapper : ∀ entry ∈ state.entry, ∀ line ∈ entry.wrapper, IsLine line

theorem isLine_entered_wrapper {job : Job} {source : NumberedLine} {resources : List Resource}
    {entry : EntryPoint} (single : IsLine source.text)
    (declared : ∀ resource ∈ resources, resource.IsSingle)
    (found : entered job source resources = some entry) : ∀ line ∈ entry.wrapper, IsLine line := by
  obtain ⟨marker, marked, rfl⟩ := Option.map_eq_some_iff.mp found
  rw [← EntryMarker.line_of_find? marked] at single
  have scanned := EntryPoint.isSingle_run source.number job.shader single
  simp only [EntryMarker.line, isLine_append] at single
  obtain ⟨⟨⟨-, name⟩, -⟩, -⟩ := single
  have main := EntryPoint.isLine_exportName name
    fun text given => .of_words (job.isWordChar_mangle text given)
  exact Dispatch.isLine_wrapper job.options.policy main declared scanned.args

theorem isSingle_step {job : Job} {state : State} {source : NumberedLine}
    (single : IsLine source.text) (before : state.IsSingle) :
    (step job state source).state.IsSingle := by
  have resources := @isSingle_step_resources job state source single before.resources
  refine ⟨resources, ?_⟩
  intro entry given
  cases known : state.entry with
  | some earlier =>
    rw [step_entry_of_some known] at given
    exact before.wrapper entry (known.trans given)
  | none =>
    have found := entered_of_step known given
    rw [← step_resources job state source] at found
    exact isLine_entered_wrapper single resources found

theorem isSingle_run {job : Job} {state : State} {lines : List NumberedLine}
    (single : ∀ source ∈ lines, IsLine source.text) (before : state.IsSingle) :
    (run job state lines).state.IsSingle := by
  induction lines generalizing state with
  | nil => exact before
  | cons source rest ih =>
    exact ih (fun other later => single other (List.mem_cons_of_mem source later))
      (isSingle_step (single source List.mem_cons_self) before)

theorem isSingle_initial : ({} : State).IsSingle where
  resources := List.forall_mem_nil _
  wrapper _ given := absurd given.symm (Option.some_ne_none _)

theorem isLine_wrapperLines {state : State} (single : state.IsSingle) :
    ∀ line ∈ wrapperLines state.entry, IsLine line := by
  intro line member
  cases entered : state.entry with
  | none =>
    rw [entered] at member
    cases member
  | some entry =>
    rw [entered] at member
    obtain ⟨own, listed, rfl⟩ := List.mem_map.mp member
    exact Lowering.isLine_lower (single.wrapper entry entered own listed)

/-- The lines in front of those of the shader: the title and the native header. A name in the title
may itself be several lines. -/
def leadingLines (job : Job) (header : Header) : List Text :=
  (unlines (titleLines job ++ header.lines)).splitOn '\n'

end Compilation

open Compilation

theorem splitOn_source (job : Job) (header : Header)
    (single : ∀ source ∈ job.shader.lines, IsLine source.text) :
    (compile job header).source.splitOn '\n' =
      leadingLines job header ++ (blocks job {} job.shader.lines).flatten ++
        ((compile job header).entry.elim [] fun entry => entry.wrapper.map Lowering.lower) ++
          [[]] := by
  have body : ∀ line ∈ (run job {} job.shader.lines).lines, IsLine line :=
    isLine_of_mem_run single isSingle_initial.resources
  have wrapper : ∀ line ∈ wrapperLines (compile job header).entry, IsLine line :=
    isLine_wrapperLines (isSingle_run single isSingle_initial)
  have shape : (compile job header).source = unlines (titleLines job ++ header.lines) ++
      '\n' :: unlines ((run job {} job.shader.lines).lines ++
        wrapperLines (compile job header).entry) := by
    simp [compile, Compiled.ofBody, prologue, unlines]
  rw [← wrapperLines_eq, shape, List.splitOn_append_cons_self,
    splitOn_unlines (List.forall_mem_append.mpr ⟨body, wrapper⟩),
    flatten_blocks, leadingLines, List.append_assoc, List.append_assoc, List.append_assoc]

end IspcShader
