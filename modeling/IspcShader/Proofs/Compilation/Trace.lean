import IspcShader.Compilation.Basic
import IspcShader.Proofs.Compilation.Block
import IspcShader.Proofs.Compilation.SingleLine

/-!
The trace of a run. Each source line leaves one block of output lines, in the order of the source:
none, itself, itself behind its origin where it ends a struct, or an accessor, itself and its origin
where it declares storage. Which of these it is depends on the line and on the mode in front of it.
-/
namespace IspcShader

open Text

theorem Expansion.accessorFor_injective {a b : Text} (same : accessorFor a = accessorFor b) :
    a = b := by
  unfold accessorFor at same
  have lengths := congrArg List.length same
  simp only [List.length_append] at lengths
  exact List.append_inj_right' same (by omega)

namespace Compilation

/-- A line without a trace: a line directive, or a member of which nothing but a semantic is
left. -/
def IsDropped (job : Job) (mode : BlockMode) (line : Text) : Prop :=
  Marker.isDirective line = true ∨
    mode.isInside = true ∧ ∃ field, Declaration.Field.read line = some (.ok field) ∧
      field.memberLine? (leadingBlanks line) mode.ignoresSemantics job.binary.capabilities = none

/-- A line that ends a block, be it one that is opened on this very line. -/
def EndsBlock (mode : BlockMode) (line : Text) : Prop :=
  (mode.isInside = true ∨ ∃ declaration, Declaration.Struct.read line = some (.ok declaration)) ∧
    contains "\x7d;" line = true

/-- A line that declares storage whose name is `base`, array brackets apart. -/
def Declares (line base : Text) : Prop :=
  (∃ declaration, Declaration.Resource.read line = some (.ok declaration) ∧
      Macro.arrayBase declaration.name = base) ∨
    ∃ declaration, Declaration.Shared.read line = some (.ok declaration) ∧
      Macro.arrayBase declaration.name = base

/-- The block of output lines that a source line leaves, given the mode in front of it. -/
structure IsTrace (job : Job) (mode : BlockMode) (source : NumberedLine)
    (block : List Text) : Prop where
  dropped : block = [] ↔ IsDropped job mode source.text
  closing : (∃ line, block = ["//line " ++ Text.ofNat source.number, line]) ↔
    ¬ IsDropped job mode source.text ∧ EndsBlock mode source.text
  expanded : ∀ base : Text,
    (∃ line, block =
        ["#define _Get" ++ base ++ " " ++ base, line, "//line " ++ Text.ofNat source.number]) ↔
      ¬ IsDropped job mode source.text ∧ ¬ EndsBlock mode source.text ∧ Declares source.text base
  plain : (∃ line, block = [line]) ↔
    ¬ IsDropped job mode source.text ∧ ¬ EndsBlock mode source.text ∧
      ∀ base, ¬ Declares source.text base
  untouched : ¬ IsDropped job mode source.text → Declaration.Struct.read source.text = none →
    Declaration.Field.read source.text = none → IsQuiet source.text →
      Lowering.lower source.text ∈ block

section Fate

variable {job : Job} {mode : BlockMode} {line : Text}

theorem isInside_openedMode_iff : (openedMode job mode line).isInside = true ↔
    mode.isInside = true ∨
      ∃ declaration, Declaration.Struct.read line = some (.ok declaration) := by
  rcases read : Declaration.Struct.read line with _ | (fault | declaration) <;>
    simp [openedMode, read, BlockMode.isInside]

/-- A member opens no block, so the mode in front of it is the one that counts. -/
theorem dropsMember_openedMode_iff :
    (openedMode job mode line).isInside = true ∧
      dropsMember (openedMode job mode line) line = true ↔
      mode.isInside = true ∧ ∃ field, Declaration.Field.read line = some (.ok field) ∧
        field.memberLine? (leadingBlanks line) mode.ignoresSemantics
          job.binary.capabilities = none := by
  rcases read : Declaration.Field.read line with _ | (fault | field)
  · simp [dropsMember, read]
  · simp [dropsMember, read]
  · have unopened : Declaration.Struct.read line = none :=
      Declaration.Kind.read_eq_none_of_read read (by decide)
    simp [openedMode, unopened, dropsMember, read, memberLine?_eq_none_iff]

theorem fate_eq_dropped_iff : fate job mode line = .dropped ↔ IsDropped job mode line := by
  unfold IsDropped
  rw [← dropsMember_openedMode_iff]
  unfold fate
  cases Marker.isDirective line <;> cases (openedMode job mode line).isInside <;>
    cases dropsMember (openedMode job mode line) line <;> cases Marker.closesStruct line <;> simp

theorem fate_eq_closing_iff :
    fate job mode line = .closing ↔ ¬ IsDropped job mode line ∧ EndsBlock mode line := by
  unfold IsDropped EndsBlock
  rw [← dropsMember_openedMode_iff, ← isInside_openedMode_iff]
  change _ ↔ _ ∧ _ ∧ Marker.closesStruct line = true
  unfold fate
  cases Marker.isDirective line <;> cases (openedMode job mode line).isInside <;>
    cases dropsMember (openedMode job mode line) line <;> cases Marker.closesStruct line <;> simp

theorem fate_eq_kept_iff :
    fate job mode line = .kept ↔ ¬ IsDropped job mode line ∧ ¬ EndsBlock mode line := by
  rw [← fate_eq_dropped_iff]
  have closing := @fate_eq_closing_iff job mode line
  rw [← fate_eq_dropped_iff] at closing
  revert closing
  cases fate job mode line <;> simp

end Fate

theorem exists_expansion_of_declares (job : Job) {line base : Text} (h : Declares line base) :
    ∃ expansion, expansion? job line = some expansion ∧
      expansion.accessor = Expansion.accessorFor base := by
  rcases h with ⟨declaration, read, rfl⟩ | ⟨declaration, read, rfl⟩
  · exact ⟨_, by rw [expansion?, read], rfl⟩
  · have other : Declaration.Resource.read line = none :=
      Declaration.Kind.read_eq_none_of_read read (by decide)
    exact ⟨_, by rw [expansion?, other, read], rfl⟩

theorem exists_declares_of_expansion {job : Job} {line : Text} {expansion : Expansion}
    (h : expansion? job line = some expansion) :
    ∃ base, Declares line base ∧ expansion.accessor = Expansion.accessorFor base := by
  unfold expansion? at h
  split at h
  · next declaration read =>
    cases h
    exact ⟨_, .inl ⟨declaration, read, rfl⟩, rfl⟩
  · split at h
    · next declaration read =>
      cases h
      exact ⟨_, .inr ⟨declaration, read, rfl⟩, rfl⟩
    · cases h

theorem Declares.unique {line a b : Text} (job : Job) (ha : Declares line a)
    (hb : Declares line b) : a = b := by
  obtain ⟨first, found, named⟩ := exists_expansion_of_declares job ha
  obtain ⟨second, again, renamed⟩ := exists_expansion_of_declares job hb
  obtain rfl : first = second := Option.some.inj (found.symm.trans again)
  exact Expansion.accessorFor_injective (named.symm.trans renamed)

namespace IsTrace

variable {job : Job} {mode : BlockMode} {source : NumberedLine} {line : Text}

-- The four kinds of blocks are told apart by their lengths.
theorem of_dropped (dropped : IsDropped job mode source.text) : IsTrace job mode source [] where
  dropped := iff_of_true rfl dropped
  closing := iff_of_false (fun ⟨_, same⟩ => nomatch same) fun h => h.1 dropped
  expanded _ := iff_of_false (fun ⟨_, same⟩ => nomatch same) fun h => h.1 dropped
  plain := iff_of_false (fun ⟨_, same⟩ => nomatch same) fun h => h.1 dropped
  untouched kept := absurd dropped kept

theorem of_closing (kept : ¬ IsDropped job mode source.text) (closes : EndsBlock mode source.text)
    (untouched : Declaration.Struct.read source.text = none →
      Declaration.Field.read source.text = none → line = Lowering.lower source.text) :
    IsTrace job mode source [originComment source, line] where
  dropped := iff_of_false (List.cons_ne_nil _ _) kept
  closing := iff_of_true ⟨_, rfl⟩ ⟨kept, closes⟩
  expanded _ :=
    iff_of_false (fun ⟨_, same⟩ => ne_of_apply_ne List.length (by simp) same) fun h => h.2.1 closes
  plain :=
    iff_of_false (fun ⟨_, same⟩ => ne_of_apply_ne List.length (by simp) same) fun h => h.2.1 closes
  untouched _ unopened unread _ := by
    rw [untouched unopened unread]
    exact List.mem_cons_of_mem _ List.mem_cons_self

theorem of_plain (kept : ¬ IsDropped job mode source.text) (inner : ¬ EndsBlock mode source.text)
    (undeclared : ∀ base, ¬ Declares source.text base)
    (untouched : Declaration.Struct.read source.text = none →
      Declaration.Field.read source.text = none → IsQuiet source.text →
        line = Lowering.lower source.text) :
    IsTrace job mode source [line] where
  dropped := iff_of_false (List.cons_ne_nil _ _) kept
  closing :=
    iff_of_false (fun ⟨_, same⟩ => ne_of_apply_ne List.length (by simp) same) fun h => inner h.2
  expanded base :=
    iff_of_false (fun ⟨_, same⟩ => ne_of_apply_ne List.length (by simp) same) fun h =>
      undeclared base h.2.2
  plain := iff_of_true ⟨_, rfl⟩ ⟨kept, inner, undeclared⟩
  untouched _ unopened unread quiet := by
    rw [untouched unopened unread quiet]
    exact List.mem_cons_self

theorem of_expanded {base : Text} (kept : ¬ IsDropped job mode source.text)
    (inner : ¬ EndsBlock mode source.text) (declares : Declares source.text base) :
    IsTrace job mode source [Expansion.accessorFor base, line, originComment source] where
  dropped := iff_of_false (List.cons_ne_nil _ _) kept
  closing :=
    iff_of_false (fun ⟨_, same⟩ => ne_of_apply_ne List.length (by simp) same) fun h => inner h.2
  expanded other := by
    constructor
    · rintro ⟨_, same⟩
      have named : base = other := Expansion.accessorFor_injective (List.cons.inj same).1
      exact ⟨kept, inner, named ▸ declares⟩
    · rintro ⟨-, -, again⟩
      rw [again.unique job declares]
      exact ⟨_, rfl⟩
  plain := iff_of_false (fun ⟨_, same⟩ => ne_of_apply_ne List.length (by simp) same) fun h =>
    h.2.2 base declares
  untouched _ _ _ quiet := by
    -- a quiet line declares no storage
    rcases declares with ⟨_, read, -⟩ | ⟨_, read, -⟩
    · exact nomatch read.symm.trans quiet.resource
    · exact nomatch read.symm.trans quiet.shared

end IsTrace

theorem blockDraft_line {job : Job} {state : State} {source : NumberedLine}
    (unopened : Declaration.Struct.read source.text = none)
    (unread : Declaration.Field.read source.text = none) :
    (blockDraft job state source).line = source.text := by
  simp only [blockDraft, openedLine, memberLine, unopened, unread, ite_self]

theorem keptLine_of_isQuiet {job : Job} {source : NumberedLine} (quiet : IsQuiet source.text)
    (draft : Draft) : keptLine job source draft = draft.line := by
  rw [keptLine_of_unmarked quiet.entry quiet.plain quiet.hint]
  simp only [expansion?, quiet.resource, quiet.shared, Option.map_none, Option.getD_none]

theorem isTrace_step (job : Job) (state : State) (source : NumberedLine) :
    IsTrace job state.mode source (step job state source).lines := by
  rw [step_eq]
  cases fated : fate job state.mode source.text with
  | dropped => exact .of_dropped (fate_eq_dropped_iff.mp fated)
  | closing =>
    obtain ⟨kept, closes⟩ := fate_eq_closing_iff.mp fated
    exact .of_closing kept closes fun unopened unread => by rw [blockDraft_line unopened unread]
  | kept =>
    obtain ⟨kept, inner⟩ := fate_eq_kept_iff.mp fated
    dsimp only
    rw [Draft.finish_lines job source _ rfl]
    cases found : expansion? job source.text with
    | some expansion =>
      obtain ⟨base, declares, accessor⟩ := exists_declares_of_expansion found
      dsimp only
      rw [accessor]
      exact .of_expanded kept inner declares
    | none =>
      refine .of_plain kept inner ?_ ?_
      · intro base declares
        obtain ⟨expansion, declared, -⟩ := exists_expansion_of_declares job declares
        rw [found] at declared
        cases declared
      · intro unopened unread quiet
        rw [keptLine_of_isQuiet quiet, blockDraft_line unopened unread]

/-- The lines of a run, each with the state that it is met in. -/
def visits (job : Job) : State → List NumberedLine → List (State × NumberedLine)
  | _, [] => []
  | state, source :: rest => (state, source) :: visits job (step job state source).state rest

section Visits

variable (job : Job) (state : State)

theorem length_visits (lines : List NumberedLine) :
    (visits job state lines).length = lines.length := by
  induction lines generalizing state with
  | nil => rfl
  | cons source rest ih => rw [visits, List.length_cons, ih, List.length_cons]

theorem visits_append (front back : List NumberedLine) :
    visits job state (front ++ back) =
      visits job state front ++ visits job (run job state front).state back := by
  induction front generalizing state with
  | nil => rfl
  | cons source rest ih => rw [List.cons_append, visits, ih, visits, List.cons_append, run]

theorem run_lines (lines : List NumberedLine) :
    (run job state lines).lines =
      (visits job state lines).flatMap fun visit => (step job visit.1 visit.2).lines := by
  induction lines generalizing state with
  | nil => rfl
  | cons source rest ih => rw [visits, List.flatMap_cons, ← ih, run]

theorem getElem?_visits (front : List NumberedLine) (source : NumberedLine)
    (rest : List NumberedLine) : (visits job state (front ++ source :: rest))[front.length]? =
      some ((run job state front).state, source) := by
  have behind : front.length = (visits job state front).length :=
    (length_visits job state front).symm
  rw [visits_append, behind, List.getElem?_append_right (Nat.le_refl _), Nat.sub_self, visits]
  rfl

def blocks (lines : List NumberedLine) : List (List Text) :=
  (visits job state lines).map fun visit => (step job visit.1 visit.2).lines

theorem flatten_blocks (lines : List NumberedLine) :
    (blocks job state lines).flatten = (run job state lines).lines := by
  rw [blocks, run_lines, List.flatMap_def]

theorem getElem?_blocks {lines front rest : List NumberedLine} {source : NumberedLine}
    (split : lines = front ++ source :: rest) :
    (blocks job state lines)[front.length]? =
      some (step job (run job state front).state source).lines := by
  rw [split, blocks, List.getElem?_map, getElem?_visits, Option.map_some]

end Visits

theorem wrapperLines_eq (entry : Option EntryPoint) :
    wrapperLines entry = entry.elim [] fun entry => entry.wrapper.map Lowering.lower := by
  cases entry <;> rfl

end Compilation

open Compilation

/-- The source is the prologue, one block for each line of the shader in their order, and the
lowered wrapper; no line of a block is broken. -/
theorem source_eq_trace (job : Job) (header : Header)
    (single : ∀ source ∈ job.shader.lines, '\n' ∉ source.text) :
    ∃ blocks : List (List Text),
      (compile job header).source =
          (prologue job header ++ blocks.flatten ++
            (compile job header).entry.elim [] fun entry =>
              entry.wrapper.map Lowering.lower).flatMap (· ++ ['\n']) ∧
        blocks.length = job.shader.lines.length ∧
        (∀ block ∈ blocks, ∀ line ∈ block, '\n' ∉ line) ∧
        ∀ front source rest, job.shader.lines = front ++ source :: rest →
          ∃ block, blocks[front.length]? = some block ∧
            IsTrace job (run job {} front).state.mode source block := by
  refine ⟨blocks job {} job.shader.lines, ?_, ?_, ?_, ?_⟩
  · rw [flatten_blocks, ← wrapperLines_eq]
    rfl
  · rw [blocks, List.length_map, length_visits]
  · intro block listed line member
    refine @isLine_of_mem_run job {} job.shader.lines single
      (fun resource none => nomatch none) line ?_
    rw [← flatten_blocks]
    exact List.mem_flatten.mpr ⟨block, listed, member⟩
  · intro front source rest split
    exact ⟨_, getElem?_blocks job {} split, isTrace_step job (run job {} front).state source⟩

/-- A directive, a struct with a member that is dropped and its end, a resource, and an entry
point. -/
theorem source_eq_trace_mixed :
    let job : Job :=
      { shader :=
          { name := "Mixed", stage := .vert, returnType := some "VSOutput"
            lines := [
              ⟨0, 1, "# 1 \"mixed.fsl\""⟩, ⟨0, 2, "STRUCT(VSOutput)"⟩, ⟨0, 3, "\x7b"⟩,
              ⟨0, 4, "    DATA(float4, Position, SV_Position);"⟩, ⟨0, 5, "\x7d;"⟩,
              ⟨0, 6, "RES(Buffer(float4), Lights[4], NONE, t0, 0);"⟩,
              ⟨0, 7, "VSOutput VS_MAIN()"⟩] }
        binary := { filename := "mixed.vert" }
        options := {} }
    let wrapper : List Text := [
      "export void VS_MAIN_MIXED(uniform const float<4> Lights_arg[], uniform uint dispatch_x, " ++
        "uniform uint dispatch_y, uniform uint dispatch_z) \x7b",
      "    Lights = Lights_arg;",
      "    uniform uint total_invocations = dispatch_x * dispatch_y * dispatch_z;",
      "    foreach (invocation = 0 ... total_invocations) \x7b",
      "        uint x = invocation % dispatch_x;",
      "        uint y = (invocation / dispatch_x) % dispatch_y;",
      "        uint z = invocation / (dispatch_x * dispatch_y);",
      "        VS_MAIN_MIXED_impl(Lights_arg);",
      "    \x7d",
      "\x7d"]
    let lines : List Text := [
      "// Mixed shader generated for ISPC from Mixed", "#define STAGE_VERT", "", "struct VSOutput",
      "\x7b", "//line 5", "\x7d;", "#define _GetLights Lights",
      "uniform const float<4> * uniform Lights; // RES(Buffer(float<4>), Lights[4], NONE, t0, 0);",
      "//line 6", "VSOutput VS_MAIN_MIXED_impl(uniform const float<4> Lights[])"]
    let source : Text := (lines ++ wrapper).flatMap (· ++ ['\n'])
    (∀ source ∈ job.shader.lines, '\n' ∉ source.text) ∧ (compile job ⟨[]⟩).source = source ∧
      ∃ blocks : List (List Text),
        source = (prologue job ⟨[]⟩ ++ blocks.flatten ++ wrapper).flatMap (· ++ ['\n']) ∧
          blocks.length = 7 ∧
          (∀ block ∈ blocks, ∀ line ∈ block, '\n' ∉ line) ∧
          ∀ front source rest, job.shader.lines = front ++ source :: rest →
            ∃ block, blocks[front.length]? = some block ∧
              IsTrace job (run job {} front).state.mode source block := by
  intro job wrapper lines source
  have single : ∀ source ∈ job.shader.lines, '\n' ∉ source.text := by decide +kernel
  have wrapped : ((compile job ⟨[]⟩).entry.elim [] fun entry => entry.wrapper.map Lowering.lower) =
      wrapper := by
    decide +kernel
  have compiled : (compile job ⟨[]⟩).source = source := by decide +kernel
  obtain ⟨blocks, joined, rest⟩ := source_eq_trace job ⟨[]⟩ single
  rw [compiled, wrapped] at joined
  exact ⟨single, compiled, blocks, joined, rest⟩

end IspcShader
