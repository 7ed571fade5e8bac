import IspcShader.Proofs.Compilation.Closing
import IspcShader.Proofs.Compilation.Lockstep
import IspcShader.Proofs.Lowering.Append

/-!
What hangs on the capabilities of the binary. They are asked for one thing only, whether the
position is invariant, and that only where a position member is written out. Two compilations that
differ in this go through the same states and give lines that differ in the word `precise` at most.
-/
namespace IspcShader

open Text

def Job.recast (job : Job) (capabilities : Capabilities) (waveOps : WaveOps) : Job :=
  { job with binary := { job.binary with capabilities, waveOps } }

/-- An invariant position makes a difference to a member that holds the position and stays. -/
theorem Declaration.Field.memberLine?_precise (field : Field) (indent : Text) (ignores : Bool)
    {plain invariant : Capabilities} (off : plain.isInvariant = false)
    (on : invariant.isInvariant = true) :
    field.memberLine? indent ignores invariant = field.memberLine? indent ignores plain ∨
      ∃ back semantic, field.semantic = some semantic ∧
        sameIgnoringCase semantic "SV_Position" = true ∧
        ignores = true ∧ field.memberLine? indent ignores plain = some (indent ++ back) ∧
        field.memberLine? indent ignores invariant = some (indent ++ "precise " ++ back) := by
  unfold memberLine?
  by_cases drops : (field.semantic.isSome && !ignores) = true
  · exact .inl (by rw [if_pos drops, if_pos drops])
  rw [if_neg drops, if_neg drops, off, on, Bool.false_and, Bool.true_and]
  cases position : field.isPosition with
  | false => exact .inl rfl
  | true =>
    unfold isPosition at position
    cases carried : field.semantic with
    | none =>
      rw [carried] at position
      cases position
    | some semantic =>
      rw [carried] at position drops
      have kept : ignores = true := by simpa using drops
      refine .inr ⟨field.type ++ " " ++ field.name ++ ";", semantic, rfl, position, kept, ?_, ?_⟩
      · simp only [List.append_assoc]
        rfl
      · simp only [if_true, List.append_assoc]

namespace Compilation

/-- Two lines that are the same, or of which the second has the word `precise` besides. -/
def GainsPrecise (line stressed : Text) : Prop :=
  stressed = line ∨ ∃ front back, line = front ++ back ∧ stressed = front ++ "precise " ++ back

/-- The blocks that one source line leaves without and with an invariant position, given the mode in
front of it. Only a member that holds the position, in a struct that is no part of the interface,
makes a difference, and only in the last line of its block. -/
inductive StressesPosition (shader : Shader) (mode : BlockMode) (source : NumberedLine) :
    List Text → List Text → Prop
  | same (block : List Text) : StressesPosition shader mode source block block
  | position {name : Text} {ignores : Bool} {field : Declaration.Field} {semantic : Text}
      (inside : mode = .inside name ignores) (own : shader.isInterface name = false)
      (read : Declaration.Field.read source.text = some (.ok field))
      (carried : field.semantic = some semantic)
      (position : sameIgnoringCase semantic "SV_Position" = true)
      (before : List Text) (front back : Text) :
      StressesPosition shader mode source (before ++ [front ++ back])
        (before ++ [front ++ "precise " ++ back])

section Recast

variable (job : Job) (capabilities : Capabilities) (waveOps : WaveOps) (state : State)
  (source : NumberedLine)

theorem step_recast : step (job.recast capabilities waveOps) state source =
    match fate job state.mode source.text with
    | .dropped => { state := { state with mode := openedMode job state.mode source.text } }
    | .closing =>
      { blockDraft job state source with
        line := (blockDraft (job.recast capabilities waveOps) state source).line }.close source
    | .kept =>
      { blockDraft job state source with
        line :=
          (blockDraft (job.recast capabilities waveOps) state source).line }.finish job source :=
  step_eq (job.recast capabilities waveOps) state source

theorem step_state_recast :
    (step (job.recast capabilities waveOps) state source).state = (step job state source).state :=
  (step_state ..).trans (step_state job state source).symm

theorem step_events_recast :
    (step (job.recast capabilities waveOps) state source).events =
      (step job state source).events := by
  rw [step_recast, step_eq]
  cases fate job state.mode source.text with
  | dropped => rfl
  | closing => rfl
  | kept => simp only [Draft.finish_events]

theorem step_recast_of_isInvariant
    (same : capabilities.isInvariant = job.binary.capabilities.isInvariant) :
    step (job.recast capabilities waveOps) state source = step job state source := by
  have line : (blockDraft (job.recast capabilities waveOps) state source).line =
      (blockDraft job state source).line := by
    simp only [blockDraft, memberLine, Declaration.Field.memberLine?, Job.recast, same]
    rfl
  refine (step_recast ..).trans ?_
  rw [line]
  exact (step_eq job state source).symm

variable {job state source} {capabilities}

/-- The draft of a line is the same with an invariant position, unless the line is a position member
that stays; then the word stands behind the indentation. -/
theorem blockDraft_line_recast (remembers : Remembers job state.mode)
    (plain : job.binary.capabilities.isInvariant = false)
    (invariant : capabilities.isInvariant = true) :
    (blockDraft (job.recast capabilities waveOps) state source).line =
      (blockDraft job state source).line ∨
      ∃ name ignores field semantic back, state.mode = .inside name ignores ∧
        job.shader.isInterface name = false ∧
        Declaration.Field.read source.text = some (.ok field) ∧ field.semantic = some semantic ∧
        sameIgnoringCase semantic "SV_Position" = true ∧
        (blockDraft job state source).line = leadingBlanks source.text ++ back ∧
        (blockDraft (job.recast capabilities waveOps) state source).line =
          leadingBlanks source.text ++ "precise " ++ back := by
  rcases read : Declaration.Field.read source.text with _ | (fault | field)
  · left
    simp only [blockDraft, memberLine, read]
    rfl
  · left
    simp only [blockDraft, memberLine, read]
    rfl
  have unopened : Declaration.Struct.read source.text = none :=
    Declaration.Kind.read_eq_none_of_read read (by decide)
  have mode (other : Job) : openedMode other state.mode source.text = state.mode := by
    simp only [openedMode, unopened]
  simp only [blockDraft, memberLine, read, mode]
  cases inside : state.mode with
  | outside => exact .inl rfl
  | inside name ignores =>
    rw [inside] at remembers
    rcases field.memberLine?_precise (leadingBlanks source.text) ignores plain invariant with
      same | ⟨back, semantic, carried, position, rfl, before, after⟩
    · exact .inl (congrArg (·.getD (openedLine source.text)) same)
    · -- the mode keeps semantics out only of structs that are no part of the interface
      have own : job.shader.isInterface name = false := by
        simpa using (show true = _ from remembers)
      exact .inr ⟨name, true, field, semantic, back, rfl, own, rfl, carried, position,
        congrArg (·.getD (openedLine source.text)) before,
        congrArg (·.getD (openedLine source.text)) after⟩

theorem enteredLine_shape (job : Job) (source : NumberedLine) (state : State) :
    (∃ text, ∀ before, enteredLine job source state before = text) ∨
      ∀ before, enteredLine job source state before = before := by
  unfold enteredLine
  cases entered job source state.resources with
  | none =>
    by_cases returns : Marker.isReturn source.text = true
    · exact .inl ⟨_, fun _ => if_pos returns⟩
    · exact .inr fun _ => if_neg returns
  | some entry =>
    cases state.entry with
    | none => exact .inl ⟨entry.line, fun _ => rfl⟩
    | some _ => exact .inr fun _ => rfl

/-- Where no storage is declared, a kept line is replaced whatever its draft was, or it is its draft
behind some marks. -/
theorem keptLine_shape {job : Job} {source : NumberedLine}
    (nothing : expansion? job source.text = none) (draft : Draft) :
    (∃ text, ∀ line, keptLine job source { draft with line } = text) ∨
      ∃ marks : Text, (∀ c ∈ marks, isWordChar c = false) ∧
        ∀ line, keptLine job source { draft with line } = marks ++ line := by
  unfold keptLine
  simp only [nothing, Option.map_none, Option.getD_none]
  rcases enteredLine_shape job source
    { draft.state with resources := draft.state.resources ++ written source.text } with
      ⟨text, all⟩ | all
  · exact .inl ⟨if Marker.hasOutputHint source.text then "//" ++ text
      else text, fun line => by rw [all]⟩
  · cases Marker.hasOutputHint source.text with
    | false =>
      refine .inr ⟨[], List.forall_mem_nil _, ?_⟩
      intro line
      exact all line
    | true =>
      have slashes : ∀ c ∈ ("//" : Text), isWordChar c = false := by
        intro c member
        have slash : c = '/' := by simpa using member
        rw [slash]
        decide
      refine .inr ⟨"//", slashes, ?_⟩
      intro line
      rw [all, if_pos rfl]

theorem gainsPrecise_lower {marks : Text} (off : ∀ c ∈ marks, isWordChar c = false) (back : Text) :
    GainsPrecise (Lowering.lower (marks ++ back))
      (Lowering.lower (marks ++ "precise " ++ back)) := by
  have word : Lowering.lower "precise" = "precise" := by decide +kernel
  have behind :
      Lowering.lower ("precise" ++ ' ' :: back) = "precise" ++ ' ' :: Lowering.lower back := by
    rw [Lowering.lower_append (by decide), word]
  refine .inr ⟨marks, Lowering.lower back, Lowering.lower_marks_append off back, ?_⟩
  rw [List.append_assoc, Lowering.lower_marks_append off, List.append_assoc]
  exact congrArg (marks ++ ·) behind

theorem gainsPrecise_keptLine {job : Job} {source : NumberedLine}
    (nothing : expansion? job source.text = none) {indent back : Text}
    (off : ∀ c ∈ indent, isWordChar c = false) {draft : Draft}
    (line : draft.line = indent ++ back) : GainsPrecise (Lowering.lower (keptLine job source draft))
      (Lowering.lower (keptLine job source
        { draft with line := indent ++ "precise " ++ back })) := by
  -- an entry point or a return on the same line replaces the draft and the word with it
  rcases keptLine_shape nothing draft with ⟨text, all⟩ | ⟨marks, marked, all⟩
  · have without : keptLine job source draft = text := all draft.line
    exact .inl (by rw [without, all])
  · have without : keptLine job source draft = marks ++ draft.line := all draft.line
    have lead : ∀ c ∈ marks ++ indent, isWordChar c = false :=
      List.forall_mem_append.mpr ⟨marked, off⟩
    rw [without, all, line, ← List.append_assoc, ← List.append_assoc, ← List.append_assoc]
    exact gainsPrecise_lower lead back

theorem stressesPosition_step (remembers : Remembers job state.mode)
    (plain : job.binary.capabilities.isInvariant = false)
    (invariant : capabilities.isInvariant = true) :
    StressesPosition job.shader state.mode source (step job state source).lines
      (step (job.recast capabilities waveOps) state source).lines := by
  rw [step_recast]
  rcases @blockDraft_line_recast job _ waveOps state source remembers plain invariant with
    same | ⟨name, ignores, field, semantic, back, inside, own, read, carried, position,
      line, stressed⟩
  · rw [same, step_eq]
    cases fate job state.mode source.text <;> exact .same _
  have indent : ∀ c ∈ leadingBlanks source.text, isWordChar c = false := fun c member =>
    isWordChar_of_isBlank (List.all_eq_true.mp List.all_takeWhile c member)
  have ending (before : List Text) {last last' : Text} (gains : GainsPrecise last last') :
      StressesPosition job.shader state.mode source (before ++ [last]) (before ++ [last']) := by
    rcases gains with rfl | ⟨front, behind, rfl, rfl⟩
    · exact .same _
    · exact .position inside own read carried position before front behind
  rw [stressed, step_eq]
  cases fate job state.mode source.text with
  | dropped => exact .same _
  | closing =>
    dsimp only [Draft.close]
    rw [line]
    exact ending [originComment source] (gainsPrecise_lower indent back)
  | kept =>
    have nothing : expansion? job source.text = none := by
      have resource : Declaration.Resource.read source.text = none :=
        Declaration.Kind.read_eq_none_of_read read (by decide)
      have shared : Declaration.Shared.read source.text = none :=
        Declaration.Kind.read_eq_none_of_read read (by decide)
      simp only [expansion?, resource, shared]
    dsimp only
    rw [Draft.finish_lines _ _ _ rfl, Draft.finish_lines _ _ _ rfl, nothing]
    exact ending [] (gainsPrecise_keptLine nothing indent line)

end Recast

theorem gainsPrecise_refl (lines : List Text) : List.Forall₂ GainsPrecise lines lines :=
  List.forall₂_same.mpr fun _ _ => .inl rfl

theorem StressesPosition.gainsPrecise {shader : Shader} {mode : BlockMode} {source : NumberedLine}
    {block stressed : List Text} (h : StressesPosition shader mode source block stressed) :
    List.Forall₂ GainsPrecise block stressed := by
  cases h with
  | same => exact gainsPrecise_refl block
  | position _ _ _ _ _ before front back =>
    exact List.rel_append (gainsPrecise_refl before) (.cons (.inr ⟨front, back, rfl, rfl⟩) .nil)

theorem lockstep_recast (job : Job) (capabilities : Capabilities) (waveOps : WaveOps) :
    Lockstep job (job.recast capabilities waveOps) fun state other =>
      other = state ∧ Remembers job state.mode := by
  rintro state _ source ⟨rfl, remembers⟩
  exact ⟨⟨step_state_recast .., remembers_step remembers source⟩, step_events_recast ..⟩

theorem run_recast {job : Job} {capabilities : Capabilities} (waveOps : WaveOps) (state : State)
    (lines : List NumberedLine)
    (same : capabilities.isInvariant = job.binary.capabilities.isInvariant) :
    run (job.recast capabilities waveOps) state lines = run job state lines := by
  induction lines generalizing state with
  | nil => rfl
  | cons source rest ih => simp only [run, step_recast_of_isInvariant _ _ _ _ _ same, ih]

end Compilation

open Compilation

/-- Neither the wave operations of the binary nor any capability but the invariance of the position
have a part in a compilation. -/
theorem compile_recast {job : Job} {capabilities : Capabilities} (waveOps : WaveOps)
    (header : Header) (same : capabilities.isInvariant = job.binary.capabilities.isInvariant) :
    compile (job.recast capabilities waveOps) header = compile job header := by
  unfold compile
  rw [show (job.recast capabilities waveOps).shader = job.shader from rfl, run_recast _ _ _ same]
  rfl

/-- Without and with an invariant position, a shader has the same resources, entry point and events,
and its source has the same number of lines. A line may gain the word `precise`, but only where it
comes from a position member of a struct that is no part of the interface. No other capability
counts. -/
theorem compile_capabilities (shader : Shader) (binary : Binary) (options : Options)
    (header : Header) :
    let job (capabilities : Capabilities) : Job := ⟨shader, { binary with capabilities }, options⟩
    (∀ a b : Capabilities, a.isInvariant = b.isInvariant →
      compile (job a) header = compile (job b) header) ∧
      ((∀ source ∈ shader.lines, '\n' ∉ source.text) → ∀ a b : Capabilities,
        a.isInvariant = false → b.isInvariant = true →
        let plain := compile (job a) header
        let invariant := compile (job b) header
        invariant.resources = plain.resources ∧ invariant.entry = plain.entry ∧
          invariant.events = plain.events ∧
          List.Forall₂ GainsPrecise (plain.source.splitOn '\n') (invariant.source.splitOn '\n') ∧
          plain.source.splitOn '\n' = leadingLines (job a) header ++
            (blocks (job a) {} shader.lines).flatten ++
              ((plain.entry.elim [] fun entry => entry.wrapper.map Lowering.lower) ++ [[]]) ∧
          invariant.source.splitOn '\n' = leadingLines (job a) header ++
            (blocks (job b) {} shader.lines).flatten ++
              ((plain.entry.elim [] fun entry => entry.wrapper.map Lowering.lower) ++ [[]]) ∧
          ∀ front source rest, shader.lines = front ++ source :: rest →
            ∃ block block', (blocks (job a) {} shader.lines)[front.length]? = some block ∧
              (blocks (job b) {} shader.lines)[front.length]? = some block' ∧
              StressesPosition shader (run (job a) {} front).state.mode source block block') := by
  intro job
  refine ⟨fun a b same => @compile_recast (job b) a binary.waveOps header same, ?_⟩
  intro single a b off on plain invariant
  have lockstep := lockstep_recast (job a) b binary.waveOps
  have start : ({} : State) = {} ∧ Remembers (job a) ({} : State).mode := ⟨rfl, trivial⟩
  have state : (run (job b) {} shader.lines).state = (run (job a) {} shader.lines).state :=
    (lockstep.state_run start shader.lines).1
  have entry : invariant.entry = plain.entry := congrArg State.entry state
  have each (s t : State) (source : NumberedLine) (related : t = s ∧ Remembers (job a) s.mode) :
      StressesPosition shader s.mode source (step (job a) s source).lines
        (step (job b) t source).lines := by
    obtain ⟨rfl, remembers⟩ := related
    exact stressesPosition_step binary.waveOps remembers off on
  have body : List.Forall₂ (List.Forall₂ GainsPrecise) (blocks (job a) {} shader.lines)
      (blocks (job b) {} shader.lines) :=
    lockstep.forall₂_blocks (fun s t source related => (each s t source related).gainsPrecise)
      start _
  have lines : plain.source.splitOn '\n' = leadingLines (job a) header ++
      (blocks (job a) {} shader.lines).flatten ++
              ((plain.entry.elim [] fun entry => entry.wrapper.map Lowering.lower) ++ [[]]) :=
    (splitOn_source (job a) header single).trans (List.append_assoc ..)
  have lines' : invariant.source.splitOn '\n' = leadingLines (job a) header ++
      (blocks (job b) {} shader.lines).flatten ++
              ((plain.entry.elim [] fun entry => entry.wrapper.map Lowering.lower) ++ [[]]) := by
    rw [← entry]
    exact (splitOn_source (job b) header single).trans (List.append_assoc ..)
  refine ⟨congrArg State.resources state, entry, ?_, ?_, lines, lines', ?_⟩
  · exact congrArg₂ (· ++ ·) (lockstep.events_run start shader.lines)
      (congrArg (entryEvents shader) entry)
  · rw [lines, lines']
    exact List.rel_append (List.rel_append (gainsPrecise_refl _) (List.rel_flatten body))
      (gainsPrecise_refl _)
  · intro front source rest split
    exact ⟨_, _, getElem?_blocks _ _ split, getElem?_blocks _ _ split,
      each _ _ source (lockstep.state_run start front)⟩

theorem compile_capabilities_position :
    let shader : Shader :=
      { name := "Sky", stage := .vert, returnType := some "Out"
        lines := [
          ⟨0, 1, "STRUCT(Light)"⟩,
          ⟨0, 2, "  DATA(float4, pos, sv_position); // SET_OUTPUT_FORMAT(0)"⟩,
          ⟨0, 3, "\x7d;"⟩, ⟨0, 4, "STRUCT(Out)"⟩, ⟨0, 5, "  DATA(float4, pos, SV_Position)"⟩] }
    let compiled (capabilities : Capabilities) : Compiled :=
      compile ⟨shader, { filename := "sky.vert", capabilities }, {}⟩ ⟨[]⟩
    (∀ source ∈ shader.lines, '\n' ∉ source.text) ∧ compiled ⟨6⟩ = compiled ⟨0⟩ ∧
      (compiled ⟨7⟩).resources = (compiled ⟨6⟩).resources ∧
        (compiled ⟨7⟩).entry = (compiled ⟨6⟩).entry ∧
      (compiled ⟨7⟩).events = (compiled ⟨6⟩).events ∧
        (compiled ⟨7⟩).source ≠ (compiled ⟨6⟩).source ∧
      List.Forall₂ GainsPrecise ((compiled ⟨6⟩).source.splitOn '\n')
        ((compiled ⟨7⟩).source.splitOn '\n') := by
  intro shader compiled
  have single : ∀ source ∈ shader.lines, '\n' ∉ source.text := by decide +kernel
  have different : (compiled ⟨7⟩).source ≠ (compiled ⟨6⟩).source := by decide +kernel
  obtain ⟨others, stressed⟩ := compile_capabilities shader { filename := "sky.vert" } {} ⟨[]⟩
  obtain ⟨resources, entry, events, lines, -⟩ := stressed single ⟨6⟩ ⟨7⟩ (by decide) (by decide)
  exact ⟨single, others ⟨6⟩ ⟨0⟩ (by decide), resources, entry, events, different, lines⟩

end IspcShader
