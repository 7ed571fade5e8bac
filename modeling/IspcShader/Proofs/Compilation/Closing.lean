import IspcShader.Proofs.Compilation.Output
import IspcShader.Proofs.Lowering.Closing
import IspcShader.Proofs.Declaration.Reading

/-!
The end of a struct block. A line with a brace and a semicolon ends the block and hands them on,
except that a member on the same line comes first: it takes the place of the line, and where it only
carries a semantic the line is gone before its end is seen.
-/
namespace IspcShader

open Text

namespace Marker

theorem closesStruct_iff {line : Text} : closesStruct line = true ↔ ['\x7d', ';'] <:+: line :=
  contains_iff

theorem closesStruct_of_not_mem {line : Text} (absent : '\x7d' ∉ line) :
    closesStruct line = false := by
  rw [Bool.eq_false_iff]
  intro closes
  exact absent ((closesStruct_iff.mp closes).subset List.mem_cons_self)

end Marker

namespace Declaration

/-- The opening line keeps a closing that stands on the line of the `STRUCT`, be it between the
parentheses or behind them. -/
theorem Struct.infix_openingLine {declaration : Struct} {line : Text}
    (found : Struct.read line = some (.ok declaration)) (closes : ['\x7d', ';'] <:+: line) :
    ['\x7d', ';'] <:+: declaration.openingLine line := by
  obtain ⟨args, called, built⟩ := Kind.read_eq_ok_iff.mp found
  obtain ⟨inside, after, whole, arguments⟩ := Kind.exists_append_of_args? called
  have named : declaration.name = trim inside :=
    Macro.eq_trim_of_arguments (arguments.trans (eq_singleton_of_ofArgs? built))
  have absent : '\x7d' ∉ leadingBlanks line ++ (Kind.struct.keyword ++ "(") := by
    rw [List.mem_append, not_or]
    exact ⟨not_mem_leadingBlanks (by decide), by decide⟩
  rw [← whole, infix_append_cons_iff (by decide) (by decide),
    infix_append_right_iff absent] at closes
  rcases closes with inner | behind
  · have kept : ['\x7d', ';'] <:+: declaration.name := by
      rw [named]
      exact (infix_trim_iff (by decide) (by decide)).mpr inner
    exact kept.trans ((List.suffix_append _ _).isInfix.trans (List.prefix_append _ _).isInfix)
  · -- the first closing parenthesis may stand in front of the one that closes the call
    have rest : after <:+ (line.dropWhile (· != ')')).drop 1 := by
      conv => rhs; rw [← whole]
      exact suffix_drop_dropWhile ')' _ after
    have kept : ['\x7d', ';'] <:+: trimEnd ((line.dropWhile (· != ')')).drop 1) :=
      (@infix_trimEnd_iff ';' ['\x7d'] _ (by decide)).mpr (behind.trans rest.isInfix)
    exact kept.trans (List.suffix_append _ _).isInfix

theorem Field.memberLine?_eq_none_iff_carries (field : Field) (indent : Text) (ignores : Bool)
    (capabilities : Capabilities) :
    field.memberLine? indent ignores capabilities = none ↔
      ¬ (field.semantic = none ∨ ignores = true) := by
  rw [Compilation.memberLine?_eq_none_iff, not_or, Bool.not_eq_true, Bool.and_eq_true,
    Option.isSome_iff_ne_none, Bool.not_eq_true']

theorem Field.infix_memberLine_iff {field : Field} {line member : Text} {ignores : Bool}
    {capabilities : Capabilities}
    (kept : field.memberLine? (leadingBlanks line) ignores capabilities = some member) :
    ['\x7d', ';'] <:+: member ↔
      ['\x7d', ';'] <:+: field.type ∨ ['\x7d', ';'] <:+: field.name ++ ";" := by
  unfold memberLine? at kept
  split at kept
  · cases kept
  · cases kept
    have absent : '\x7d' ∉ leadingBlanks line ++
        (if capabilities.isInvariant && field.isPosition then "precise " else "" : Text) := by
      rw [List.mem_append, not_or]
      refine ⟨not_mem_leadingBlanks (by decide), ?_⟩
      split <;> decide
    have regroup (front type name : Text) :
        front ++ type ++ " " ++ name ++ ";" = front ++ (type ++ ' ' :: (name ++ ";")) := by
      simp
    rw [regroup, infix_append_right_iff absent, infix_append_cons_iff (by decide) (by decide)]

end Declaration

namespace Compilation

/-- The end of a block as it is announced: two lines, the origin and one that holds the closing. -/
structure Outcome.Closes (outcome : Outcome) (number : Nat) : Prop where
  outside : outcome.state.mode = .outside
  lines : ∃ close, outcome.lines = ["//line " ++ Text.ofNat number, close] ∧
    contains "\x7d;" close = true

section Closing

variable {job : Job} {state : State} {source : NumberedLine}

theorem Draft.infix_openStruct_line (closes : ['\x7d', ';'] <:+: source.text) :
    ['\x7d', ';'] <:+: (Draft.openStruct job source { state, line := source.text }).line := by
  unfold openStruct
  split
  · exact closes
  · exact closes
  · next declaration found => exact declaration.infix_openingLine found closes

theorem isInside_openedMode {mode : BlockMode} {line : Text} (inside : mode.isInside = true) :
    (openedMode job mode line).isInside = true := by
  unfold openedMode
  split
  · rfl
  · exact inside

theorem Draft.exists_member? (draft : Draft) (job : Job)
    (unread : ∀ field, Declaration.Field.read source.text ≠ some (.ok field)) :
    ∃ after, draft.member? job source = some after ∧ after.line = draft.line := by
  unfold member?
  split
  · exact ⟨draft, rfl, rfl⟩
  · next fault _ => exact ⟨draft.warn source fault, rfl, rfl⟩
  · next field found => exact absurd found (unread field)

/-- A line without a member ends the block, whatever else stands on it. -/
theorem closes_of_no_field (inside : state.mode.isInside = true)
    (closes : Marker.closesStruct source.text = true)
    (statement : Marker.isDirective source.text = false)
    (unread : ∀ field, Declaration.Field.read source.text ≠ some (.ok field)) :
    (step job state source).Closes source.number := by
  let draft := Draft.openStruct job source { state, line := source.text }
  have opened : draft.state.mode.isInside = true := by
    rw [Draft.openStruct_state]
    exact isInside_openedMode inside
  have held : ['\x7d', ';'] <:+: draft.line :=
    Draft.infix_openStruct_line (Marker.closesStruct_iff.mp closes)
  obtain ⟨after, member, same⟩ := draft.exists_member? job unread
  have ended : step job state source = after.close source := by
    simp only [step, Draft.passBlock, statement, Bool.false_eq_true, if_false]
    change (if draft.state.mode.isInside then _ else _) = _
    rw [if_pos opened, member]
    dsimp only
    rw [if_pos closes, id]
  rw [ended]
  refine ⟨rfl, _, rfl, ?_⟩
  rw [contains_iff, same]
  exact (Lowering.infix_lower_iff _).mpr held

theorem step_of_field {field : Declaration.Field} (inside : state.mode.isInside = true)
    (statement : Marker.isDirective source.text = false)
    (found : Declaration.Field.read source.text = some (.ok field)) :
    step job state source =
      match field.memberLine? (leadingBlanks source.text) state.mode.ignoresSemantics
        job.binary.capabilities with
      | none => { state }
      | some member =>
        if Marker.closesStruct source.text then Draft.close source { state, line := member }
        else Draft.finish job source { state, line := member } := by
  have unopened : Declaration.Struct.read source.text = none :=
    Declaration.Kind.read_eq_none_of_read found (by decide)
  simp only [step, Draft.passBlock, statement, Bool.false_eq_true, if_false,
    Draft.openStruct, unopened, inside, if_true, Draft.member?, found]
  cases field.memberLine? (leadingBlanks source.text) state.mode.ignoresSemantics
    job.binary.capabilities with
  | none => rfl
  | some member => rfl

/-- A member leaves the block where it is kept, and the closing is lost even then, unless the member
itself brings it. -/
theorem closes_of_field_iff {field : Declaration.Field} (inside : state.mode.isInside = true)
    (closes : Marker.closesStruct source.text = true)
    (statement : Marker.isDirective source.text = false)
    (found : Declaration.Field.read source.text = some (.ok field)) :
    ((step job state source).state.mode = .outside ↔
        field.semantic = none ∨ state.mode.ignoresSemantics = true) ∧
      ((step job state source).Closes source.number ↔
        (field.semantic = none ∨ state.mode.ignoresSemantics = true) ∧
          (contains "\x7d;" field.type = true ∨ contains "\x7d;" (field.name ++ ";") = true)) := by
  rw [step_of_field inside statement found]
  have drops := field.memberLine?_eq_none_iff_carries (leadingBlanks source.text)
    state.mode.ignoresSemantics job.binary.capabilities
  cases line : field.memberLine? (leadingBlanks source.text) state.mode.ignoresSemantics
    job.binary.capabilities with
  | none =>
    have dropped := drops.mp line
    have stays : state.mode ≠ .outside := by
      intro outside
      rw [outside] at inside
      cases inside
    exact ⟨iff_of_false stays dropped,
      iff_of_false (fun done => stays done.outside) fun h => dropped h.1⟩
  | some member =>
    have kept : field.semantic = none ∨ state.mode.ignoresSemantics = true := by
      apply Classical.not_not.mp
      intro dropped
      rw [drops.mpr dropped] at line
      cases line
    dsimp only
    rw [if_pos closes, contains_iff, contains_iff]
    refine ⟨iff_of_true rfl kept, ?_⟩
    have held := (Lowering.infix_lower_iff member).trans (field.infix_memberLine_iff line)
    constructor
    · rintro ⟨-, close, same, closing⟩
      obtain ⟨-, tail⟩ := List.cons.inj same
      obtain ⟨rfl, -⟩ := List.cons.inj tail
      exact ⟨kept, held.mp (contains_iff.mp closing)⟩
    · rintro ⟨-, brings⟩
      exact ⟨rfl, Lowering.lower member, rfl, contains_iff.mpr (held.mpr brings)⟩

end Closing

/-- What a block remembers about semantics is whether its struct belongs to the interface. -/
def Remembers (job : Job) : BlockMode → Prop
  | .outside => True
  | .inside name ignores => ignores = !job.shader.isInterface name

theorem remembers_openedMode {job : Job} {mode : BlockMode} (h : Remembers job mode) (line : Text) :
    Remembers job (openedMode job mode line) := by
  unfold openedMode
  split
  · rfl
  · exact h

theorem remembers_step {job : Job} {state : State} (h : Remembers job state.mode)
    (source : NumberedLine) : Remembers job (step job state source).state.mode := by
  rw [step_state]
  cases fate job state.mode source.text with
  | dropped => exact remembers_openedMode h source.text
  | closing => exact trivial
  | kept => exact remembers_openedMode h source.text

theorem remembers_run {job : Job} {state : State} (h : Remembers job state.mode)
    (lines : List NumberedLine) : Remembers job (run job state lines).state.mode := by
  induction lines generalizing state with
  | nil => exact h
  | cons source rest ih => exact ih (remembers_step h source)

/-- A closing inside the struct `name` is seen unless its line is a member that the interface takes
away, and it is handed on unless its line is a member at all; only a type or a name that brings the
closing along makes up for that. -/
theorem closes_iff_of_run {job : Job} {lines : List NumberedLine}
    {source : NumberedLine} {name : Text} {ignores : Bool}
    (inside : (run job {} lines).state.mode = .inside name ignores)
    (closes : Marker.closesStruct source.text = true)
    (statement : Marker.isDirective source.text = false) :
    let outcome := step job (run job {} lines).state source
    (outcome.state.mode = .outside ↔
        ∀ field, Declaration.Field.read source.text = some (.ok field) →
          field.semantic = none ∨ job.shader.isInterface name = false) ∧
      (outcome.Closes source.number ↔
        ∀ field, Declaration.Field.read source.text = some (.ok field) →
          (field.semantic = none ∨ job.shader.isInterface name = false) ∧
            (contains "\x7d;" field.type = true ∨
              contains "\x7d;" (field.name ++ ";") = true)) := by
  intro outcome
  have start : Remembers job ({} : State).mode := trivial
  have remembers := remembers_run start lines
  rw [inside] at remembers
  have within : (run job {} lines).state.mode.isInside = true := by
    rw [inside]
    rfl
  have ignored : (run job {} lines).state.mode.ignoresSemantics = true ↔
      job.shader.isInterface name = false := by
    rw [inside, BlockMode.ignoresSemantics, show ignores = _ from remembers, Bool.not_eq_true']
  by_cases member : ∃ field, Declaration.Field.read source.text = some (.ok field)
  · obtain ⟨field, found⟩ := member
    have only {P : Declaration.Field → Prop} :
        (∀ other, Declaration.Field.read source.text = some (.ok other) → P other) ↔ P field := by
      rw [found]
      constructor
      · intro h
        exact h field rfl
      · intro h other same
        cases same
        exact h
    rw [only, only, ← ignored]
    exact closes_of_field_iff within closes statement found
  · have unread : ∀ field, Declaration.Field.read source.text ≠ some (.ok field) :=
      fun field found =>
      member ⟨field, found⟩
    have done : outcome.Closes source.number := closes_of_no_field within closes statement unread
    constructor
    · exact iff_of_true done.outside fun field found => absurd found (unread field)
    · exact iff_of_true done fun field found => absurd found (unread field)

theorem closes_iff_of_run_light :
    let job : Job :=
      { shader := { name := "s", stage := .vert, returnType := some "VSOutput" }
        binary := { filename := "test.vert" }
        options := {} }
    let lines : List NumberedLine := [⟨0, 1, "STRUCT(Light)"⟩, ⟨0, 2, "\x7b"⟩]
    let source : NumberedLine := ⟨0, 3, "    DATA(float4, Color, COLOR0); \x7d;"⟩
    (run job {} lines).state.mode = .inside "Light" true ∧
      Marker.closesStruct source.text = true ∧ Marker.isDirective source.text = false ∧
      let outcome := step job (run job {} lines).state source
      (outcome.state.mode = .outside ↔
          ∀ field, Declaration.Field.read source.text = some (.ok field) →
            field.semantic = none ∨ job.shader.isInterface "Light" = false) ∧
        (outcome.Closes source.number ↔
          ∀ field, Declaration.Field.read source.text = some (.ok field) →
            (field.semantic = none ∨ job.shader.isInterface "Light" = false) ∧
              (contains "\x7d;" field.type = true ∨
                contains "\x7d;" (field.name ++ ";") = true)) := by
  intro job lines source
  have inside : (run job {} lines).state.mode = .inside "Light" true := by decide +kernel
  have closes : Marker.closesStruct source.text = true := by decide +kernel
  have statement : Marker.isDirective source.text = false := by decide +kernel
  exact ⟨inside, closes, statement, closes_iff_of_run inside closes statement⟩

/-- A member on the last line of a block. With a semantic of the interface it takes the end of the
block with it; without one the block ends, but its brace is not handed on. -/
theorem closing_lost_to_member :
    let job : Job :=
      { shader := { name := "s", stage := .vert, returnType := some "VSOutput" }
        binary := { filename := "test.vert" }
        options := {} }
    let state := (run job {} [⟨0, 1, "STRUCT(VSOutput)"⟩, ⟨0, 2, "\x7b"⟩]).state
    let dropped : NumberedLine := ⟨0, 3, "    DATA(float4, Position, SV_Position); \x7d;"⟩
    let kept : NumberedLine := ⟨0, 3, "    DATA(float4, Position, None); \x7d;"⟩
    state.mode.isInside = true ∧
      (Marker.closesStruct dropped.text = true ∧ Marker.isDirective dropped.text = false ∧
        step job state dropped = { state } ∧ ¬ (step job state dropped).Closes 3) ∧
      (Marker.closesStruct kept.text = true ∧ Marker.isDirective kept.text = false ∧
        (step job state kept).state.mode = .outside ∧
        (step job state kept).lines = [("//line 3" : Text), "    float<4> Position;"]) := by
  intro job state dropped kept
  have inside : state.mode.isInside = true := by decide +kernel
  have gone : step job state dropped = { state } := by decide +kernel
  have missed : ¬ (step job state dropped).Closes 3 := by
    intro done
    have outside := done.outside
    rw [gone] at outside
    dsimp only at outside
    rw [outside] at inside
    cases inside
  refine ⟨inside, ⟨?_, ?_, gone, missed⟩, ?_⟩ <;> decide +kernel

end Compilation

end IspcShader
