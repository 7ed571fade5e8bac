import IspcShader.Proofs.Compilation.Member

/-!
Struct blocks as a whole. The lines of a block are taken one for one: the opening line, the brace,
each member that stays, and the closing line behind its origin. None of the other rules sees any of
them.
-/
namespace IspcShader

open Text

/-- A line on which the rules behind those of struct blocks find nothing. -/
structure IsQuiet (line : Text) : Prop where
  resource : Declaration.Resource.read line = none
  shared : Declaration.Shared.read line = none
  entry : EntryMarker.find? line = none
  plain : Marker.isReturn line = false
  hint : Marker.hasOutputHint line = false

namespace Compilation

theorem Draft.finish_of_isQuiet {source : NumberedLine} (quiet : IsQuiet source.text) (job : Job)
    {draft : Draft} (unexpanded : draft.accessors = []) :
    draft.finish job source =
      { state := draft.state, lines := [Lowering.lower draft.line], events := draft.events } := by
  simp only [finish, declareResource, quiet.resource, declareShared, quiet.shared,
    enter, quiet.entry, quiet.plain, hideHint, quiet.hint, emit, unexpanded,
    Bool.false_eq_true, if_false]
  rfl

end Compilation

/-- The only call on a line declares a struct or a member: nothing else is found there. -/
theorem IsQuiet.of_read {α : Type} {build : List Text → Option α} {kind : Declaration.Kind}
    {indent back : Text} {result : Except Declaration.Malformed α}
    (found : kind.read build (indent ++ (kind.keyword ++ '(' :: back)) = some result)
    (block : kind = .struct ∨ kind = .field) (blank : ∀ c ∈ indent, isBlank c = true)
    (only : '(' ∉ back) : IsQuiet (indent ++ (kind.keyword ++ '(' :: back)) := by
  have absent {c : Char} (solid : isBlank c = false) (unspelled : c ∉ kind.keyword) :
      c ∉ indent ++ kind.keyword := by
    intro member
    rcases List.mem_append.mp member with lead | spelled
    · rw [blank c lead] at solid
      cases solid
    · exact unspelled spelled
  have marks : '(' ∉ kind.keyword ∧ '_' ∉ kind.keyword := by
    rcases block with rfl | rfl <;> decide
  -- the other names that are looked for have an underscore in front of their parenthesis
  have uncalled {name : Text} (scored : '_' ∈ name) :
      ¬ name ++ ['('] <:+: indent ++ (kind.keyword ++ '(' :: back) := by
    rw [← List.append_assoc]
    intro called
    have ends := suffix_of_infix_concat (absent (by decide) marks.1) only called
    exact absent (by decide) marks.2 (ends.subset scored)
  constructor
  · exact Declaration.Kind.read_eq_none_of_read found (by rcases block with rfl | rfl <;> decide)
  · exact Declaration.Kind.read_eq_none_of_read found (by rcases block with rfl | rfl <;> decide)
  · have unmarked : ¬ ("_MAIN(" : Text) <:+: indent ++ (kind.keyword ++ '(' :: back) :=
      @uncalled "_MAIN" (by decide)
    rw [EntryMarker.find?, Option.map_eq_none_iff, ← Option.not_isSome_iff_eq_none]
    exact fun cut => unmarked (contains_iff.mp cut)
  · rw [Marker.isReturn, trimStart, List.dropWhile_append_of_pos blank]
    rcases block with rfl | rfl <;> rfl
  · have unhinted : ¬ ("SET_OUTPUT_FORMAT(" : Text) <:+: indent ++ (kind.keyword ++ '(' :: back) :=
      @uncalled "SET_OUTPUT_FORMAT" (by decide)
    exact contains_eq_false_iff.mpr unhinted

theorem Member.isQuiet_written (member : Member) : IsQuiet member.written := by
  have found := member.read_written
  rw [Member.written_eq] at found ⊢
  exact .of_read found (.inr rfl) member.isBlank_indent (member.not_mem_behind (.inl rfl))

section Opening

variable {name : Text} (isWord : IsWord name)
include isWord

theorem Declaration.Struct.read_opening :
    Struct.read (Kind.struct.keyword ++ '(' :: (name ++ ")")) = some (.ok ⟨name⟩) := by
  have argument : ∀ arg ∈ [name], Macro.IsArgument arg := by
    intro arg listed
    rw [List.mem_singleton.mp listed]
    exact .of_isWord isWord
  rw [Struct.read, Kind.read_eq_ok_iff]
  refine ⟨[name], Kind.args?_eq_some_iff.mpr ⟨name ++ ")", name, [], rfl, ?_, ?_⟩, rfl⟩
  · have closed := Macro.readInside_intercalate (fun arg listed => (argument arg listed).closed) []
    rwa [List.intercalate_singleton] at closed
  · have single :=
      Macro.arguments_intercalate argument fun same => isWord.ne_nil (List.cons.inj same).1
    rwa [List.intercalate_singleton] at single

theorem not_mem_opening {c : Char} (off : isWordChar c = false) (different : c ≠ '(') :
    c ∉ Declaration.Kind.struct.keyword ++ '(' :: name := by
  intro member
  rcases List.mem_append.mp member with spelled | member
  · exact (show IsWord Declaration.Kind.struct.keyword by decide).not_mem off spelled
  rcases List.mem_cons.mp member with same | named
  · exact different same
  · exact isWord.not_mem off named

theorem Declaration.Struct.openingLine_opening :
    openingLine ⟨name⟩ (Kind.struct.keyword ++ '(' :: (name ++ ")")) = "struct " ++ name := by
  have first : ')' ∉ Kind.struct.keyword ++ '(' :: name :=
    not_mem_opening isWord (by decide) (by decide)
  have behind :
      ((Kind.struct.keyword ++ '(' :: (name ++ ")")).dropWhile (· != ')')).drop 1 = [] := by
    rw [← List.cons_append, ← List.append_assoc]
    exact drop_dropWhile_of_not_mem first []
  rw [openingLine, behind]
  exact List.append_nil _

theorem isQuiet_opening : IsQuiet (Declaration.Kind.struct.keyword ++ '(' :: (name ++ ")")) := by
  have only : '(' ∉ name ++ ")" := by
    rw [List.mem_append, not_or]
    exact ⟨isWord.not_mem (by decide), by decide⟩
  exact @IsQuiet.of_read _ _ .struct [] _ _ (Declaration.Struct.read_opening isWord) (.inl rfl)
    (fun c member => nomatch member) only

end Opening

namespace Lowering

theorem mapWords_of_marks (rule : WordRule) {text : Text} (marks : text.any isWordChar = false) :
    mapWords rule text = text := by
  induction text with
  | nil => exact mapWords_nil rule
  | cons c rest ih =>
    rw [List.any_cons, Bool.or_eq_false_iff] at marks
    rw [mapWords_cons_of_not_isWordChar rule rest marks.1, ih marks.2]

theorem lower_of_marks {text : Text} (marks : text.any isWordChar = false) : lower text = text := by
  rw [lower, castPass, constructorPass, typePass, mapWords_of_marks typeRule marks,
    mapWords_of_marks constructorRule marks, mapWords_of_marks castRule marks]

end Lowering

namespace Compilation

variable {job : Job} {state : State} {source : NumberedLine}

theorem step_opening {name : Text} (isWord : IsWord name)
    (text : source.text = "STRUCT(" ++ name ++ ")") : step job state source =
      { state := { state with mode := .inside name (!job.shader.isInterface name) }
        lines := [Lowering.lower ("struct " ++ name)] } := by
  have shape : source.text = Declaration.Kind.struct.keyword ++ '(' :: (name ++ ")") := by
    rw [text, List.append_assoc]
    rfl
  have found : Declaration.Struct.read source.text = some (.ok ⟨name⟩) := by
    rw [shape]
    exact Declaration.Struct.read_opening isWord
  have quiet : IsQuiet source.text := by
    rw [shape]
    exact isQuiet_opening isWord
  have unread : Declaration.Field.read source.text = none :=
    Declaration.Kind.read_eq_none_of_read found (by decide)
  have statement := Declaration.Kind.isDirective_of_read found
  have unclosed : Marker.closesStruct source.text = false := by
    apply Marker.closesStruct_of_not_mem
    rw [shape, ← List.cons_append, ← List.append_assoc]
    intro member
    rcases List.mem_append.mp member with front | back
    · exact not_mem_opening isWord (by decide) (by decide) front
    · exact absurd back (by decide)
  have line : Declaration.Struct.openingLine ⟨name⟩ source.text = "struct " ++ name := by
    rw [shape]
    exact Declaration.Struct.openingLine_opening isWord
  simp only [step, Draft.passBlock, statement, Bool.false_eq_true, if_false,
    Draft.openStruct, found, BlockMode.isInside, if_true, Draft.member?, unread, unclosed,
    Draft.finish_of_isQuiet quiet, line]

/-- Inside a block, a line that declares nothing ends the block or goes on to the other rules. -/
theorem step_of_undeclared (inside : state.mode.isInside = true)
    (statement : Marker.isDirective source.text = false)
    (unopened : Declaration.Struct.read source.text = none)
    (unread : Declaration.Field.read source.text = none) :
    step job state source =
      if Marker.closesStruct source.text then Draft.close source { state, line := source.text }
      else Draft.finish job source { state, line := source.text } := by
  simp only [step, Draft.passBlock, statement, Bool.false_eq_true, if_false,
    Draft.openStruct, unopened, inside, if_true, Draft.member?, unread, id_eq]

theorem step_brace (inside : state.mode.isInside = true) (text : source.text = "\x7b") :
    step job state source = { state, lines := ["\x7b"] } := by
  have quiet : IsQuiet source.text := by
    rw [text]
    exact ⟨by decide, by decide, by decide, by decide, by decide⟩
  have unclosed : ¬ Marker.closesStruct source.text = true := by
    rw [text]
    decide
  rw [step_of_undeclared inside (by rw [text]; decide) (by rw [text]; decide)
    (by rw [text]; decide), if_neg unclosed, Draft.finish_of_isQuiet quiet job rfl]
  dsimp only
  rw [text, Lowering.lower_of_marks (by decide)]

theorem step_closing (inside : state.mode.isInside = true) (text : source.text = "\x7d;") :
    step job state source =
      { state := { state with mode := .outside }
        lines := ["//line " ++ Text.ofNat source.number, "\x7d;"] } := by
  have closes : Marker.closesStruct source.text = true := by
    rw [text]
    decide
  rw [step_of_undeclared inside (by rw [text]; decide) (by rw [text]; decide)
    (by rw [text]; decide), if_pos closes, Draft.close]
  dsimp only
  rw [text, Lowering.lower_of_marks (by decide)]
  rfl

theorem step_member {member : Member} {struct : Text} {ignores : Bool}
    (inside : state.mode = .inside struct ignores) (text : source.text = member.written) :
    step job state source =
      { state
        lines :=
          if member.realSemantic? = none ∨ ignores = true then
            [Lowering.lower (member.transcribed job.binary.capabilities)]
          else [] } := by
  have found : Declaration.Field.read source.text = some (.ok member.field) := by
    rw [text]
    exact member.read_written
  have quiet : IsQuiet source.text := by
    rw [text]
    exact member.isQuiet_written
  have unclosed : ¬ Marker.closesStruct source.text = true := by
    rw [text, member.closesStruct_written]
    exact Bool.false_ne_true
  have within : state.mode.isInside = true := by
    rw [inside]
    rfl
  have ignored : state.mode.ignoresSemantics = ignores := by
    rw [inside]
    rfl
  rw [step_of_field within (Declaration.Kind.isDirective_of_read found) found, ignored, text,
    member.leadingBlanks_written, member.memberLine?_field]
  by_cases kept : member.realSemantic? = none ∨ ignores = true
  · rw [if_pos kept, if_pos kept]
    dsimp only
    rw [← text, if_neg unclosed, Draft.finish_of_isQuiet quiet job rfl]
  · rw [if_neg kept, if_neg kept]

theorem run_members {struct : Text} {members : List Member} {body : List NumberedLine}
    (inside : state.mode = .inside struct (!job.shader.isInterface struct))
    (texts : body.map NumberedLine.text = members.map Member.written) :
    run job state body =
      { state
        lines :=
          (members.filter fun member => decide (member.IsKept job.shader struct)).map fun member =>
          Lowering.lower (member.transcribed job.binary.capabilities) } := by
  -- no member changes the state, so it stays fixed along the body
  induction members generalizing body with
  | nil =>
    rw [List.map_nil, List.map_eq_nil_iff] at texts
    rw [texts]
    rfl
  | cons member members ih =>
    obtain ⟨source, rest, rfl, text, texts⟩ := List.map_eq_cons_iff.mp texts
    simp only [run, step_member inside text, ih texts, ← member.isKept_iff]
    by_cases kept : member.IsKept job.shader struct
    · rw [if_pos kept, List.filter_cons, if_pos (decide_eq_true kept)]
      rfl
    · rw [if_neg kept, List.filter_cons, if_neg (fun same => kept (of_decide_eq_true same))]
      rfl

/-- A struct block is taken over line by line, and the state behind it is the one in front of it,
outside of any struct. -/
theorem run_block (job : Job) (state : State) {name : Text} (isWord : IsWord name)
    (members : List Member) {opening brace closing : NumberedLine} {body : List NumberedLine}
    (opens : opening.text = "STRUCT(" ++ name ++ ")") (braces : brace.text = "\x7b")
    (texts : body.map NumberedLine.text = members.map Member.written)
    (closes : closing.text = "\x7d;") : run job state (opening :: brace :: (body ++ [closing])) =
      { state := { state with mode := .outside }
        lines :=
          [Lowering.lower ("struct " ++ name), "\x7b"] ++
            ((members.filter fun member => decide (member.IsKept job.shader name)).map fun member =>
              Lowering.lower (member.transcribed job.binary.capabilities)) ++
            ["//line " ++ Text.ofNat closing.number, "\x7d;"]
        events := [] } := by
  let within : State := { state with mode := .inside name (!job.shader.isInterface name) }
  have inside : within.mode.isInside = true := rfl
  have first : step job state opening =
      { state := within, lines := [Lowering.lower ("struct " ++ name)] } :=
        step_opening isWord opens
  have second : step job within brace = { state := within, lines := ["\x7b"] } :=
    step_brace inside braces
  have middle := @run_members job within name members body rfl texts
  have last := @step_closing job within closing inside closes
  simp only [run, first, second, run_append, middle, last]
  simp [within]

theorem run_block_varying :
    let job : Job :=
      { shader := { name := "s", stage := .vert, structParams := [⟨"VSInput", "In"⟩] }
        binary := { filename := "test.vert", capabilities := .invariant }
        options := {} }
    let members : List Member :=
      [{ indent := "    ", type := "float4", base := "Position", semantic := some "sv_position" },
        { indent := "\t", type := "float3", base := "Lights", size := some "COUNT",
          semantic := some "nOnE" },
        { type := "uint", base := "Index" }]
    let lines : List NumberedLine :=
      [⟨0, 1, "STRUCT(Varying)"⟩, ⟨0, 2, "\x7b"⟩,
        ⟨0, 3, "    DATA(float4, Position, sv_position);"⟩,
        ⟨0, 4, "\tDATA(float3, Lights[COUNT], nOnE);"⟩, ⟨0, 5, "DATA(uint, Index);"⟩,
        ⟨0, 6, "\x7d;"⟩]
    IsWord "Varying" ∧ (lines.drop 2).dropLast.map NumberedLine.text = members.map Member.written ∧
      run job {} lines =
        { state := {}
          lines :=
            ["struct Varying", "\x7b", "    precise float<4> Position;",
              "\tfloat<3> Lights[COUNT];", "uint Index;", "//line 6", "\x7d;"] } := by
  intro job members lines
  have texts :
      (lines.drop 2).dropLast.map NumberedLine.text = members.map Member.written := by decide
  have isWord : IsWord "Varying" := by decide
  refine ⟨isWord, texts, ?_⟩
  exact (run_block job {} isWord members rfl rfl texts rfl).trans (by decide +kernel)

end Compilation

end IspcShader
