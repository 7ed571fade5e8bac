import IspcShader.Proofs.Compilation.SourceLines
import IspcShader.Proofs.Text.Lines

/-!
The native header in a compiled source. It is taken apart into lines and put together again, and a
carriage return in front of a line feed is lost on the way; so the header stands in the source as it
is just when it has no such pair.
-/
namespace IspcShader

open Text

namespace Text

/-- The text with a line feed at its end, unless it is empty or has one there. -/
def endLine (text : Text) : Text :=
  if text = [] ∨ text.getLast? = some '\n' then text else text ++ "\n"

theorem endLine_concat (most : Text) (c : Char) :
    endLine (most ++ [c]) = if c = '\n' then most ++ [c] else most ++ [c] ++ "\n" := by
  simp [endLine]

theorem endLine_append_feed (a b : Text) : endLine (a ++ '\n' :: b) = a ++ '\n' :: endLine b := by
  rcases List.eq_nil_or_concat b with rfl | ⟨most, c, rfl⟩
  · exact endLine_concat a '\n'
  · have shape : a ++ '\n' :: (most ++ [c]) = (a ++ '\n' :: most) ++ [c] := by simp
    rw [List.concat_eq_append, shape, endLine_concat, endLine_concat]
    split <;> simp

theorem prefix_endLine (text : Text) : text <+: endLine text := by
  unfold endLine
  split
  · exact List.prefix_refl text
  · exact List.prefix_append text "\n"

section Replace

variable {needle new : Text}

theorem replaceAll_of_absent {text : Text} (absent : ¬ needle <:+: text) :
    replaceAll needle new text = text := by
  rw [replaceAll, cut?_eq_none_iff.mpr absent]

theorem replaceAll_of_cut? {text before after : Text} (nonempty : needle ≠ [])
    (cut : cut? needle text = some (before, after)) :
    replaceAll needle new text = before ++ new ++ replaceAll needle new after := by
  have shorter : after.length < text.length := by
    have positive := List.length_pos_iff.mpr nonempty
    rw [← append_of_cut? cut]
    simp only [List.length_append]
    omega
  rw [replaceAll, cut]
  dsimp only
  rw [if_pos shorter]

theorem replaceAll_cons (nonempty : needle ≠ []) {c : Char} {rest : Text}
    (elsewhere : strip? needle (c :: rest) = none) :
    replaceAll needle new (c :: rest) = c :: replaceAll needle new rest := by
  have shape :
      cut? needle (c :: rest) = (cut? needle rest).map fun place => (c :: place.1, place.2) := by
    rw [cut?, elsewhere]
  cases cut : cut? needle rest with
  | none =>
    rw [cut, Option.map_none] at shape
    rw [replaceAll, shape, replaceAll, cut]
  | some place =>
    rw [cut, Option.map_some] at shape
    rw [replaceAll_of_cut? nonempty shape, replaceAll_of_cut? nonempty cut]
    rfl

end Replace

/-- No pair of a carriage return and a line feed starts inside a line, unless at its last
character. -/
theorem strip?_pair_eq_none {c : Char} {line rest : Text} (single : '\n' ∉ line)
    (inner : c = '\r' → line ≠ []) : strip? "\r\n" (c :: (line ++ '\n' :: rest)) = none := by
  rw [Option.eq_none_iff_forall_ne_some]
  intro behind found
  have split := List.isPrefixOf?_eq_some_iff_append_eq.mp found
  obtain ⟨rfl, next⟩ := List.cons.inj split
  obtain ⟨d, more, rfl⟩ := List.exists_cons_of_ne_nil (inner rfl)
  obtain ⟨rfl, -⟩ := List.cons.inj next
  exact single List.mem_cons_self

theorem replaceAll_append_feed {line : Text} (single : '\n' ∉ line) (rest : Text) :
    replaceAll "\r\n" "\n" (line ++ '\n' :: rest) =
      dropReturn line ++ '\n' :: replaceAll "\r\n" "\n" rest := by
  have pair : "\r\n".toList ≠ [] := by decide
  induction line with
  | nil => exact replaceAll_cons pair rfl
  | cons c line ih =>
    rw [List.mem_cons, not_or] at single
    by_cases ends : c = '\r' ∧ line = []
    · obtain ⟨rfl, rfl⟩ := ends
      have cut : cut? "\r\n" ('\r' :: '\n' :: rest) = some ([], rest) := rfl
      exact replaceAll_of_cut? pair cut
    · have inner : c = '\r' → line ≠ [] := fun same empty => ends ⟨same, empty⟩
      rw [List.cons_append, replaceAll_cons pair (strip?_pair_eq_none single.2 inner), ih single.2,
        dropReturn_cons inner, List.cons_append]

end Text

namespace Compilation

theorem unlines_append (a b : List Text) : unlines (a ++ b) = unlines a ++ unlines b :=
  List.flatMap_append

theorem unlines_cons (line : Text) (rest : List Text) :
    unlines (line :: rest) = line ++ "\n" ++ unlines rest :=
  List.flatMap_cons

/-- What becomes of a text that is taken apart into lines and put together again. -/
theorem unlines_lines (text : Text) :
    unlines (lines text) = endLine (replaceAll "\r\n" "\n" text) := by
  induction text using line_induction with
  | unended line single =>
    have absent : ¬ "\r\n".toList <:+: line := fun pair => single (pair.subset (by simp))
    rw [replaceAll_of_absent absent]
    rcases List.eq_nil_or_concat line with rfl | ⟨most, c, rfl⟩
    · rfl
    · rw [List.concat_eq_append] at single ⊢
      have other : c ≠ '\n' := fun feed => single (by simp [feed])
      rw [lines_of_not_mem single (by simp), endLine_concat, if_neg other, unlines_cons]
      exact List.append_nil _
  | fed line rest single ih =>
    rw [lines_append_feed single, unlines_cons, ih, replaceAll_append_feed single,
      endLine_append_feed, List.append_assoc]
    rfl

/-- What a source starts with: the comment that names the shader and its origin, the definition of
the stage, and that of the wave operations if there are any. -/
def titleText (job : Job) : Text :=
  "// " ++ job.shader.name ++ " shader generated for ISPC from " ++ originName job ++ "\n" ++
    "#define STAGE_" ++ job.shader.stage.name ++ "\n" ++
    (if job.shader.waveOps.bits ≠ 0 then "#define ENABLE_WAVEOPS(flags)\n" else "" : Text)

theorem unlines_waveLines (ops : WaveOps) :
    unlines (waveLines ops) = (if ops.bits ≠ 0 then "#define ENABLE_WAVEOPS(flags)\n"
      else "" : Text) := by
  unfold waveLines WaveOps.any
  by_cases none : ops.bits = 0
  · simp only [none]
    rfl
  · simp only [bne_iff_ne, ne_eq, none, not_false_eq_true, if_true]
    rfl

theorem unlines_titleLines (job : Job) : unlines (titleLines job) = titleText job := by
  have nothing : unlines [] = [] := rfl
  unfold titleText
  rw [titleLines, unlines_append, unlines_waveLines, unlines_cons, unlines_cons, nothing,
    List.append_nil]
  simp only [List.append_assoc]

theorem source_eq (job : Job) (header : Header) :
    (compile job header).source =
      titleText job ++ endLine (replaceAll "\r\n" "\n" header.text) ++ "\n" ++
        unlines ((run job {} job.shader.lines).lines ++
          wrapperLines (compile job header).entry) := by
  have empty : unlines [[]] = "\n" := rfl
  rw [← unlines_titleLines, ← unlines_lines, ← empty, ← unlines_append, ← unlines_append,
    ← unlines_append, ← List.append_assoc]
  rfl

/-- A text with shorter line ends starts as the text itself only if there is nothing to shorten: up
to the first such end the two are the same, and there they part. -/
theorem prefix_replaceAll_iff (text rest : Text) :
    text <+: endLine (replaceAll "\r\n" "\n" text) ++ rest ↔ ¬ "\r\n".toList <:+: text := by
  constructor
  · intro copied found
    cases cut : cut? "\r\n" text with
    | none => exact cut?_eq_none_iff.mp cut found
    | some place =>
      obtain ⟨before, after⟩ := place
      obtain ⟨tail, more⟩ := prefix_endLine (replaceAll "\r\n" "\n" text)
      have split : before ++ '\r' :: '\n' :: after = text := by
        rw [← append_of_cut? cut, List.append_assoc]
        rfl
      rw [← more, replaceAll_of_cut? (by decide) cut, ← split, List.append_assoc, List.append_assoc,
        List.append_assoc, List.prefix_append_right_inj] at copied
      obtain ⟨feed, -⟩ := List.cons_prefix_cons.mp copied
      exact absurd feed (by decide)
  · intro absent
    rw [replaceAll_of_absent absent]
    exact (prefix_endLine text).trans (List.prefix_append _ rest)

end Compilation

open Compilation

/-- The native header is copied as it is just when it has no carriage return in front of a line
feed. In any case it stands in the source behind the title, without these carriage returns, and an
empty line follows. -/
theorem header_copied_iff (job : Job) (header : Header) :
    (compile job header).source =
        titleText job ++ endLine (replaceAll "\r\n" "\n" header.text) ++ "\n" ++
          ((run job {} job.shader.lines).lines ++
            (compile job header).entry.elim [] fun entry =>
              entry.wrapper.map Lowering.lower).flatMap (· ++ ['\n']) ∧
      (titleText job ++ header.text <+: (compile job header).source ↔
        ¬ "\r\n".toList <:+: header.text) := by
  have shape := source_eq job header
  refine ⟨wrapperLines_eq (compile job header).entry ▸ shape, ?_⟩
  rw [shape, List.append_assoc, List.append_assoc, List.prefix_append_right_inj]
  exact prefix_replaceAll_iff _ _

/-- A header with a carriage return in front of a line feed, and the source without it. -/
theorem carriage_return_lost :
    let job : Job := ⟨{ name := "s", stage := .comp }, { filename := "test.comp" }, {}⟩
    let header : Header := ⟨"a\r\nb"⟩
    (compile job header).source = titleText job ++ "a\nb\n\n" ∧
      ¬ titleText job ++ header.text <+: (compile job header).source := by
  decide +kernel

end IspcShader
