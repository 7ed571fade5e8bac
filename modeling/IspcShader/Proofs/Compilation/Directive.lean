import IspcShader.Compilation.Basic
import IspcShader.Proofs.Text.Word

/-!
Line directives. Which lines they are is said by their parts, without the scan that recognises them;
a compilation does not notice them, wherever they stand.
-/
namespace IspcShader

open Text

theorem Text.isBlank_of_isDigit {c : Char} (digit : c.isDigit = true) : isBlank c = false :=
  isBlank_of_isWordChar (isWordChar_of_isAlphanum (by simp [Char.isAlphanum, digit]))

theorem Text.isDigit_of_isBlank {c : Char} (blank : isBlank c = true) : c.isDigit = false := by
  cases digit : c.isDigit with
  | false => rfl
  | true =>
    rw [isBlank_of_isDigit digit] at blank
    cases blank

theorem Text.mem_of_head?_append {run rest : Text} {c : Char} (nonempty : run ≠ [])
    (first : c ∈ (run ++ rest).head?) : c ∈ run := by
  obtain ⟨d, tail, rfl⟩ := List.exists_cons_of_ne_nil nonempty
  obtain rfl := Option.some.inj first
  exact List.mem_cons_self

/-- The parts of a line directive: behind the `#` blanks, if there are any, a number, blanks, a
quotation, and whatever follows. -/
structure Directive where
  lead : Text
  number : Text
  gap : Text
  quoted : Text
  rest : Text
  isBlank_lead : ∀ c ∈ lead, isBlank c = true
  number_ne_nil : number ≠ []
  isDigit_number : ∀ c ∈ number, c.isDigit = true
  gap_ne_nil : gap ≠ []
  isBlank_gap : ∀ c ∈ gap, isBlank c = true

namespace Directive

variable (directive : Directive)

def text : Text :=
  "#" ++ directive.lead ++ directive.number ++ directive.gap ++ "\"" ++ directive.quoted ++ "\"" ++
    directive.rest

def quotation : Text :=
  '"' :: (directive.quoted ++ '"' :: directive.rest)

theorem text_eq :
    directive.text = '#' :: (directive.lead ++
      (directive.number ++ (directive.gap ++ directive.quotation))) := by
  simp [text, quotation]

end Directive

namespace Marker

theorem startsQuotation_iff {text : Text} :
    startsQuotation text = true ↔ ∃ quoted rest, text = '"' :: (quoted ++ '"' :: rest) := by
  constructor
  · intro starts
    unfold startsQuotation at starts
    split at starts
    · next tail =>
      obtain ⟨quoted, rest, rfl⟩ := List.append_of_mem (List.contains_iff_mem.mp starts)
      exact ⟨quoted, rest, rfl⟩
    · cases starts
  · rintro ⟨quoted, rest, rfl⟩
    simp [startsQuotation]

/-- The scan finds each part of a directive, since a character of another kind ends it. -/
theorem isDirective_text (directive : Directive) : isDirective directive.text = true := by
  have number : ∀ c ∈ (directive.number ++ (directive.gap ++ directive.quotation)).head?,
      isBlank c = false := by
    intro c first
    exact isBlank_of_isDigit (directive.isDigit_number c
      (mem_of_head?_append directive.number_ne_nil first))
  have gap : ∀ c ∈ (directive.gap ++ directive.quotation).head?, c.isDigit = false := by
    intro c first
    exact isDigit_of_isBlank (directive.isBlank_gap c
      (mem_of_head?_append directive.gap_ne_nil first))
  have quote : ∀ c ∈ directive.quotation.head?, isBlank c = false := by
    intro c first
    obtain rfl := Option.some.inj first
    decide
  have quotes : startsQuotation directive.quotation = true := startsQuotation_iff.mpr ⟨_, _, rfl⟩
  rw [directive.text_eq]
  simp only [isDirective, trimStart, leadingBlanks, dropWhile_run directive.isBlank_lead number,
    takeWhile_run directive.isDigit_number gap, dropWhile_run directive.isDigit_number gap,
    takeWhile_run directive.isBlank_gap quote, dropWhile_run directive.isBlank_gap quote, quotes]
  simp [directive.number_ne_nil, directive.gap_ne_nil]

theorem exists_directive_of_isDirective {line : Text} (h : isDirective line = true) :
    ∃ directive : Directive, directive.text = line := by
  unfold isDirective at h
  split at h
  · next rest =>
    simp only [Bool.and_eq_true, Bool.not_eq_true', List.isEmpty_eq_false_iff] at h
    obtain ⟨⟨numbered, parted⟩, quotation⟩ := h
    obtain ⟨quoted, more, shape⟩ := startsQuotation_iff.mp quotation
    have blank (text : Text) : ∀ c ∈ leadingBlanks text, isBlank c = true :=
      List.all_eq_true.mp List.all_takeWhile
    have digit (text : Text) : ∀ c ∈ text.takeWhile Char.isDigit, c.isDigit = true :=
      List.all_eq_true.mp List.all_takeWhile
    refine ⟨⟨_, _, _, quoted, more, blank rest, numbered, digit _, parted, blank _⟩, ?_⟩
    rw [Directive.text_eq, Directive.quotation, ← shape, leadingBlanks_append_trimStart,
      List.takeWhile_append_dropWhile, leadingBlanks_append_trimStart]
  · cases h

end Marker

namespace Compilation

theorem step_of_isDirective {source : NumberedLine}
    (directive : Marker.isDirective source.text = true) (job : Job)
    (state : State) : step job state source = { state } :=
  if_pos directive

theorem run_filter (job : Job) (state : State) (lines : List NumberedLine) :
    run job state (lines.filter fun source => !Marker.isDirective source.text) =
      run job state lines := by
  induction lines generalizing state with
  | nil => rfl
  | cons source rest ih =>
    cases directive : Marker.isDirective source.text with
    | true =>
      rw [List.filter_cons_of_neg (by simp [directive]), ih, run, step_of_isDirective directive]
      rfl
    | false => rw [List.filter_cons_of_pos (by simp [directive]), run, ih, run]

end Compilation

def Job.withLines (job : Job) (lines : List NumberedLine) : Job :=
  { job with shader := { job.shader with lines } }

/-- What a line does is not up to the lines around it, but for the state that they lead to. -/
theorem Compilation.run_withLines (job : Job) (lines : List NumberedLine) (state : State)
    (part : List NumberedLine) : run (job.withLines lines) state part = run job state part := by
  have same (state : State) (source : NumberedLine) :
      step (job.withLines lines) state source = step job state source := rfl
  induction part generalizing state with
  | nil => rfl
  | cons source rest ih => rw [run, run, same, ih]

theorem compile_withLines {job : Job} {lines : List NumberedLine}
    (same : Compilation.run job {} lines = Compilation.run job {} job.shader.lines)
    (header : Header) : compile (job.withLines lines) header = compile job header := by
  have body : Compilation.run (job.withLines lines) {} (job.withLines lines).shader.lines =
      Compilation.run job {} job.shader.lines :=
        (Compilation.run_withLines job lines {} lines).trans same
  unfold compile
  rw [body]
  rfl

/-- The lines that are recognised as line directives are those that are made of its parts, and a
shader compiles to the same without them. -/
theorem directives_unnoticed :
    (∀ line, Marker.isDirective line = true ↔ ∃ directive : Directive, directive.text = line) ∧
      ∀ (job : Job) (header : Header),
        compile (job.withLines (job.shader.lines.filter fun source =>
          !Marker.isDirective source.text)) header = compile job header := by
  refine ⟨?_, fun job header =>
    compile_withLines (Compilation.run_filter job {} job.shader.lines) header⟩
  intro line
  constructor
  · exact Marker.exists_directive_of_isDirective
  · rintro ⟨directive, rfl⟩
    exact Marker.isDirective_text directive

end IspcShader
