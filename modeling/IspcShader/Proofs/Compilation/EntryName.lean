import IspcShader.Proofs.Compilation.SingleLine
import IspcShader.Proofs.Compilation.Threading
import IspcShader.Proofs.EntryPoint.Agreement
import IspcShader.Proofs.Lowering.Append

/-!
The names of the entry point in the compiled source. Both are whole words with a low line in them,
so no rule of the lowering takes them for a type, whatever stands around them: the implementation is
called by the name that it is defined under, and the wrapper is exported under the name that is
reported.
-/
namespace IspcShader

open Text Lowering Compilation

namespace EntryPoint

theorem low_line_mem_exportName {name : Text} (marked : ("_MAIN" : Text) <:+ name)
    (suffix : Option Text) : '_' ∈ exportName name suffix := by
  have low : '_' ∈ name := marked.subset (by decide)
  cases suffix with
  | none => exact low
  | some text => simp [exportName]

theorem low_line_mem_implementationName (main : Text) : '_' ∈ Dispatch.implementationName main :=
  List.mem_append_right main (by decide)

theorem prefix_lower_signature {main : Text} (isWord : IsWord main) (low : '_' ∈ main)
    (resources : List Resource) :
    ("export void " ++ main ++ "(" : Text) <+: lower (Dispatch.signature main resources) := by
  let params : Text :=
    List.intercalate ", " (resources.map (·.parameter Dispatch.argSuffix) ++
      Dispatch.extentParams) ++ ") \x7b"
  have shape : Dispatch.signature main resources =
      "export" ++ ' ' :: ("void" ++ ' ' :: (main ++ '(' :: params)) := by
    have opening : "export void ".toList = "export" ++ ' ' :: ("void" ++ [' ']) := rfl
    unfold Dispatch.signature
    rw [opening]
    simp only [List.append_assoc, List.cons_append, List.nil_append]
    rfl
  have fixed : lower "export" = "export".toList ∧ lower "void" = "void".toList := by decide +kernel
  refine ⟨lower params, ?_⟩
  rw [shape, lower_append (by decide), lower_append (by decide), lower_word_append isWord low rfl,
    lower_mark_cons (by decide), fixed.1, fixed.2]
  simp

theorem hasWord_callLine (main : Text) (resources : List Resource) (args : List CoordinateArg) :
    HasWord (Dispatch.implementationName main) "(" (Dispatch.callLine main resources args) := by
  refine ⟨"        ", List.intercalate ", " (resources.map (·.handleName ++ Dispatch.argSuffix) ++
    args.map (·.name)) ++ ");", ?_, by decide, rfl⟩
  unfold Dispatch.callLine
  simp only [List.append_assoc]

end EntryPoint

namespace Compilation

/-- The line that brings the entry point is handed out as the implementation's first line, or as a
comment that holds it. -/
theorem exists_line_of_step {job : Job} {state : State} {source : NumberedLine} {entry : EntryPoint}
    (first : state.entry = none) (h : (step job state source).state.entry = some entry) :
    ∃ front mark back, (mark = [] ∨ mark = "//".toList) ∧
      (step job state source).lines = front ++ (mark ++ lower entry.line) :: back := by
  rw [step_state] at h
  rw [step_eq]
  cases fated : fate job state.mode source.text with
  | dropped => simp [fated, first] at h
  | closing => simp [fated, first] at h
  | kept =>
    have entering : entered job source (state.resources ++ written source.text) = some entry := by
      simpa [fated, first] using h
    obtain ⟨mark, marks, handed⟩ : ∃ mark, (mark = [] ∨ mark = "//".toList) ∧
        lower (keptLine job source (blockDraft job state source)) = mark ++ lower entry.line := by
      have line : keptLine job source (blockDraft job state source) =
          if Marker.hasOutputHint source.text then "//" ++ entry.line else entry.line := by
        simp only [keptLine, enteredLine, blockDraft, entering, first]
      cases hint : Marker.hasOutputHint source.text with
      | false => exact ⟨[], .inl rfl, by simp [line, hint]⟩
      | true =>
        refine ⟨"//", .inr rfl, ?_⟩
        have slashes : lower ('/' :: '/' :: entry.line) = '/' :: '/' :: lower entry.line := by
          rw [lower_mark_cons (by decide), lower_mark_cons (by decide)]
        rw [line, hint, if_pos rfl]
        exact slashes
    dsimp only
    rw [Draft.finish_lines _ _ _ rfl, handed]
    cases expansion? job source.text with
    | none => exact ⟨[], mark, [], marks, rfl⟩
    | some expansion => exact ⟨[expansion.accessor], mark, [originComment source], marks, rfl⟩

end Compilation

/-- The two names of an entry point are words, and stand as such in the source: the line that
defines the implementation and the one that calls it have its name in front of the parameters, and
the wrapper starts with the exported name. -/
structure EntryPoint.NamedIn (entry : EntryPoint) (source : Text) : Prop where
  main : IsWord entry.mainName
  implementation : IsWord entry.implementationName
  line : HasWord entry.implementationName "(" (lower entry.line)
  wrapper : ∃ resources body, entry.wrapper = Dispatch.signature entry.mainName resources ::
      (body ++ [Dispatch.callLine entry.mainName resources entry.args, "    \x7d", "\x7d"]) ∧
    ("export void " ++ entry.mainName ++ "(" : Text) <+:
      lower (Dispatch.signature entry.mainName resources) ∧
    HasWord entry.implementationName "("
      (lower (Dispatch.callLine entry.mainName resources entry.args))
  source : ∃ front mark middle, (mark = [] ∨ mark = "//".toList) ∧
    source = (front ++ (mark ++ lower entry.line) :: middle ++ entry.wrapper.map lower).flatMap
      (· ++ ['\n'])

theorem namedIn_compile {job : Job} {header : Header} {entry : EntryPoint}
    (found : (compile job header).entry = some entry) :
    entry.NamedIn (compile job header).source := by
  obtain ⟨front, source, rest, lines, before, entering⟩ := exists_entering_line rfl found
  have lowered := entered_of_step before entering
  have threads := EntryPoint.threads_of_entered lowered
  obtain ⟨marker, marked, given⟩ := Option.map_eq_some_iff.mp lowered
  have marks := EntryMarker.marks_of_find? marked
  have named : entry.mainName = EntryPoint.exportName marker.name job.mangle? := by
    rw [← given]; rfl
  have isWord : IsWord entry.mainName := by
    rw [named]
    exact EntryPoint.isWord_exportName marks.isWord job.isWordChar_mangle
  have low : '_' ∈ entry.mainName := by
    rw [named]
    exact EntryPoint.low_line_mem_exportName marks.marked _
  have isWordImpl : IsWord entry.implementationName := EntryPoint.isWord_implementationName isWord
  have lowImpl : '_' ∈ entry.implementationName :=
    EntryPoint.low_line_mem_implementationName entry.mainName
  refine ⟨isWord, isWordImpl, ?_, ?_, ?_⟩
  · apply hasWord_call_lower isWordImpl lowImpl
    obtain ⟨other, same, line⟩ := threads.line
    obtain rfl : marker = other := Option.some.inj (marked.symm.trans same)
    exact ⟨marker.before, _, by rw [line, List.append_assoc], marks.off, rfl⟩
  · refine ⟨_, _, threads.wrapper, EntryPoint.prefix_lower_signature isWord low _, ?_⟩
    exact hasWord_call_lower isWordImpl lowImpl (EntryPoint.hasWord_callLine _ _ _)
  · obtain ⟨lead, mark, trail, kind, handed⟩ := exists_line_of_step before entering
    refine ⟨prologue job header ++ (run job {} front).lines ++ lead, mark,
      trail ++ (run job (step job (run job {} front).state source).state rest).lines, kind, ?_⟩
    have body : (run job {} job.shader.lines).lines = (run job {} front).lines ++
        (lead ++ (mark ++ lower entry.line) :: trail) ++
          (run job (step job (run job {} front).state source).state rest).lines := by
      rw [lines, run_append, ← handed, List.append_assoc]
      rfl
    have wrapped :
        wrapperLines (run job {} job.shader.lines).state.entry = entry.wrapper.map lower := by
      rw [show (run job {} job.shader.lines).state.entry = some entry from found]
      rfl
    simp [compile, Compiled.ofBody, unlines, body, wrapped]

/-- A line has an entry point just when it holds `_MAIN(`; the name is the whole word that ends at
the first such place, and its span lies between characters. Whatever is compiled, the names of the
entry point are words, and lowering leaves them as they are on every line that holds them. -/
theorem entry_names_survive_lowering :
    (∀ line, EntryMarker.find? line = none ↔ ¬ ("_MAIN(" : Text) <:+: line) ∧
    (∀ line marker, EntryMarker.find? line = some marker ↔ marker.Marks line) ∧
    (∀ line marker, EntryMarker.find? line = some marker → marker.span.Covers line marker.name) ∧
    ∀ job header entry, (compile job header).entry = some entry →
      entry.NamedIn (compile job header).source := by
  refine ⟨fun line => EntryMarker.find?_eq_none_iff,
    fun line marker => EntryMarker.find?_eq_some_iff, ?_, ?_⟩
  · intro line marker found
    exact (EntryMarker.marks_of_find? found).covers
  · intro job header entry found
    exact namedIn_compile found

theorem entry_names_survive_lowering_accented :
    let line : Text := "int2 ß é_MAIN(SV_DispatchThreadID(int2) p) CS_MAIN()"
    let job : Job :=
      { shader :=
          { name := "Between", stage := .comp, lines := [⟨0, 1, line⟩]
            builtinParams := [⟨"SV_DispatchThreadID(int2)", "p"⟩] }
        binary := { filename := "int2(é).comp" }
        options := {} }
    ∃ marker entry, EntryMarker.find? line = some marker ∧ marker.span = ⟨8, 15⟩ ∧
      marker.span.Covers line "é_MAIN" ∧ (compile job ⟨[]⟩).entry = some entry ∧
      entry.mainName = "é_MAIN_INT2___" ∧ entry.NamedIn (compile job ⟨[]⟩).source := by
  intro line job
  obtain ⟨-, -, covers, named⟩ := entry_names_survive_lowering
  have found : EntryMarker.find? line =
      some ⟨"int2 ß ", "é_MAIN", "SV_DispatchThreadID(int2) p) CS_MAIN()"⟩ := by
    decide +kernel
  have entered : ∃ entry ∈ (compile job ⟨[]⟩).entry, entry.mainName = "é_MAIN_INT2___" := by
    decide +kernel
  obtain ⟨entry, given, main⟩ := entered
  exact ⟨_, entry, found, by decide +kernel, covers line _ found, given, main,
    named job ⟨[]⟩ entry given⟩

end IspcShader
