import IspcShader.Proofs.Command.Parameter
import IspcShader.Proofs.Text.Lines
import IspcShader.Proofs.Text.Utf8

/-!
The job that settings describe, told by what the output path, the input and the parameters are. The
settings give this job, or report the first of these that is wrong.
-/
namespace IspcShader

open Text

namespace Path

/-- The path leads to a file of this name: the last component that does not stay where it is, unless
that leads up. -/
structure Names (path : Path) (name : Text) : Prop where
  moves : isHere (utf8 name) = false
  last : ∃ front back, path.components = front ++ utf8 name :: back ∧
    ∀ other ∈ back, isHere other = true
  down : isUp (utf8 name) = false

theorem getLast?_filter_isHere_eq_some_iff {components : List Name} {last : Name} :
    (components.filter (!isHere ·)).getLast? = some last ↔ isHere last = false ∧
      ∃ front back, components = front ++ last :: back ∧ ∀ other ∈ back, isHere other = true := by
  rw [List.getLast?_filter, List.find?_eq_some_iff_append]
  constructor
  · rintro ⟨moves, behind, before, turned, stays⟩
    refine ⟨by simpa using moves, before.reverse, behind.reverse, ?_, ?_⟩
    · rw [List.reverse_eq_iff.mp turned]
      simp
    · intro other member
      simpa using stays other (List.mem_reverse.mp member)
  · rintro ⟨moves, front, back, rfl, stays⟩
    refine ⟨by simpa using moves, back.reverse, front.reverse, by simp, ?_⟩
    intro other member
    simpa using stays other (List.mem_reverse.mp member)

theorem fileName?_eq_some_iff_getLast? {path : Path} {name : Name} :
    path.fileName? = some name ↔
      (path.components.filter (!isHere ·)).getLast? = some name ∧ isUp name = false := by
  unfold fileName?
  cases (path.components.filter (!isHere ·)).getLast? with
  | none => simp
  | some last =>
    simp only [Option.bind_eq_bind, Option.bind_some, Option.some.injEq]
    cases up : isUp last with
    | true =>
      refine iff_of_false (by simp) ?_
      rintro ⟨rfl, down⟩
      exact Bool.false_ne_true (down.symm.trans up)
    | false =>
      simp only [Bool.false_eq_true, if_false, Option.some.injEq]
      refine ⟨?_, And.left⟩
      rintro rfl
      exact ⟨rfl, up⟩

theorem fileName?_eq_some_iff {path : Path} {name : Text} :
    path.fileName? = some (utf8 name) ↔ path.Names name := by
  rw [fileName?_eq_some_iff_getLast?, getLast?_filter_isHere_eq_some_iff]
  constructor
  · rintro ⟨⟨moves, last⟩, down⟩
    exact ⟨moves, last, down⟩
  · rintro ⟨moves, last, down⟩
    exact ⟨⟨moves, last⟩, down⟩

end Path

namespace NumberedLine

/-- All lines of a text in their order, numbered from 1. -/
structure IsListing (text : Text) (listing : List NumberedLine) : Prop where
  texts : HasLines text (listing.map NumberedLine.text)
  numbers : ∀ index line, listing[index]? = some line → line.file = 0 ∧ line.number = index + 1

theorem getElem?_ofText (text : Text) (index : Nat) :
    (ofText text)[index]? = (lines text)[index]?.map fun line => ⟨0, index + 1, line⟩ := by
  simp [ofText, List.getElem?_zipIdx, Function.comp_def]

theorem isListing_iff {text : Text} {listing : List NumberedLine} :
    IsListing text listing ↔ listing = ofText text := by
  constructor
  · rintro ⟨texts, numbers⟩
    refine List.ext_getElem? fun index => ?_
    rw [getElem?_ofText, ← texts.eq_lines, List.getElem?_map]
    cases found : listing[index]? with
    | none => rfl
    | some line =>
      obtain ⟨file, number⟩ := numbers index line found
      rw [Option.map_some, Option.map_some, ← file, ← number]
  · rintro rfl
    refine ⟨hasLines_iff.mpr ?_, ?_⟩
    · refine List.ext_getElem? fun index => ?_
      rw [List.getElem?_map, getElem?_ofText, Option.map_map]
      exact Option.map_id'
    · intro index line found
      rw [getElem?_ofText] at found
      obtain ⟨text, -, rfl⟩ := Option.map_eq_some_iff.mp found
      exact ⟨rfl, rfl⟩

end NumberedLine

namespace Command

/-- The job is what the settings ask for, given an input that holds `text`. -/
structure Settings.Describes (settings : Settings) (text : Text) (job : Job) : Prop where
  name : settings.output.Names job.shader.name
  stage : job.shader.stage = settings.stage
  returnType : job.shader.returnType = settings.returnType
  waveOps : job.shader.waveOps = if settings.waveOps then .basic else {}
  structParams : List.Forall₂ Spells settings.structParams job.shader.structParams
  builtinParams : List.Forall₂ Spells settings.builtinParams job.shader.builtinParams
  lines : NumberedLine.IsListing text job.shader.lines
  binary : job.binary =
    { filename := job.shader.name
      capabilities := if settings.invariant then .invariant else {}
      source := some settings.input }
  policy : job.options.policy = settings.policy
  mangleEntry : job.options.mangleEntry = !settings.keepName

section Job

variable {settings : Settings} {text name : Text}

theorem outputName?_eq_some_iff :
    settings.outputName? = some name ↔ settings.output.Names name := by
  rw [← Path.fileName?_eq_some_iff, Settings.outputName?, Option.bind_eq_some_iff]
  constructor
  · rintro ⟨bytes, found, decoded⟩
    rw [ofUtf8?_eq_some_iff.mp decoded]
    exact found
  · intro found
    exact ⟨utf8 name, found, ofUtf8?_eq_some_iff.mpr rfl⟩

theorem outputName?_eq_none_iff :
    settings.outputName? = none ↔ ∀ name, ¬ settings.output.Names name := by
  simp only [Option.eq_none_iff_forall_ne_some, ne_eq, outputName?_eq_some_iff]

theorem job_of_describes {job : Job} (described : settings.Describes text job) :
    settings.job text = .ok job := by
  obtain ⟨⟨name, stage, returnType, waveOps, structs, builtins, lines⟩, binary, policy, mangle⟩ :=
    job
  obtain ⟨named, rfl, rfl, rfl, structs, builtins, listed, built, rfl, rfl⟩ := described
  dsimp only at named structs builtins listed built
  subst built
  simp only [Settings.job, outputName?_eq_some_iff.mpr named, readParams_of_spells structs,
    readParams_of_spells builtins, NumberedLine.isListing_iff.mp listed]
  rfl

theorem exists_describes (text : Text) (named : settings.output.Names name)
    {structs builtins : List Parameter} (first : List.Forall₂ Spells settings.structParams structs)
    (second : List.Forall₂ Spells settings.builtinParams builtins) :
    ∃ job, settings.Describes text job := by
  let binary : Binary :=
    { filename := name
      capabilities := if settings.invariant then .invariant else {}
      source := some settings.input }
  exact ⟨⟨⟨name, _, _, _, structs, builtins, _⟩, binary, ⟨_, _⟩⟩, named, rfl, rfl, rfl,
    first, second, NumberedLine.isListing_iff.mpr rfl, rfl, rfl, rfl⟩

/-- The settings give a job, or the first thing that is wrong with them. -/
theorem job_cases (settings : Settings) (text : Text) :
    ((∀ name, ¬ settings.output.Names name) ∧
        settings.job text = .error (.invalidOutput settings.output)) ∨
      (∃ name error, settings.output.Names name ∧
        FirstFault FaultyParam settings.structParams error ∧ settings.job text = .error error) ∨
      (∃ name structs error, settings.output.Names name ∧
        List.Forall₂ Spells settings.structParams structs ∧
        FirstFault FaultyParam settings.builtinParams error ∧ settings.job text = .error error) ∨
      ∃ job, settings.Describes text job := by
  cases named : settings.outputName? with
  | none =>
    refine .inl ⟨outputName?_eq_none_iff.mp named, ?_⟩
    simp only [Settings.job, named]
    rfl
  | some name =>
    have names := outputName?_eq_some_iff.mp named
    rcases firstFault_or_spells settings.structParams with ⟨error, first⟩ | ⟨structs, spelt⟩
    · refine .inr (.inl ⟨name, error, names, first, ?_⟩)
      simp only [Settings.job, named, readParams_of_firstFault first]
      rfl
    rcases firstFault_or_spells settings.builtinParams with ⟨error, first⟩ | ⟨builtins, spelt'⟩
    · refine .inr (.inr (.inl ⟨name, structs, error, names, spelt, first, ?_⟩))
      simp only [Settings.job, named, readParams_of_spells spelt, readParams_of_firstFault first]
      rfl
    · exact .inr (.inr (.inr (exists_describes text names spelt spelt')))

theorem describes_of_job {job : Job} (made : settings.job text = .ok job) :
    settings.Describes text job := by
  rcases job_cases settings text with
    ⟨-, failed⟩ | ⟨-, error, -, -, failed⟩ | ⟨-, -, error, -, -, -, failed⟩ | ⟨other, described⟩
  all_goals try exact nomatch failed.symm.trans made
  obtain rfl : other = job := Except.ok.inj ((job_of_describes described).symm.trans made)
  exact described

end Job

end Command

end IspcShader
