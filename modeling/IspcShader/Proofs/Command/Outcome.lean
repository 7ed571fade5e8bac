import IspcShader.Proofs.Command.Description
import IspcShader.Proofs.Compilation.Sequence
import IspcShader.Proofs.File.Change

/-!
What a run leaves behind. The checks are made in a fixed order, all of them before the one write at
the end; so the first check that fails is reported and no file has changed, and otherwise just the
output has.
-/
namespace IspcShader.Command

inductive Check where
  | input
  | outputName
  | structParams
  | builtinParams
  | header
  | output
  deriving DecidableEq, Repr

def Check.order : List Check :=
  [.input, .outputName, .structParams, .builtinParams, .header, .output]

section Spec

variable {σ : Type} (settings : Settings) (files : FileAccess (StateM σ)) (store : σ)

def Settings.headerPath : Path :=
  settings.header.getD files.bundledPath

def Settings.headerText : Except FileFault Text :=
  match settings.header with
  | some path => ((files.read path).run store).1
  | none => (files.readBundled.run store).1

/-- The source that the input is compiled to, with all files as they are. -/
def Settings.TranslatesTo (source : Text) : Prop :=
  ∃ text job header,
    ((files.read settings.input).run store).1 = .ok text ∧ settings.Describes text job ∧
    settings.headerText files store = .ok header ∧ source = (compile job ⟨header⟩).source

inductive Check.Fails : Check → RunError → Prop
  | input {fault : FileFault} (unread : ((files.read settings.input).run store).1 = .error fault) :
      Fails .input (.readInput settings.input fault)
  | outputName (unnamed : ∀ name, ¬ settings.output.Names name) :
      Fails .outputName (.invalidOutput settings.output)
  | structParams {error : RunError} (first : FirstFault FaultyParam settings.structParams error) :
      Fails .structParams error
  | builtinParams {error : RunError} (first : FirstFault FaultyParam settings.builtinParams error) :
      Fails .builtinParams error
  | header {fault : FileFault} (unread : settings.headerText files store = .error fault) :
      Fails .header (.loadHeader (.readHeader (settings.headerPath files) fault))
  | output {source : Text} {fault : FileFault}
      (translated : settings.TranslatesTo files store source)
      (refused : ((files.write settings.output source).run store).1 = .error fault) :
      Fails .output (.build settings.input (.writeOutput settings.output fault))

def Check.Passes (check : Check) : Prop :=
  ∀ error, ¬ check.Fails settings files store error

end Spec

section Uniqueness

variable {σ : Type} {settings : Settings} {files : FileAccess (StateM σ)} {store : σ}

theorem Settings.TranslatesTo.unique {one other : Text}
    (left : settings.TranslatesTo files store one)
    (right : settings.TranslatesTo files store other) : one = other := by
  obtain ⟨text, job, header, read, described, loaded, rfl⟩ := left
  obtain ⟨text', job', header', read', described', loaded', rfl⟩ := right
  obtain rfl : text = text' := Except.ok.inj (read.symm.trans read')
  obtain rfl : job = job' :=
    Except.ok.inj ((job_of_describes described).symm.trans (job_of_describes described'))
  obtain rfl : header = header' := Except.ok.inj (loaded.symm.trans loaded')
  rfl

theorem FaultyParam.unique (written : Text) (a b : RunError) (one : FaultyParam written a)
    (other : FaultyParam written b) : a = b :=
  one.2.trans other.2.symm

theorem Check.Fails.unique (check : Check) (a b : RunError)
    (one : check.Fails settings files store a) (other : check.Fails settings files store b) :
    a = b := by
  cases one with
  | input unread =>
    cases other with
    | input again => rw [Except.error.inj (unread.symm.trans again)]
  | outputName =>
    cases other with
    | outputName => rfl
  | structParams first =>
    cases other with
    | structParams again => exact first.unique FaultyParam.unique again
  | builtinParams first =>
    cases other with
    | builtinParams again => exact first.unique FaultyParam.unique again
  | header unread =>
    cases other with
    | header again => rw [Except.error.inj (unread.symm.trans again)]
  | output translated refused =>
    cases other with
    | output twice again =>
      obtain rfl := translated.unique twice
      rw [Except.error.inj (refused.symm.trans again)]

end Uniqueness

namespace Check

variable {σ : Type} {settings : Settings} {files : FileAccess (StateM σ)} {store : σ}

theorem passes_input {text : Text} (read : ((files.read settings.input).run store).1 = .ok text) :
    input.Passes settings files store := by
  intro error failed
  cases failed with
  | input unread =>
    rw [read] at unread
    cases unread

theorem passes_outputName {name : Text} (named : settings.output.Names name) :
    outputName.Passes settings files store := by
  intro error failed
  cases failed with
  | outputName unnamed => exact unnamed name named

theorem passes_structParams {params : List Parameter}
    (spelt : List.Forall₂ Spells settings.structParams params) :
    structParams.Passes settings files store := by
  intro error failed
  cases failed with
  | structParams first => exact not_firstFault_of_spells spelt error first

theorem passes_builtinParams {params : List Parameter}
    (spelt : List.Forall₂ Spells settings.builtinParams params) :
    builtinParams.Passes settings files store := by
  intro error failed
  cases failed with
  | builtinParams first => exact not_firstFault_of_spells spelt error first

theorem passes_header {text : Text} (loaded : settings.headerText files store = .ok text) :
    header.Passes settings files store := by
  intro error failed
  cases failed with
  | header unread =>
    rw [loaded] at unread
    cases unread

theorem passes_output {source : Text} {after : σ}
    (translated : settings.TranslatesTo files store source)
    (wrote : (files.write settings.output source).run store = (.ok (), after)) :
    output.Passes settings files store := by
  intro error failed
  cases failed with
  | output again refused =>
    rw [again.unique translated, wrote] at refused
    cases refused

end Check

theorem run_bind_of_run {σ α β : Type} {action : StateM σ α} {next : α → StateM σ β}
    {store after : σ} {answer : α} (ran : action.run store = (answer, after)) :
    (action >>= next).run store = (next answer).run after := by
  rw [StateT.run_bind, ran]
  rfl

section Run

variable {σ ι : Type} {files : FileAccess (StateM σ)} {holds : σ → ι → Option Content}
  {leadsTo : σ → Path → Option ι} (settings : Settings) (store : σ)

theorem firstFault_or_describes (files : FileAccess (StateM σ)) (text : Text) (rest : List Check) :
    (∃ error, settings.job text = .error error ∧ FirstFault (Check.Fails settings files store)
        (.outputName :: .structParams :: .builtinParams :: rest) error) ∨
      ∃ job, settings.Describes text job ∧ Check.outputName.Passes settings files store ∧
        Check.structParams.Passes settings files store ∧
        Check.builtinParams.Passes settings files store := by
  rcases job_cases settings text with
    ⟨unnamed, failed⟩ | ⟨name, error, named, first, failed⟩ |
    ⟨name, structs, error, named, spelt, first, failed⟩ | ⟨job, described⟩
  · exact .inl ⟨_, failed, .here (.outputName unnamed)⟩
  · exact .inl ⟨error, failed, .later (Check.passes_outputName named) (.here (.structParams first))⟩
  · exact .inl ⟨error, failed, .later (Check.passes_outputName named)
      (.later (Check.passes_structParams spelt) (.here (.builtinParams first)))⟩
  · exact .inr ⟨job, described, Check.passes_outputName described.name,
      Check.passes_structParams described.structParams,
      Check.passes_builtinParams described.builtinParams⟩

variable (orderly : files.IsOrderly holds leadsTo)
include orderly

theorem run_of_unread {fault : FileFault}
    (unread : ((files.read settings.input).run store).1 = .error fault) :
    (settings.run files).run store = (.error (.readInput settings.input fault), store) := by
  have ran : (files.read settings.input).run store = (.error fault, store) :=
    Prod.ext unread (orderly.read store settings.input)
  rw [Settings.run, run_bind_of_run ran]
  rfl

theorem run_of_read {text : Text} (read : ((files.read settings.input).run store).1 = .ok text) :
    (settings.run files).run store =
      match settings.job text with
      | .error error => (.error error, store)
      | .ok job => (settings.buildJob files job).run store := by
  have ran : (files.read settings.input).run store = (.ok text, store) :=
    Prod.ext read (orderly.read store settings.input)
  rw [Settings.run, run_bind_of_run ran]
  dsimp only
  cases settings.job text <;> rfl

theorem run_loadHeader : (settings.loadHeader files).run store =
    (Header.ofFile (settings.headerPath files) (settings.headerText files store), store) := by
  unfold Settings.loadHeader Settings.headerPath Settings.headerText
  cases settings.header with
  | none => exact Prod.ext rfl (orderly.readBundled store)
  | some path => exact Prod.ext rfl (orderly.read store path)

theorem run_buildJob_of_unread (job : Job) {fault : FileFault}
    (unread : settings.headerText files store = .error fault) :
    (settings.buildJob files job).run store =
      (.error (.loadHeader (.readHeader (settings.headerPath files) fault)), store) := by
  rw [Settings.buildJob, run_bind_of_run (run_loadHeader settings store orderly), unread]
  rfl

theorem run_buildJob_of_read {text header : Text} {job : Job}
    (described : settings.Describes text job)
    (loaded : settings.headerText files store = .ok header) :
    (settings.buildJob files job).run store =
      match (files.write settings.output (compile job ⟨header⟩).source).run store with
      | (.ok (), after) => (.ok (), after)
      | (.error fault, after) =>
        (.error (.build settings.input (.writeOutput settings.output fault)), after) := by
  have source : job.binary.source = some settings.input := by rw [described.binary]
  have built := run_build_of_source files source ⟨header⟩ settings.output store
  rw [Settings.buildJob, run_bind_of_run (run_loadHeader settings store orderly), loaded]
  dsimp only [Header.ofFile] at built ⊢
  rcases wrote : (files.write settings.output (compile job ⟨header⟩).source).run store with
    ⟨fault | _, after⟩ <;> (rw [wrote] at built; rw [run_bind_of_run built]; rfl)

/-- The first check that fails ends the run before any file is changed. If none does, then the run
ends with writing the source. -/
theorem run_cases :
    (∃ error after, FirstFault (Check.Fails settings files store) Check.order error ∧
        (settings.run files).run store = (.error error, after) ∧ holds after = holds store) ∨
      ((∀ check, Check.Passes settings files store check) ∧
        ∃ source after, settings.TranslatesTo files store source ∧
          (files.write settings.output source).run store = (.ok (), after) ∧
          (settings.run files).run store = (.ok (), after)) := by
  cases read : ((files.read settings.input).run store).1 with
  | error fault =>
    exact .inl ⟨_, _, .here (.input read), run_of_unread settings store orderly read, rfl⟩
  | ok text =>
    have inputRead := Check.passes_input read
    have ran := run_of_read settings store orderly read
    rcases firstFault_or_describes settings store files text [.header, .output] with
      ⟨error, refused, first⟩ | ⟨job, described, nameGiven, structsSpelt, builtinsSpelt⟩
    · rw [refused] at ran
      exact .inl ⟨error, store, .later inputRead first, ran, rfl⟩
    rw [job_of_describes described] at ran
    dsimp only at ran
    -- what is left to check once there is a job
    have remaining {error : RunError}
        (first : FirstFault (Check.Fails settings files store) [.header, .output] error) :
        FirstFault (Check.Fails settings files store) Check.order error :=
      .later inputRead (.later nameGiven (.later structsSpelt (.later builtinsSpelt first)))
    cases loaded : settings.headerText files store with
    | error fault =>
      rw [run_buildJob_of_unread settings store orderly job loaded] at ran
      exact .inl ⟨_, store, remaining (.here (.header loaded)), ran, rfl⟩
    | ok header =>
      have headerRead := Check.passes_header loaded
      have translated : settings.TranslatesTo files store (compile job ⟨header⟩).source :=
        ⟨text, job, header, read, described, loaded, rfl⟩
      rw [run_buildJob_of_read settings store orderly described loaded] at ran
      rcases wrote : (files.write settings.output (compile job ⟨header⟩).source).run store with
        ⟨fault | _, after⟩
      · have refused := congrArg Prod.fst wrote
        rw [wrote] at ran
        exact .inl ⟨_, after, remaining
          (.later headerRead (.here (.output translated refused))), ran, orderly.refused wrote⟩
      · rw [wrote] at ran
        refine .inr ⟨?_, _, after, translated, wrote, ran⟩
        intro check
        cases check with
        | input => exact inputRead
        | outputName => exact nameGiven
        | structParams => exact structsSpelt
        | builtinParams => exact builtinsSpelt
        | header => exact headerRead
        | output => exact Check.passes_output translated wrote

end Run

/-- Every check names its own fault; that a binary has no source is none of them. -/
theorem Check.Fails.ne_missingSource {σ : Type} {settings : Settings}
    {files : FileAccess (StateM σ)} {store : σ} {check : Check} {error : RunError}
    (failed : check.Fails settings files store error) (filename : Text) :
    error ≠ .loadHeader (.missingSource filename) ∧
      ∀ input, error ≠ .build input (.missingSource filename) := by
  cases failed with
  | input | outputName | header | output => simp
  | structParams first | builtinParams first =>
    obtain ⟨written, -, -, rfl⟩ := first.exists_fails
    simp

end IspcShader.Command
