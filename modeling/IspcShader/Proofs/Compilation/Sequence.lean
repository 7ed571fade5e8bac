import IspcShader.Compilation.Build
import IspcShader.Proofs.Compilation.Capability
import IspcShader.Proofs.File.Atomic

/-!
Builds of one binary, one after the other. A build changes nothing of the binary but its wave
operations, and those are not read when a shader is compiled; so what a build writes does not depend
on the builds before it, whether they succeeded or not.
-/
namespace IspcShader

theorem run_build_of_source {σ : Type} (files : FileAccess (StateM σ)) {job : Job} {origin : Path}
    (given : job.binary.source = some origin) (header : Header) (path : Path) (store : σ) :
    let compiled := compile job header
    let binary := { job.binary with waveOps := job.shader.waveOps }
    (build files job header path).run store =
      match (files.write path compiled.source).run store with
      | (.ok (), after) =>
        (⟨binary, .ok ⟨0, []⟩, compiled.events ++
          [.written path.display compiled.resources.length]⟩, after)
      | (.error fault, after) =>
        (⟨binary, .error (.writeOutput path fault), compiled.events⟩, after) := by
  intro compiled binary
  have recast :
      compile { job with binary := { job.binary with waveOps := job.shader.waveOps } } header =
      compiled :=
    @compile_recast job job.binary.capabilities job.shader.waveOps header rfl
  have present : job.binary.source.isNone = false := by rw [given, Option.isNone_some]
  simp only [build, present, Bool.false_eq_true, if_false, recast, StateT.run_bind]
  rcases (files.write path compiled.source).run store with ⟨_ | _, after⟩ <;> rfl

structure Order where
  shader : Shader
  header : Header
  options : Options
  path : Path

/-- The binary between two builds, and the files as they are then. -/
structure Session (σ : Type) where
  binary : Binary
  store : σ

namespace Session

variable {σ : Type} (files : FileAccess (StateM σ))

def fulfil (session : Session σ) (order : Order) : Except BuildError Receipt × Session σ :=
  let (made, store) :=
    (build files ⟨order.shader, session.binary, order.options⟩ order.header order.path).run
      session.store
  (made.result, ⟨made.binary, store⟩)

def after (session : Session σ) (orders : List Order) : Session σ :=
  orders.foldl (fun session order => (session.fulfil files order).2) session

/-- The binary of the session is this one, up to its wave operations. -/
structure Keeps (binary : Binary) (session : Session σ) : Prop where
  filename : session.binary.filename = binary.filename
  capabilities : session.binary.capabilities = binary.capabilities
  source : session.binary.source = binary.source

variable {files} {session : Session σ} {order : Order}

theorem fulfil_of_missing (missing : session.binary.source = none) :
    session.fulfil files order = (.error (.missingSource session.binary.filename), session) := by
  simp only [fulfil, build, missing, Option.isNone_none, if_true]
  rfl

theorem fulfil_of_source {origin : Path} (given : session.binary.source = some origin) :
    let compiled := compile ⟨order.shader, session.binary, order.options⟩ order.header
    let made := (files.write order.path compiled.source).run session.store
    session.fulfil files order =
      (match made.1 with
        | .ok () => .ok ⟨0, []⟩
        | .error fault => .error (.writeOutput order.path fault),
       ⟨{ session.binary with waveOps := order.shader.waveOps }, made.2⟩) := by
  intro compiled made
  rw [fulfil, run_build_of_source files given]
  rcases outcome : (files.write order.path compiled.source).run session.store with
    ⟨_ | _, store⟩ <;>
    simp only [made, outcome]

variable {binary : Binary}

theorem keeps_fulfil (keeps : Keeps binary session) :
    Keeps binary (session.fulfil files order).2 := by
  cases given : session.binary.source with
  | none =>
    rw [fulfil_of_missing given]
    exact keeps
  | some origin =>
    rw [fulfil_of_source given]
    exact ⟨keeps.filename, keeps.capabilities, keeps.source⟩

theorem keeps_after (orders : List Order) (keeps : Keeps binary session) :
    Keeps binary (session.after files orders) := by
  induction orders generalizing session with
  | nil => exact keeps
  | cons order rest ih => exact ih (keeps_fulfil keeps)

theorem compile_of_keeps (keeps : Keeps binary session) (shader : Shader) (options : Options)
    (header : Header) :
    compile ⟨shader, session.binary, options⟩ header =
      compile ⟨shader, binary, options⟩ header := by
  have recast : session.binary = { binary with waveOps := session.binary.waveOps } := by
    rw [← keeps.filename, ← keeps.capabilities, ← keeps.source]
  rw [recast]
  exact @compile_recast ⟨shader, binary, options⟩ binary.capabilities
    session.binary.waveOps header rfl

/-- A build among others. Of the binary only the wave operations change, namely to those of the
shader. Without a source nothing happens at all; otherwise the build writes what the shader compiles
to for the binary as it was in the beginning, or fails to write and leaves all files as they are. -/
theorem fulfil_independent {content : σ → Path → Option Text} (atomic : files.IsAtomic content)
    (binary : Binary) (store : σ) (front : List Order) (order : Order) :
    let before := after files ⟨binary, store⟩ front
    let answer := (before.fulfil files order).1
    let behind := (before.fulfil files order).2
    let source := (compile ⟨order.shader, binary, order.options⟩ order.header).source
    behind.binary.filename = binary.filename ∧ behind.binary.capabilities = binary.capabilities ∧
      behind.binary.source = binary.source ∧
      (binary.source = none → answer = .error (.missingSource binary.filename) ∧ behind = before) ∧
      (binary.source ≠ none → behind.binary.waveOps = order.shader.waveOps ∧
        match ((files.write order.path source).run before.store).1 with
        | .ok () => answer = .ok ⟨0, []⟩ ∧ content behind.store order.path = some source
        | .error fault =>
          answer = .error (.writeOutput order.path fault) ∧
            content behind.store = content before.store) := by
  intro before answer behind source
  have keeps : Keeps binary before := keeps_after front ⟨rfl, rfl, rfl⟩
  have kept : Keeps binary behind := keeps_fulfil keeps
  refine ⟨kept.filename, kept.capabilities, kept.source, ?_, ?_⟩
  · intro missing
    dsimp only [answer, behind]
    rw [fulfil_of_missing (keeps.source.trans missing), keeps.filename]
    exact ⟨rfl, rfl⟩
  · intro present
    obtain ⟨origin, given⟩ := Option.ne_none_iff_exists'.mp present
    have made := @fulfil_of_source σ files before order origin (keeps.source.trans given)
    rw [compile_of_keeps keeps] at made
    dsimp only [answer, behind]
    rw [made]
    refine ⟨rfl, ?_⟩
    rcases outcome : (files.write order.path source).run before.store with ⟨fault | _, store'⟩
    · exact ⟨rfl, atomic.refused outcome⟩
    · exact ⟨rfl, atomic.written outcome⟩

theorem fulfil_independent_retry :
    let binary : Binary := { filename := "sky.comp", source := some "sky.fsl", waveOps := ⟨4⟩ }
    let shader : Shader :=
      { name := "Sky", stage := .comp, waveOps := .basic, lines := [⟨0, 1, "int a;"⟩] }
    let other : Order := ⟨{ shader with name := "Sea", waveOps := ⟨2⟩ }, ⟨[]⟩, {}, "sky.ispc"⟩
    let lost : Order := ⟨{ shader with waveOps := ⟨8⟩ }, ⟨[]⟩, {}, "missing/sky.ispc"⟩
    let again : Order := ⟨shader, ⟨[]⟩, {}, "sky.ispc"⟩
    Store.access.IsAtomic Store.content ∧ binary.source ≠ none ∧
      ((after Store.access ⟨binary, {}⟩ [other]).fulfil Store.access lost).1 =
        .error (.writeOutput lost.path .notFound) ∧
      ((after Store.access ⟨binary, {}⟩ [other]).fulfil Store.access lost).2.binary.waveOps = ⟨8⟩ ∧
      ((after Store.access ⟨binary, {}⟩ [other, lost]).fulfil Store.access again).1 = .ok ⟨0, []⟩ ∧
      ((after Store.access ⟨binary, {}⟩ [other, lost]).fulfil Store.access again).2.binary.waveOps =
        .basic ∧
      ((after Store.access ⟨binary, {}⟩ [other, lost]).fulfil Store.access again).2.store.content
        again.path = some (compile ⟨again.shader, binary, again.options⟩ again.header).source := by
  intro binary shader other lost again
  have refused : ((Store.access.write lost.path
      (compile ⟨lost.shader, binary, lost.options⟩ lost.header).source).run
        (after Store.access ⟨binary, {}⟩ [other]).store).1 = .error .notFound := by
    decide +kernel
  have accepted : ((Store.access.write again.path
      (compile ⟨again.shader, binary, again.options⟩ again.header).source).run
        (after Store.access ⟨binary, {}⟩ [other, lost]).store).1 = .ok () := by
    decide +kernel
  have present : binary.source ≠ none := Option.some_ne_none _
  obtain ⟨-, -, -, -, failing⟩ := fulfil_independent Store.isAtomic_access binary {} [other] lost
  obtain ⟨-, -, -, -, succeeding⟩ :=
    fulfil_independent Store.isAtomic_access binary {} [other, lost] again
  obtain ⟨early, fails⟩ := failing present
  obtain ⟨late, succeeds⟩ := succeeding present
  rw [refused] at fails
  rw [accepted] at succeeds
  exact ⟨Store.isAtomic_access, present, fails.1, early, succeeds.1, late, succeeds.2⟩

end Session

end IspcShader
