import IspcShader.Proofs.Command.Description
import IspcShader.Proofs.Compilation.Looping

/-!
No search runs for ever in a compilation that a command line asks for. A search gets further on with
each turn if it has something to look for; the macros have their names, and a parameter is refused
by the command line unless it has a type.
-/
namespace IspcShader.Command

open Text

theorem spells_of_param? {written : Text} {param : Parameter} (read : param? written = some param) :
    Spells written param := by
  rcases isInvalid_or_spells written with invalid | ⟨other, spelt⟩
  · rw [param?_of_isInvalid invalid] at read
    cases read
  · obtain rfl : other = param := Option.some.inj ((param?_of_spells spelt).symm.trans read)
    exact spelt

theorem Spells.type_ne_nil {written : Text} {param : Parameter} (spelt : Spells written param) :
    param.type ≠ [] := by
  obtain ⟨type, var, -, solid, -, rfl⟩ := spelt
  intro empty
  have blank := Macro.trim_eq_nil_iff.mp empty
  rw [solid] at blank
  cases blank

theorem typed_of_spells {list : List Text} {params : List Parameter}
    (spelt : List.Forall₂ Spells list params) :
    ∀ param ∈ params, param.type ≠ [] := by
  induction spelt with
  | nil => exact List.forall_mem_nil _
  | cons first _ ih => exact List.forall_mem_cons.mpr ⟨first.type_ne_nil, ih⟩

/-- The searches as loops. The one for a call with a name, and the one for a parameter with a type,
get further on in the text with each turn, and end with what `find?` and `locate?` give. The search
for a call of the empty name stays where it is, and so never ends, just if the text does not start
with a parenthesis. A compilation ends if each builtin parameter has a type; and so does every
compilation of a shader that a command line asks for, since no parameter is read without a type. -/
theorem searches_advance_and_end :
    (∀ text name : Text, name ≠ [] →
      (Macro.Invocation.searchLoop name).Advances text ∧
        (Macro.Invocation.searchLoop name).run text =
          Part.some (Macro.Invocation.find? text name)) ∧
    (∀ (param : Parameter) (params : Text), param.type ≠ [] →
      param.searchLoop.Advances params ∧
        param.searchLoop.run params = Part.some (param.locate? params)) ∧
    (∀ text : Text,
      ((Macro.Invocation.searchLoop []).Stays text ↔ startsWith "(" text = false) ∧
        (¬ ((Macro.Invocation.searchLoop []).run text).Dom ↔ startsWith "(" text = false)) ∧
    (∀ (job : Job) (header : Header), (∀ param ∈ job.shader.builtinParams, param.type ≠ []) →
      Looping.compile job header = Part.some (compile job header)) ∧
    (∀ (written : Text) (param : Parameter), param? written = some param → param.type ≠ []) ∧
    ∀ (settings : Settings) (text : Text) (made : Job), settings.job text = .ok made →
      ∀ (job : Job) (header : Header), job.shader = made.shader →
        Looping.compile job header = Part.some (compile job header) := by
  refine ⟨?_, ?_, ?_, ?_, ?_, ?_⟩
  · intro text name named
    refine ⟨SearchLoop.advances_of_ne_nil named text, ?_⟩
    rw [Macro.Invocation.run_searchLoop, provided_of (SearchLoop.ends_of_ne_nil named text)]
  · intro param params typed
    refine ⟨SearchLoop.advances_of_ne_nil typed params, ?_⟩
    rw [Parameter.run_searchLoop, provided_of (SearchLoop.ends_of_ne_nil typed params)]
  · intro text
    have stays : (Macro.Invocation.searchLoop []).Stays text ↔ startsWith "(" text = false :=
      (SearchLoop.stays_iff_of_empty rfl text).trans (Macro.Invocation.verdict?_searchLoop_nil text)
    rw [SearchLoop.run_dom_iff_of_empty rfl, not_not]
    exact ⟨stays, stays⟩
  · intro job header typed
    exact Looping.compile_of_typed job typed header
  · intro written param read
    exact (spells_of_param? read).type_ne_nil
  · intro settings text made asked job header same
    have typed := typed_of_spells (describes_of_job asked).builtinParams
    rw [← same] at typed
    exact Looping.compile_of_typed job typed header

/-- A builtin parameter as a command line names it; and the same shader with a parameter that has no
type, whose search stays in front of the parameters for ever. -/
theorem searches_advance_and_end_builtin :
    let settings : Settings :=
      ⟨("a.fsl" : Text), ("a.ispc" : Text), .comp, none, [], ["SV_DispatchThreadID(uint3) : id"],
        false, false, .alias, false, none⟩
    let line : Text := "void CS_MAIN(SV_DispatchThreadID(uint3) id)"
    let param : Parameter := ⟨"SV_DispatchThreadID(uint3)", "id"⟩
    let shader : Shader :=
      { name := "a.ispc", stage := .comp, builtinParams := [param], lines := [⟨0, 1, line⟩] }
    let job : Job := ⟨shader, { filename := "a.ispc", source := some ("a.fsl" : Text) }, {}⟩
    let untyped : Job := { job with shader := { shader with builtinParams := [⟨[], "id"⟩] } }
    param? "SV_DispatchThreadID(uint3) : id" = some param ∧ settings.job line = .ok job ∧
      (∀ header, Looping.compile job header = Part.some (compile job header)) ∧
      (∀ header, Looping.compile untyped header = Part.none) ∧ param.type ≠ [] ∧
      param.searchLoop.run "SV_DispatchThreadID(uint3) id)" = Part.some (some ([], (")" : Text))) ∧
      (Macro.Invocation.searchLoop "RES").Advances "XRES(é) RES(b)" ∧
      (Macro.Invocation.searchLoop "RES").run "XRES(é) RES(b)" =
        Part.some (some ⟨"XRES(é) ", "RES", "b", []⟩) ∧
      (Macro.Invocation.searchLoop []).Stays "RES(b)" := by
  intro settings line param shader job untyped
  obtain ⟨calls, builtins, empty, -, -, asked⟩ := searches_advance_and_end
  have made : settings.job line = .ok job := by decide +kernel
  have found :
      Macro.Invocation.find? "XRES(é) RES(b)" "RES" = some ⟨"XRES(é) ", "RES", "b", []⟩ := by
    decide +kernel
  have located : param.locate? "SV_DispatchThreadID(uint3) id)" = some ([], (")" : Text)) := by
    decide +kernel
  have typed : param.type ≠ [] := by decide
  obtain ⟨advances, called⟩ := calls "XRES(é) RES(b)" "RES" (by decide)
  obtain ⟨-, placed⟩ := builtins param "SV_DispatchThreadID(uint3) id)" typed
  rw [found] at called
  rw [located] at placed
  refine ⟨by decide +kernel, made, fun header => asked settings line job made job header rfl, ?_,
    typed, placed, advances, called, (empty "RES(b)").1.mpr (by decide)⟩
  intro header
  have marked :
      EntryMarker.find? line = some ⟨"void ", "CS_MAIN", "SV_DispatchThreadID(uint3) id)"⟩ := by
    decide +kernel
  have kept : Compilation.fate untyped .outside line = .kept := by decide +kernel
  have unseen :
      (Parameter.searchLoop ⟨[], "id"⟩).verdict? ⟨[], "SV_DispatchThreadID(uint3) id)"⟩ = none := by
    decide
  rw [Looping.compile_eq]
  refine provided_of_not fun ends => ?_
  have first : Looping.LineEnds untyped {} ⟨0, 1, line⟩ := ends.1
  obtain ⟨found, -⟩ := first kept _ marked rfl
  exact found rfl unseen

end IspcShader.Command
