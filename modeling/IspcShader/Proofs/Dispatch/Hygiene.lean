import Mathlib.Data.List.Forall2
import Mathlib.Data.List.Nodup
import IspcShader.Proofs.EntryPoint.Accounting
import IspcShader.Proofs.Text.Word

/-!
The names that a wrapper declares. Its own names and the suffixed names of the resources never meet,
but a coordinate keeps the name that the shader gave it; so the names are distinct unless a
coordinate takes one of the others.
-/
namespace IspcShader

open Text

namespace Dispatch

/-- A parameter or a line that declares a name: as a parameter, as an array parameter, or with a
value. The name stands behind the end of a word, so no longer name is meant. -/
inductive Declares : Text → Text → Prop
  | plain {front : Text} (name : Text) (off : endsOffWord front = true) :
      Declares (front ++ name) name
  | array {front : Text} (name : Text) (off : endsOffWord front = true) :
      Declares (front ++ name ++ "[]") name
  | valued {front : Text} (name value : Text) (off : endsOffWord front = true) :
      Declares (front ++ name ++ " = " ++ value) name

def ownNames : List Text :=
  ["dispatch_x", "dispatch_y", "dispatch_z", "total_invocations", "invocation", "x", "y", "z"]

def resourceNames (resources : List Resource) : List Text :=
  resources.map fun resource => resource.handleName ++ "_arg"

def declaredNames (resources : List Resource) (args : List CoordinateArg) : List Text :=
  resourceNames resources ++ ownNames ++ args.map CoordinateArg.name

def wrapperParams (resources : List Resource) : List Text :=
  resources.map (·.parameter argSuffix) ++ extentParams

section Declares

theorem declares_parameter (resource : Resource) :
    Declares (resource.parameter argSuffix) (resource.handleName ++ "_arg") := by
  unfold Resource.parameter
  split
  · rw [List.append_assoc]
    exact .plain _ ((endsOffWord_append (by decide) _).trans (by decide))
  · rw [List.append_assoc (_ ++ _) resource.baseName argSuffix]
    exact .array _ ((endsOffWord_append (by decide) _).trans (by decide))

theorem declares_argLine (arg : CoordinateArg) : Declares (argLine arg) arg.name := by
  have shape :
      argLine arg = "        " ++ arg.type ++ " " ++ arg.name ++ " = " ++ (arg.value ++ ";") := by
    unfold argLine CoordinateArg.statement
    simp only [List.append_assoc]
  rw [shape]
  exact .valued _ _ ((endsOffWord_append (by decide) _).trans (by decide))

theorem forall₂_ownNames : List.Forall₂ Declares (extentParams ++ coordinateLines) ownNames := by
  have shape : extentParams ++ coordinateLines =
      (["uniform uint " ++ "dispatch_x",
       "uniform uint " ++ "dispatch_y",
       "uniform uint " ++ "dispatch_z",
       "    uniform uint " ++ "total_invocations" ++ " = " ++ (totalFormula.render ++ ";"),
       "    foreach (" ++ "invocation" ++ " = " ++ "0 ... total_invocations) \x7b",
       "        uint " ++ "x" ++ " = " ++ (xFormula.render ++ ";"),
       "        uint " ++ "y" ++ " = " ++ (yFormula.render ++ ";"),
       "        uint " ++ "z" ++ " = " ++ (zFormula.render ++ ";")] : List Text) := by
    decide +kernel
  have extent (name : Text) : Declares ("uniform uint " ++ name) name := .plain name (by decide)
  have coordinate (name value : Text) : Declares ("        uint " ++ name ++ " = " ++ value) name :=
    .valued name value (by decide)
  rw [shape]
  refine .cons (extent _) (.cons (extent _) (.cons (extent _) (.cons ?_ (.cons ?_ ?_))))
  · exact .valued _ _ (by decide)
  · exact .valued _ _ (by decide)
  · exact .cons (coordinate _ _) (.cons (coordinate _ _) (.cons (coordinate _ _) .nil))

/-- The parameters and the lines of a wrapper that declare something, each with its name. -/
theorem forall₂_declaredNames (resources : List Resource) (args : List CoordinateArg) :
    List.Forall₂ Declares (wrapperParams resources ++ (coordinateLines ++ args.map argLine))
      (declaredNames resources args) := by
  have params :
      List.Forall₂ Declares (resources.map (·.parameter argSuffix)) (resourceNames resources) := by
    rw [resourceNames, List.forall₂_map_left_iff, List.forall₂_map_right_iff, List.forall₂_same]
    exact fun resource _ => declares_parameter resource
  have lines : List.Forall₂ Declares (args.map argLine) (args.map CoordinateArg.name) := by
    rw [List.forall₂_map_left_iff, List.forall₂_map_right_iff, List.forall₂_same]
    exact fun arg _ => declares_argLine arg
  rw [wrapperParams, ← List.append_assoc, List.append_assoc (resources.map _)]
  exact List.rel_append (List.rel_append params forall₂_ownNames) lines

end Declares

section Distinct

variable {resources : List Resource} {args : List CoordinateArg}

theorem resourceNames_nodup (handles : (resources.map Resource.handleName).Nodup) :
    (resourceNames resources).Nodup := by
  have suffixed :
      resourceNames resources = (resources.map Resource.handleName).map (· ++ "_arg".toList) := by
    rw [resourceNames, List.map_map]
    rfl
  rw [suffixed]
  exact handles.map fun _ _ same => List.append_cancel_right same

/-- No name of the wrapper's own has the suffix that the resources get. -/
theorem disjoint_ownNames : (resourceNames resources).Disjoint ownNames := by
  intro name suffixed own
  obtain ⟨resource, -, rfl⟩ := List.mem_map.mp suffixed
  have others : ∀ name ∈ ownNames, ¬ "_arg".toList <:+ name := by decide +kernel
  exact others _ own (List.suffix_append _ _)

theorem declaredNames_nodup_iff (handles : (resources.map Resource.handleName).Nodup)
    (named : (args.map CoordinateArg.name).Nodup) :
    (declaredNames resources args).Nodup ↔
      ∀ arg ∈ args, arg.name ∉ resourceNames resources ++ ownNames := by
  have own : ownNames.Nodup := by decide +kernel
  have fixed : (resourceNames resources ++ ownNames).Nodup :=
    List.nodup_append'.mpr ⟨resourceNames_nodup handles, own, disjoint_ownNames⟩
  rw [declaredNames, List.nodup_append', and_iff_right fixed, and_iff_right named]
  constructor
  · intro disjoint arg member taken
    exact disjoint taken (List.mem_map_of_mem member)
  · intro free name taken given
    obtain ⟨arg, member, rfl⟩ := List.mem_map.mp given
    exact free arg member taken

end Distinct

end Dispatch

namespace EntryPoint

theorem args_sublist (marker : EntryMarker) (number : Nat) (shader : Shader)
    (resources : List Resource) (suffix : Option Text) (policy : ResourcePolicy) :
    ((ofMarker marker number shader resources suffix policy).1.args.map CoordinateArg.name).Sublist
      (shader.builtinParams.map Parameter.var) := by
  obtain ⟨args, -, recorded, -, named⟩ := BuiltinScan.exists_foldl_append marker.line number
    ⟨unwrapStructs shader.structParams marker.params, [], []⟩ shader.builtinParams
  rw [ofMarker_of_run rfl]
  dsimp only
  rw [BuiltinScan.run, recorded]
  exact named

/-- The names that a wrapper declares are distinct just when no coordinate has a name of the
wrapper's own or the suffixed name of a resource. -/
theorem names_distinct_iff {shader : Shader} {resources : List Resource}
    (handles : (resources.map Resource.handleName).Nodup)
    (vars : (shader.builtinParams.map Parameter.var).Nodup) (marker : EntryMarker) (number : Nat)
    (suffix : Option Text) (policy : ResourcePolicy) :
    let entry := (ofMarker marker number shader resources suffix policy).1
    let names := Dispatch.declaredNames resources entry.args
    (entry.args.map CoordinateArg.name).Sublist (shader.builtinParams.map Parameter.var) ∧
      (∃ params lines : List Text, entry.wrapper =
          [("export void " ++ entry.mainName ++ "(" ++ List.intercalate ", " params ++
            ") \x7b" : Text)] ++ Dispatch.bindings resources policy ++ lines ++
            [Dispatch.callLine entry.mainName resources entry.args, "    \x7d", "\x7d"] ∧
        List.Forall₂ Dispatch.Declares (params ++ lines) names) ∧
      (names.Nodup ↔
        ∀ arg ∈ entry.args, arg.name ∉ Dispatch.resourceNames resources ++ Dispatch.ownNames) := by
  intro entry names
  have given := args_sublist marker number shader resources suffix policy
  refine ⟨given, ?_, Dispatch.declaredNames_nodup_iff handles (given.nodup vars)⟩
  refine ⟨Dispatch.wrapperParams resources,
    Dispatch.coordinateLines ++ entry.args.map Dispatch.argLine, ?_,
    Dispatch.forall₂_declaredNames resources entry.args⟩
  rw [← List.append_assoc]
  rfl

/-- A coordinate with the suffixed name of a resource is passed in the place of that resource,
too. -/
theorem names_distinct_iff_shadowed :
    let resources :=
      [Resource.ofDeclaration ⟨"Buffer(float4)", "Buf", "UPDATE_FREQ_NONE", "t0", "binding = 0"⟩]
    let shader : Shader :=
      { name := "Shadowed", stage := .comp
        builtinParams :=
          [⟨"SV_DispatchThreadID(uint3)", "Buf_arg"⟩, ⟨"SV_DispatchThreadID(uint)", "id"⟩] }
    let marker : EntryMarker :=
      ⟨"void ", "CS_MAIN", "SV_DispatchThreadID(uint3) Buf_arg, SV_DispatchThreadID(uint) id)"⟩
    let entry := (ofMarker marker 1 shader resources none .alias).1
    (resources.map Resource.handleName).Nodup ∧ (shader.builtinParams.map Parameter.var).Nodup ∧
      ¬ (Dispatch.declaredNames resources entry.args).Nodup ∧
      "        CS_MAIN_impl(Buf_arg, Buf_arg, id);".toList ∈ entry.wrapper := by
  intro resources shader marker entry
  have handles : (resources.map Resource.handleName).Nodup := by decide +kernel
  have vars : (shader.builtinParams.map Parameter.var).Nodup := by decide +kernel
  obtain ⟨-, -, distinct⟩ := names_distinct_iff handles vars marker 1 none .alias
  refine ⟨handles, vars, ?_, by decide +kernel⟩
  intro hygienic
  have member : (⟨"uint3", "Buf_arg"⟩ : CoordinateArg) ∈ entry.args := by decide +kernel
  exact distinct.mp hygienic _ member (by decide +kernel)

/-- A coordinate that is declared a second time from itself. -/
theorem coordinate_declared_from_itself :
    let shader : Shader :=
      { name := "s", stage := .comp, builtinParams := [⟨"SV_DispatchThreadID(uint3)", "x"⟩] }
    ∃ marker, EntryMarker.find? "void CS_MAIN(SV_DispatchThreadID(uint3) x)" = some marker ∧
      let entry := (ofMarker marker 1 shader [] (some "TEST") .alias).1
      "        uint x = invocation % dispatch_x;".toList ∈ entry.wrapper ∧
        "        uint3 x = \x7b x, y, z \x7d;".toList ∈ entry.wrapper ∧
        ¬ (Dispatch.declaredNames [] entry.args).Nodup := by
  intro shader
  refine ⟨⟨"void ", "CS_MAIN", "SV_DispatchThreadID(uint3) x)"⟩, ?_⟩
  decide +kernel

end EntryPoint

end IspcShader
