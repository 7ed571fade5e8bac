import IspcShader.Dispatch.Wrapper
import IspcShader.EntryPoint.Marker

/-!
The entry point becomes an implementation function that takes every resource as a leading parameter,
and a wrapper that calls it.
-/
namespace IspcShader

/-- A lowered entry point: the implementation's first line, the exported name, the coordinates that
are passed on, and the wrapper. -/
structure EntryPoint where
  line : Text
  mainName : Text
  args : List CoordinateArg
  wrapper : List Text
  deriving DecidableEq, Repr

namespace EntryPoint

def implementationName (entry : EntryPoint) : Text :=
  Dispatch.implementationName entry.mainName

def exportName (entry : Text) : Option Text → Text
  | some suffix => entry ++ "_" ++ suffix
  | none => entry

/-- Unwraps struct parameters: every `Type(var)` becomes `Type var`. -/
def unwrapStructs (structs : List Parameter) (params : Text) : Text :=
  structs.foldl
    (fun params param =>
      Text.replaceAll (param.type ++ "(" ++ param.var ++ ")")
        (param.type ++ " " ++ param.var) params)
    params

/-- Puts the resources in front of the parameters, with a comma between the two if there are any
of both. -/
def withResources (resources : List Resource) (params : Text) : Text :=
  List.intercalate ", " (resources.map (·.parameter "")) ++
    (if resources.isEmpty || Text.startsWith ")" (Text.trimStart params) then ""
      else ", " : Text) ++
    params

/-- The entry point found on line `number`, given the resources declared so far and its builtin
parameters. -/
def ofScan (marker : EntryMarker) (number : Nat) (resources : List Resource) (suffix : Option Text)
    (policy : ResourcePolicy) (scan : BuiltinScan) : EntryPoint × List Event :=
  let main := exportName marker.name suffix
  let entry :=
    { line := marker.before ++ Dispatch.implementationName main ++ "(" ++
        withResources resources scan.params
      mainName := main
      args := scan.args
      wrapper := Dispatch.wrapper main resources scan.args policy }
  (entry,
    scan.events ++ [.entryLowered number marker.name main resources.length scan.args.length])

def ofMarker (marker : EntryMarker) (number : Nat) (shader : Shader) (resources : List Resource)
    (suffix : Option Text) (policy : ResourcePolicy) : EntryPoint × List Event :=
  ofScan marker number resources suffix policy <|
    BuiltinScan.run marker.line number shader.builtinParams
      (unwrapStructs shader.structParams marker.params)

end EntryPoint
end IspcShader
