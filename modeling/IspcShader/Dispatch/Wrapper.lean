import IspcShader.Dispatch.Formula
import IspcShader.EntryPoint.Builtin
import IspcShader.Resource

/-!
The exported function that runs an entry point over a dispatch grid. It takes the resources and the
extents, binds the handles at file scope where there are any, and calls the implementation once per
invocation.
-/
namespace IspcShader.Dispatch

def argSuffix : Text :=
  "_arg"

def implementationName (main : Text) : Text :=
  main ++ "_impl"

def extentParams : List Text :=
  [Quantity.extentX, .extentY, .extentZ].map fun extent => "uniform uint " ++ extent.name

def signature (main : Text) (resources : List Resource) : Text :=
  "export void " ++ main ++ "(" ++
    List.intercalate ", " (resources.map (·.parameter argSuffix) ++ extentParams) ++ ") \x7b"

def bindingLine (resource : Resource) : Text :=
  "    " ++ resource.handleName ++ " = " ++ resource.handleName ++ argSuffix ++ ";"

def bindings (resources : List Resource) : ResourcePolicy → List Text
  | .comment => []
  | .alias => resources.map bindingLine

def coordinateLines : List Text :=
  ["    uniform uint total_invocations = " ++ totalFormula.render ++ ";",
   "    foreach (invocation = 0 ... total_invocations) \x7b",
   "        uint x = " ++ xFormula.render ++ ";",
   "        uint y = " ++ yFormula.render ++ ";",
   "        uint z = " ++ zFormula.render ++ ";"]

/-- The call of the implementation: first the resources, then the coordinates. -/
def callLine (main : Text) (resources : List Resource) (args : List CoordinateArg) : Text :=
  "        " ++ implementationName main ++ "(" ++
    List.intercalate ", " (resources.map (·.handleName ++ argSuffix) ++ args.map (·.name)) ++ ");"

def argLine (arg : CoordinateArg) : Text :=
  "        " ++ arg.statement

def wrapper (main : Text) (resources : List Resource) (args : List CoordinateArg)
    (policy : ResourcePolicy) : List Text :=
  [signature main resources] ++ bindings resources policy ++ coordinateLines ++
    args.map argLine ++ [callLine main resources args, "    \x7d", "\x7d"]

end IspcShader.Dispatch
