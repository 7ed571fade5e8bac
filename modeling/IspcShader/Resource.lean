import IspcShader.Job
import IspcShader.Declaration
import IspcShader.Text.Search

/-!
Resources bound from outside, and group-shared storage: how they are declared at file scope and as
parameters.
-/
namespace IspcShader

structure Resource where
  /-- The type as written, such as `RWBuffer(float4)`. -/
  declaredType : Text
  /-- The element type, such as `float4`. -/
  baseType : Text
  name : Text
  baseName : Text
  isArray : Bool
  isReadonly : Bool
  deriving DecidableEq, Repr

namespace Resource

/-- Only types that mention `RW` or start with `W` can be written to. -/
def ofDeclaration (declaration : Declaration.Resource) : Resource where
  declaredType := declaration.type
  baseType := Macro.unwrap declaration.type
  name := declaration.name
  baseName := Macro.arrayBase declaration.name
  isArray := Macro.hasBrackets declaration.name
  isReadonly := !(Text.contains "RW" declaration.type || Text.startsWith "W" declaration.type)

def isUniformBuffer (resource : Resource) : Bool :=
  Text.contains "CBUFFER" resource.declaredType

/-- A single uniform buffer is passed by reference, everything else as an array. -/
def isByReference (resource : Resource) : Bool :=
  resource.isUniformBuffer && !resource.isArray

/-- The name of the handle at file scope and of the implementation's parameter. -/
def handleName (resource : Resource) : Text :=
  resource.baseName

def qualifier (resource : Resource) : Text :=
  if resource.isReadonly then "const " else ""

def handle (resource : Resource) : Text :=
  if resource.isByReference then "uniform " ++ resource.baseType ++ " " ++ resource.name ++ ";"
  else
    "uniform " ++ resource.qualifier ++ resource.baseType ++ " * uniform " ++
      resource.baseName ++ ";"

def parameter (resource : Resource) (suffix : Text) : Text :=
  if resource.isByReference then
    "uniform const " ++ resource.baseType ++ "& " ++ resource.baseName ++ suffix
  else
    "uniform " ++ resource.qualifier ++ resource.baseType ++ " " ++ resource.baseName ++
      suffix ++ "[]"

end Resource

/-- An expanded declaration: the definition through which `Get` finds the name, and the line that
takes the declaration's place. -/
structure Expansion where
  accessor : Text
  declaration : Text
  deriving DecidableEq, Repr

namespace Expansion

def accessorFor (name : Text) : Text :=
  "#define _Get" ++ name ++ " " ++ name

def ofResource (resource : Resource) (line : Text) (policy : ResourcePolicy) : Expansion where
  accessor := accessorFor resource.handleName
  declaration :=
    let remark : Text := "// " ++ Text.trimStart line
    match policy with
    | .comment => remark
    | .alias => resource.handle ++ " " ++ remark

def ofShared (declaration : Declaration.Shared) : Expansion where
  accessor := accessorFor (Macro.arrayBase declaration.name)
  declaration := "uniform " ++ declaration.type ++ " " ++ declaration.name ++ ";"

def lines (expansion : Expansion) : List Text :=
  [expansion.accessor, expansion.declaration]

end Expansion
end IspcShader
