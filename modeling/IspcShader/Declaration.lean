import IspcShader.Macro.Invocation

/-!
The four macros that declare something on a line of their own. Each is recognised by the start of
the trimmed line and checked for its number of arguments.
-/
namespace IspcShader.Declaration

inductive Kind where
  | struct
  | field
  | resource
  | shared
  deriving DecidableEq, Repr

namespace Kind

def keyword : Kind → Text
  | struct => "STRUCT"
  | field => "DATA"
  | resource => "RES"
  | shared => "GroupShared"

def expectation : Kind → Text
  | struct => "1 argument"
  | field => "2 or 3 arguments"
  | resource => "5 arguments"
  | shared => "2 arguments"

/-- The arguments of the macro, when the line starts with it and its brackets close. -/
def args? (kind : Kind) (line : Text) : Option (List Text) :=
  let line := Text.trimStart line
  if Text.startsWith (kind.keyword ++ "(") line then
    (Macro.Invocation.find? line kind.keyword).map Macro.Invocation.args
  else none

end Kind

/-- A declaring macro with a number of arguments that it does not take. -/
structure Malformed where
  kind : Kind
  count : Nat
  deriving DecidableEq, Repr

def Malformed.message (fault : Malformed) : Text :=
  "malformed " ++ fault.kind.keyword ++ " macro: expected " ++ fault.kind.expectation ++ ", got " ++
    Text.ofNat fault.count

/-- The declaration with these arguments, or a fault if `build` does not take them. -/
def Kind.check {α : Type} (kind : Kind) (build : List Text → Option α) (args : List Text) :
    Except Malformed α :=
  match build args with
  | some declaration => .ok declaration
  | none => .error ⟨kind, args.length⟩

/-- Reads a declaration off a line: nothing if the line is of another kind. -/
def Kind.read {α : Type} (kind : Kind) (build : List Text → Option α) (line : Text) :
    Option (Except Malformed α) :=
  (kind.args? line).map (kind.check build)

/-- The start of a struct block, `STRUCT(name)`. -/
structure Struct where
  name : Text
  deriving DecidableEq, Repr

def Struct.ofArgs? : List Text → Option Struct
  | [name] => some ⟨name⟩
  | _ => none

def Struct.read : Text → Option (Except Malformed Struct) :=
  Kind.struct.read ofArgs?

/-- A member of a struct, `DATA(type, name, semantic)`. -/
structure Field where
  type : Text
  name : Text
  semantic : Option Text
  deriving DecidableEq, Repr

/-- A semantic that is left empty or spelled `none`, in any case, is no semantic. -/
def Field.semantic? (written : Text) : Option Text :=
  if written.isEmpty || Text.sameIgnoringCase written "none" then none else some written

def Field.ofArgs? : List Text → Option Field
  | [type, name] => some ⟨type, name, none⟩
  | [type, name, semantic] => some ⟨type, name, Field.semantic? semantic⟩
  | _ => none

def Field.read : Text → Option (Except Malformed Field) :=
  Kind.field.read ofArgs?

/-- A resource bound from outside, `RES(type, name, frequency, register, binding)`. -/
structure Resource where
  type : Text
  name : Text
  frequency : Text
  register : Text
  binding : Text
  deriving DecidableEq, Repr

def Resource.ofArgs? : List Text → Option Resource
  | [type, name, frequency, register, binding] => some ⟨type, name, frequency, register, binding⟩
  | _ => none

def Resource.read : Text → Option (Except Malformed Resource) :=
  Kind.resource.read ofArgs?

/-- Storage shared by a work group, `GroupShared(type, name)`. -/
structure Shared where
  type : Text
  name : Text
  deriving DecidableEq, Repr

def Shared.ofArgs? : List Text → Option Shared
  | [type, name] => some ⟨type, name⟩
  | _ => none

def Shared.read : Text → Option (Except Malformed Shared) :=
  Kind.shared.read ofArgs?

end IspcShader.Declaration
