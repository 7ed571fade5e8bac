import IspcShader.Job
import IspcShader.Declaration

/-!
Struct blocks: `STRUCT(Name)` up to the closing brace. Members with a semantic are dropped from the
structs of the entry point's interface; elsewhere they stay, without the semantic.
-/
namespace IspcShader

inductive BlockMode where
  | outside
  /-- Inside the struct `name`; `ignoreSemantics` keeps members that carry a semantic. -/
  | inside (name : Text) (ignoreSemantics : Bool)
  deriving DecidableEq, Repr

namespace BlockMode

def isInside : BlockMode → Bool
  | outside => false
  | inside _ _ => true

def ignoresSemantics : BlockMode → Bool
  | outside => false
  | inside _ ignore => ignore

def name? : BlockMode → Option Text
  | outside => none
  | inside name _ => some name

def close (_ : BlockMode) : BlockMode :=
  outside

end BlockMode

/-- The line that opens a struct: the indentation stays, and so does what follows the first closing
parenthesis, up to trailing blanks. -/
def Declaration.Struct.openingLine (declaration : Declaration.Struct) (line : Text) : Text :=
  Text.leadingBlanks line ++ "struct " ++ declaration.name ++
    Text.trimEnd ((line.dropWhile (· != ')')).drop 1)

def Declaration.Field.isPosition (field : Declaration.Field) : Bool :=
  match field.semantic with
  | some semantic => Text.sameIgnoringCase semantic "SV_Position"
  | none => false

/-- The member declaration, or nothing for a member that only carries a semantic. -/
def Declaration.Field.memberLine? (field : Declaration.Field) (indent : Text)
    (ignoreSemantics : Bool) (capabilities : Capabilities) : Option Text :=
  if field.semantic.isSome && !ignoreSemantics then none
  else
    let qualifier : Text := if capabilities.isInvariant && field.isPosition then "precise " else ""
    some (indent ++ qualifier ++ field.type ++ " " ++ field.name ++ ";")

end IspcShader
