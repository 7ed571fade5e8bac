import IspcShader.Text.Basic

/-!
Short vector types: two to four elements of one scalar kind. The same type has a short name in a
shader (`float4`), a generic name in ISPC (`float<4>`) and a constructor function (`make_float4`).
-/
namespace IspcShader

inductive ScalarKind where
  | int
  | uint
  | float
  | bool
  deriving DecidableEq, Repr

namespace ScalarKind

def all : List ScalarKind :=
  [int, uint, float, bool]

def name : ScalarKind → Text
  | int => "int"
  | uint => "uint"
  | float => "float"
  | bool => "bool"

/-- Whether a call of the kind's name is a conversion. Booleans are not converted this way. -/
def isCastTarget : ScalarKind → Bool
  | bool => false
  | _ => true

def ofName? (word : Text) : Option ScalarKind :=
  all.find? fun kind => decide (kind.name = word)

@[simp] theorem ofName?_name (kind : ScalarKind) : ofName? kind.name = some kind := by
  cases kind <;> decide

theorem name_of_ofName? {word : Text} {kind : ScalarKind} (h : ofName? word = some kind) :
    kind.name = word := by
  simpa using List.find?_some h

end ScalarKind

inductive VectorWidth where
  | two
  | three
  | four
  deriving DecidableEq, Repr

namespace VectorWidth

def all : List VectorWidth :=
  [two, three, four]

def digit : VectorWidth → Char
  | two => '2'
  | three => '3'
  | four => '4'

def ofDigit? (c : Char) : Option VectorWidth :=
  all.find? fun width => decide (width.digit = c)

@[simp] theorem ofDigit?_digit (width : VectorWidth) : ofDigit? width.digit = some width := by
  cases width <;> decide

theorem digit_of_ofDigit? {c : Char} {width : VectorWidth} (h : ofDigit? c = some width) :
    width.digit = c := by
  simpa using List.find?_some h

end VectorWidth

structure VectorType where
  kind : ScalarKind
  width : VectorWidth
  deriving DecidableEq, Repr

namespace VectorType

def all : List VectorType :=
  ScalarKind.all.flatMap fun kind => VectorWidth.all.map fun width => ⟨kind, width⟩

def shortName (type : VectorType) : Text :=
  type.kind.name ++ [type.width.digit]

def genericName (type : VectorType) : Text :=
  type.kind.name ++ "<" ++ [type.width.digit] ++ ">"

def makerName (type : VectorType) : Text :=
  "make_" ++ type.shortName

def ofShortName? (word : Text) : Option VectorType :=
  all.find? fun type => decide (type.shortName = word)

@[simp] theorem ofShortName?_shortName (type : VectorType) :
    ofShortName? type.shortName = some type := by
  obtain ⟨kind, width⟩ := type
  cases kind <;> cases width <;> decide

theorem shortName_of_ofShortName? {word : Text} {type : VectorType}
    (h : ofShortName? word = some type) : type.shortName = word := by
  simpa using List.find?_some h

end VectorType
end IspcShader
