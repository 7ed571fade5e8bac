import IspcShader.Event
import IspcShader.Job
import IspcShader.Macro.Bracket
import IspcShader.Text.Search
import IspcShader.Text.Word

/-!
Builtin parameters of an entry point. The dispatch coordinate is supplied by the wrapper; any other
builtin has no counterpart. Each parameter is looked up in the parameter text as the parameters
before it have left it.
-/
namespace IspcShader

structure CoordinateArg where
  type : Text
  name : Text
  deriving DecidableEq, Repr

namespace CoordinateArg

def axes : List Text :=
  ["x", "y", "z"]

/-- The number of components: the digit at the end of the type's name, or one if there is none. -/
def lanes (arg : CoordinateArg) : Nat :=
  match arg.type.getLast? with
  | some c => if c.isDigit then c.toNat - '0'.toNat else 1
  | none => 1

def isTooWide (arg : CoordinateArg) : Bool :=
  decide (axes.length < arg.lanes)

/-- The value in the dispatch loop: one axis for each component, as far as there are axes. -/
def value (arg : CoordinateArg) : Text :=
  if arg.lanes = 1 then "x"
  else "\x7b " ++ List.intercalate ", " (axes.take arg.lanes) ++ " \x7d"

def statement (arg : CoordinateArg) : Text :=
  arg.type ++ " " ++ arg.name ++ " = " ++ arg.value ++ ";"

end CoordinateArg

namespace Parameter

/-- What follows the variable in `text`, when it starts with blanks, then the variable, and no word
character after it. -/
def restAfterVar? (var text : Text) : Option Text :=
  if (Text.leadingBlanks text).isEmpty then none
  else do
    let rest ← Text.strip? var (Text.trimStart text)
    if Text.startsOffWord rest then some rest else none

/-- The text before and after the first place where the parameter is declared: its type, blanks and
its variable, with no word character behind. -/
def locate? (param : Parameter) (params : Text) : Option (Text × Text) :=
  (Text.occurrences param.type params).findSome? fun found =>
    (restAfterVar? param.var found.after).map fun rest => (found.before, rest)

def isDispatchCoordinate (param : Parameter) : Bool :=
  Text.sameIgnoringCase (Macro.outerName param.type) "SV_DispatchThreadID"

end Parameter

/-- The parameter text after some builtin parameters, the coordinates among them, and the events. -/
structure BuiltinScan where
  params : Text
  args : List CoordinateArg := []
  events : List Event := []
  deriving DecidableEq, Repr

namespace BuiltinScan

/-- Records a builtin parameter of the entry point on line `number`, given the texts around it.
Where it is declared, the macro layer of its type is taken off. -/
def record (entryLine : Text) (number : Nat) (scan : BuiltinScan) (param : Parameter) :
    Option (Text × Text) → BuiltinScan
  | none =>
    { scan with
      events := scan.events ++ [.missingParam param.type param.var (Text.trim entryLine) number] }
  | some (before, after) =>
    let type := Macro.unwrap param.type
    let params := before ++ type ++ " " ++ param.var ++ after
    if param.isDispatchCoordinate then
      let arg : CoordinateArg := ⟨type, param.var⟩
      { params
        args := scan.args ++ [arg]
        events := scan.events ++
          if arg.isTooWide then [.excessComponents param.var arg.lanes number] else [] }
    else
      { params
        args := scan.args
        events := scan.events ++ [.unsupportedBuiltin param.type param.var number] }

def visit (entryLine : Text) (number : Nat) (scan : BuiltinScan)
    (param : Parameter) : BuiltinScan :=
  record entryLine number scan param (param.locate? scan.params)

def run (entryLine : Text) (number : Nat) (builtins : List Parameter)
    (params : Text) : BuiltinScan :=
  builtins.foldl (visit entryLine number) { params }

end BuiltinScan
end IspcShader
