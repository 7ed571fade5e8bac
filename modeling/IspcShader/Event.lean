import IspcShader.Declaration

/-!
What a compilation reports besides its result, in the order in which it happens.
-/
namespace IspcShader

inductive Event where
  /-- A declaring macro with a wrong number of arguments is left as it is. -/
  | malformed (fault : Declaration.Malformed) (line file : Nat)
  | secondEntry (name : Text) (line : Nat)
  | noEntry (shader : Text)
  /-- A builtin parameter that the entry line does not declare. -/
  | missingParam (type var entryLine : Text) (line : Nat)
  | excessComponents (var : Text) (count line : Nat)
  | unsupportedBuiltin (type var : Text) (line : Nat)
  | resourceFound (line : Nat) (name declaredType : Text) (isReadonly : Bool)
  | entryLowered (line : Nat) (entry main : Text) (resources arguments : Nat)
  | written (path : Text) (resources : Nat)
  deriving DecidableEq, Repr

namespace Event

inductive Level where
  | debug
  | warn
  deriving DecidableEq, Repr

def level : Event → Level
  | resourceFound .. | entryLowered .. | written .. => .debug
  | _ => .warn

def isWarning (event : Event) : Bool :=
  decide (event.level = .warn)

def message : Event → Text
  | malformed fault _ _ => fault.message ++ "; passing line through"
  | secondEntry name _ => "second entry point `" ++ name ++ "` in one shader; passing line through"
  | noEntry _ => "no entry point found; no dispatch wrapper generated"
  | missingParam type var entryLine _ =>
    "entry parameter `" ++ type ++ " " ++ var ++ "` not found in `" ++ entryLine ++ "`"
  | excessComponents var count _ =>
    "SV_DispatchThreadID `" ++ var ++ "` has " ++ Text.ofNat count ++
      " components but it must be 2 or 3"
  | unsupportedBuiltin type var _ =>
    "builtin `" ++ type ++ "` has no CPU equivalent; `" ++ var ++
      "` is not supplied by the dispatch wrapper"
  | resourceFound .. => "extracted resource"
  | entryLowered .. => "rewrote entry point"
  | written .. => "wrote ISPC shader"

inductive Value where
  | number (n : Nat)
  | truth (b : Bool)
  | words (text : Text)
  deriving DecidableEq, Repr

def details : Event → List (Text × Value)
  | malformed _ line file => [("line", .number line), ("file", .number file)]
  | secondEntry _ line | missingParam _ _ _ line | excessComponents _ _ line
  | unsupportedBuiltin _ _ line => [("line", .number line)]
  | noEntry shader => [("shader", .words shader)]
  | resourceFound line name declaredType isReadonly =>
    [("line", .number line), ("name", .words name), ("declared_type", .words declaredType),
     ("readonly", .truth isReadonly)]
  | entryLowered line entry main resources arguments =>
    [("line", .number line), ("entry", .words entry), ("main", .words main),
     ("resources", .number resources), ("main_args", .number arguments)]
  | written path resources => [("dst", .words path), ("resources", .number resources)]

end Event
end IspcShader
