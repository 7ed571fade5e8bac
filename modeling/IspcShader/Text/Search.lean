import IspcShader.Text.Basic

/-!
Searching for a fixed text. `cut?` finds the leftmost occurrence. A search that goes on after an
occurrence takes up again behind it, so occurrences never overlap.
-/
namespace IspcShader.Text

/-- What stands before and after the leftmost occurrence of `needle`. -/
def cut? (needle : Text) : Text → Option (Text × Text)
  | [] => if needle.isEmpty then some ([], []) else none
  | c :: rest =>
    match strip? needle (c :: rest) with
    | some after => some ([], after)
    | none => (cut? needle rest).map fun (before, after) => (c :: before, after)

def contains (needle text : Text) : Bool :=
  (cut? needle text).isSome

def replaceFirst (needle new text : Text) : Text :=
  match cut? needle text with
  | none => text
  | some (before, after) => before ++ new ++ after

/-- Puts `new` in place of every occurrence of a nonempty `needle`, from left to right. -/
def replaceAll (needle new text : Text) : Text :=
  match cut? needle text with
  | none => text
  | some (before, after) =>
    before ++ new ++ if after.length < text.length then replaceAll needle new after else after
termination_by text.length

structure Cursor where
  passed : Text
  ahead : Text
  deriving DecidableEq, Repr

/-- An occurrence of a needle, by all the text before it and all the text after it. -/
structure Occurrence where
  before : Text
  after : Text
  deriving DecidableEq, Repr

def Occurrence.resume (found : Occurrence) (needle : Text) : Cursor :=
  ⟨found.before ++ needle, found.after⟩

def Cursor.next? (place : Cursor) (needle : Text) : Option Occurrence :=
  (cut? needle place.ahead).map fun (before, after) => ⟨place.passed ++ before, after⟩

/-- The occurrences ahead, from left to right. The empty needle is met once only, since a search
does not get past it. -/
def Cursor.occurrences (place : Cursor) (needle : Text) : List Occurrence :=
  match place.next? needle with
  | none => []
  | some found =>
    found ::
      if found.after.length < place.ahead.length then (found.resume needle).occurrences needle
        else []
termination_by place.ahead.length
decreasing_by assumption

def occurrences (needle text : Text) : List Occurrence :=
  Cursor.occurrences ⟨[], text⟩ needle

end IspcShader.Text
