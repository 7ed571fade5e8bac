/-!
Shader text as a list of characters, so that cutting, joining and scanning are recursions on data.
-/
namespace IspcShader

abbrev Text := List Char

instance : Coe String Text := ⟨String.toList⟩

namespace Text

def byteLength : Text → Nat
  | [] => 0
  | c :: rest => c.utf8Size + byteLength rest

/-- Equality up to the case of ASCII letters; all other characters must be the same. -/
def sameIgnoringCase (a b : Text) : Bool :=
  decide (a.map Char.toLower = b.map Char.toLower)

def ofNat (n : Nat) : Text :=
  Nat.toDigits 10 n

abbrev strip? (lead text : Text) : Option Text :=
  lead.isPrefixOf? text

def startsWith (lead text : Text) : Bool :=
  lead.isPrefixOf text

/-- A closed interval of code points. Sets of characters are given as lists of these. -/
abbrev CodeRange := Nat × Nat

def inRanges (ranges : List CodeRange) (c : Char) : Bool :=
  ranges.any fun range => decide (range.1 ≤ c.toNat) && decide (c.toNat ≤ range.2)

@[simp] theorem byteLength_nil : byteLength [] = 0 := rfl

@[simp] theorem byteLength_cons (c : Char) (text : Text) :
    byteLength (c :: text) = c.utf8Size + byteLength text := rfl

@[simp] theorem byteLength_append (a b : Text) :
    byteLength (a ++ b) = byteLength a + byteLength b := by
  induction a with
  | nil => simp
  | cons c rest ih => rw [List.cons_append, byteLength_cons, byteLength_cons, ih, Nat.add_assoc]

end Text

/-- A stretch of a text in UTF-8 bytes, from `start` up to but not including `stop`. -/
structure ByteSpan where
  start : Nat
  stop : Nat
  deriving DecidableEq, Repr

end IspcShader
