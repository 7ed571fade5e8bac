import IspcShader.Text.Basic

/-!
UTF-8. Bytes from outside need not be text: reading them gives characters, and a gap for each
longest run of bytes that starts a character and does not finish it, or that starts none.
-/
namespace IspcShader.Text

def utf8 (text : Text) : List UInt8 :=
  text.flatMap String.utf8EncodeChar

/-- A character of which the first bytes are known. The next byte has to lie between `low` and
`high`, and `more` bytes are due behind it. -/
structure Unfinished where
  bits : Nat
  more : Nat
  low : Nat := 0x80
  high : Nat := 0xbf
  deriving DecidableEq, Repr

/-- What a byte gives: perhaps a character or a gap, and perhaps the start of a character. -/
structure Reading where
  found : List (Option Char) := []
  pending : Option Unfinished := none
  deriving DecidableEq, Repr

namespace Unfinished

/-- Behind the first of three bytes. The bounds leave out what two bytes can say, and surrogates. -/
def ofThree (bits : Nat) : Unfinished where
  bits
  more := 1
  low := if bits = 0 then 0xa0 else 0x80
  high := if bits = 0xd then 0x9f else 0xbf

/-- Behind the first of four bytes. The bounds leave out what three bytes can say, and what lies
above U+10FFFF. -/
def ofFour (bits : Nat) : Unfinished where
  bits
  more := 2
  low := if bits = 0 then 0x90 else 0x80
  high := if bits = 4 then 0x8f else 0xbf

end Unfinished

def Reading.ofLead (byte : UInt8) : Reading :=
  let lead := byte.toNat
  if lead < 0x80 then { found := [some (Char.ofNat lead)] }
  else if lead < 0xc2 then { found := [none] }
  else if lead < 0xe0 then { pending := some { bits := lead - 0xc0, more := 0 } }
  else if lead < 0xf0 then { pending := some (.ofThree (lead - 0xe0)) }
  else if lead < 0xf5 then { pending := some (.ofFour (lead - 0xf0)) }
  else { found := [none] }

/-- A byte inside a character. One that does not fit leaves a gap and is read anew. -/
def Reading.next (start : Unfinished) (byte : UInt8) : Reading :=
  if start.low ≤ byte.toNat ∧ byte.toNat ≤ start.high then
    let bits := start.bits * 64 + (byte.toNat - 0x80)
    match start.more with
    | 0 => { found := [some (Char.ofNat bits)] }
    | more + 1 => { pending := some { bits, more } }
  else
    { ofLead byte with found := none :: (ofLead byte).found }

def Reading.ofByte : Option Unfinished → UInt8 → Reading
  | none, byte => ofLead byte
  | some start, byte => next start byte

/-- The characters and gaps of some bytes, given a character that is not finished yet. -/
def decodeFrom (pending : Option Unfinished) : List UInt8 → List (Option Char)
  | [] => if pending.isSome then [none] else []
  | byte :: rest =>
    let reading := Reading.ofByte pending byte
    reading.found ++ decodeFrom reading.pending rest

def decode (bytes : List UInt8) : List (Option Char) :=
  decodeFrom none bytes

def ofUtf8? (bytes : List UInt8) : Option Text :=
  (decode bytes).mapM id

/-- The text with a replacement character, U+FFFD, for each gap. -/
def ofUtf8Lossy (bytes : List UInt8) : Text :=
  (decode bytes).map (·.getD '�')

end IspcShader.Text
