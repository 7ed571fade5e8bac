import IspcShader.Text.GraphemeExtend
import IspcShader.Text.NonGraphic

/-!
Quoted text for messages. The quote, the backslash and the common controls have short escapes; a
character without a visible shape of its own is written by its code point.
-/
namespace IspcShader.Text

/-- Whether a character attaches to the one in front of it and takes up no room. The two halfwidth
voiced sound marks, U+FF9E and U+FF9F, extend a character too but stand in a cell of their own. -/
def isAttached (c : Char) : Bool :=
  inRanges graphemeExtendRanges c && !inRanges [(0xff9e, 0xff9f)] c

/-- Whether a character has no visible shape when it stands alone. -/
def isUnprintable (c : Char) : Bool :=
  decide (c.toNat < 0x20) ||
    decide (0x7f ≤ c.toNat) &&
      (inRanges nonGraphicRanges c || inRanges defaultIgnorableRanges c || isAttached c)

/-- The escape by code point: lower-case hexadecimal without leading zeros, in braces. -/
def codePointEscape (c : Char) : Text :=
  "\\u\x7b" ++ Nat.toDigits 16 c.toNat ++ "\x7d"

def quoteChar (c : Char) : Text :=
  if c = '"' then "\\\""
  else if c = '\\' then "\\\\"
  else if c = '\t' then "\\t"
  else if c = '\n' then "\\n"
  else if c = '\r' then "\\r"
  else if c.toNat = 0 then "\\0"
  else if isUnprintable c then codePointEscape c
  else [c]

/-- The text between double quotes, with escapes. An apostrophe stays as it is. -/
def quoted (text : Text) : Text :=
  "\"" ++ text.flatMap quoteChar ++ "\""

end IspcShader.Text
