import IspcShader.Text.Basic

/-!
Blank characters and trimming. Blank means the Unicode property White_Space, so the no-break space,
the next-line control and the ideographic space are blank, and the zero-width space is not.
-/
namespace IspcShader.Text

/-- Code points with White_Space, in increasing order. -/
def blankRanges : List CodeRange :=
  [(0x9, 0xd), (0x20, 0x20), (0x85, 0x85), (0xa0, 0xa0), (0x1680, 0x1680), (0x2000, 0x200a),
   (0x2028, 0x2029), (0x202f, 0x202f), (0x205f, 0x205f), (0x3000, 0x3000)]

def isBlank (c : Char) : Bool :=
  inRanges blankRanges c

def leadingBlanks (text : Text) : Text :=
  text.takeWhile isBlank

def trimStart (text : Text) : Text :=
  text.dropWhile isBlank

def trimEnd (text : Text) : Text :=
  (text.reverse.dropWhile isBlank).reverse

def trim (text : Text) : Text :=
  trimEnd (trimStart text)

theorem leadingBlanks_append_trimStart (text : Text) :
    leadingBlanks text ++ trimStart text = text :=
  List.takeWhile_append_dropWhile

end IspcShader.Text
