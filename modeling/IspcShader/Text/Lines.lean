import IspcShader.Text.Basic

/-!
The lines of a text. A line ends at a line feed; one carriage return right in front of the line feed
belongs to the line's end and not to the line.
-/
namespace IspcShader.Text

def dropReturn (text : Text) : Text :=
  if text.getLast? = some '\r' then text.dropLast else text

/-- The lines of a text. What follows the last line feed is a line, carriage return included, unless
it is empty. -/
def lines (text : Text) : List Text :=
  let pieces := text.splitOn '\n'
  pieces.dropLast.map dropReturn ++ pieces.getLast?.toList.filter (!·.isEmpty)

end IspcShader.Text
