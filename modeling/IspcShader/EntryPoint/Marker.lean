import IspcShader.Text.Search
import IspcShader.Text.Word

/-!
Finding the entry point on a line.
-/
namespace IspcShader

/-- The name of an entry point and the text around it. `params` holds everything behind the
parenthesis that follows the name. -/
structure EntryMarker where
  before : Text
  name : Text
  params : Text
  deriving DecidableEq, Repr

namespace EntryMarker

def line (marker : EntryMarker) : Text :=
  marker.before ++ marker.name ++ "(" ++ marker.params

/-- The first name that ends in `_MAIN` in front of a parenthesis, with all its word characters. -/
def find? (line : Text) : Option EntryMarker :=
  (Text.cut? "_MAIN(" line).map fun (front, params) =>
    let (before, stem) := Text.splitLastWord front
    ⟨before, stem ++ "_MAIN", params⟩

def span (marker : EntryMarker) : ByteSpan :=
  let start := Text.byteLength marker.before
  ⟨start, start + Text.byteLength marker.name⟩

end EntryMarker
end IspcShader
