import IspcShader.Text.Blank
import IspcShader.Text.Search
import IspcShader.Text.Word

/-!
Marks that a line may carry besides a declaration: the end of a struct, a return, an output hint,
and the line directives that a preprocessor leaves behind.
-/
namespace IspcShader.Marker

def closesStruct (line : Text) : Bool :=
  Text.contains "\x7d;" line

def hasOutputHint (line : Text) : Bool :=
  Text.contains "SET_OUTPUT_FORMAT(" line

/-- Whether the line's first word starts as `RETURN` and goes no further. -/
def isReturn (line : Text) : Bool :=
  match Text.strip? "RETURN" (Text.trimStart line) with
  | some rest => Text.startsOffWord rest
  | none => false

def startsQuotation (text : Text) : Bool :=
  match text with
  | '"' :: tail => tail.contains '"'
  | _ => false

/-- A directive such as `# 418 "<built-in>" 3`: a number and a quotation behind a `#` that is the
very first character, with blanks between the two and perhaps before the number. -/
def isDirective (line : Text) : Bool :=
  match line with
  | '#' :: rest =>
    let number := Text.trimStart rest
    let behind := number.dropWhile Char.isDigit
    !(number.takeWhile Char.isDigit).isEmpty && !(Text.leadingBlanks behind).isEmpty &&
      startsQuotation (Text.trimStart behind)
  | _ => false

end IspcShader.Marker
