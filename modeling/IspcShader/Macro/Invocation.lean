import IspcShader.Macro.Bracket
import IspcShader.Text.Search
import IspcShader.Text.Word

/-!
Invocations of a named macro inside a text, `NAME(argument, argument)`. An invocation keeps the text
around it, so that nothing is lost by finding one.
-/
namespace IspcShader.Macro

/-- A macro invocation and the text around it: the whole text is
`before ++ name ++ "(" ++ inside ++ ")" ++ after`. -/
structure Invocation where
  before : Text
  name : Text
  inside : Text
  after : Text
  deriving DecidableEq, Repr

namespace Invocation

def args (call : Invocation) : List Text :=
  arguments call.inside

def source (call : Invocation) : Text :=
  call.name ++ "(" ++ call.inside ++ ")"

def span (call : Invocation) : ByteSpan :=
  let start := Text.byteLength call.before
  ⟨start, start + Text.byteLength call.source⟩

/-- Whether an occurrence of a name is a call: it starts a word and a parenthesis follows. -/
def isCallSite (site : Text.Occurrence) : Bool :=
  Text.endsOffWord site.before && Text.startsWith "(" site.after

def read? (name : Text) (site : Text.Occurrence) : Option Invocation := do
  let list ← Text.strip? "(" site.after
  let (inside, after) ← readInside 0 list
  return ⟨site.before, name, inside, after⟩

/-- The first call of `name` in the text. When its brackets do not close there is none, even if a
later call would be well formed. -/
def find? (text name : Text) : Option Invocation :=
  ((Text.occurrences name text).find? isCallSite).bind (read? name)

end Invocation
end IspcShader.Macro
