import IspcShader.Text.Blank

/-!
Bracketed argument lists. Round and square brackets are counted alike, so `f(a[1)]` nests; only the
bracket that closes the whole list has to be round. The parts of a type that is wrapped in a macro,
such as `Buffer(float4)`, and of a name with array brackets are found without counting.
-/
namespace IspcShader.Macro

def isOpening (c : Char) : Bool :=
  c == '(' || c == '['

def isClosing (c : Char) : Bool :=
  c == ')' || c == ']'

/-- Reads the inside of a list whose opening parenthesis has just been passed, with `depth` further
brackets still open. Gives the rest of the inside and the text behind the closing parenthesis;
nothing when the list is never closed, or is closed by a square bracket. -/
def readInside (depth : Nat) : Text → Option (Text × Text)
  | [] => none
  | c :: rest =>
    if isClosing c then
      match depth with
      | 0 => if c = ')' then some ([], rest) else none
      | depth + 1 => (readInside depth rest).map fun (inside, after) => (c :: inside, after)
    else
      (readInside (if isOpening c then depth + 1 else depth) rest).map
        fun (inside, after) => (c :: inside, after)

def consFirst (c : Char) : List Text → List Text
  | [] => [[c]]
  | piece :: pieces => (c :: piece) :: pieces

/-- Cuts at the commas that stand outside all brackets, where `depth` brackets are open. -/
def cutCommas (depth : Nat) : Text → List Text
  | [] => [[]]
  | c :: rest =>
    if c = ',' ∧ depth = 0 then [] :: cutCommas 0 rest
    else if isOpening c then consFirst c (cutCommas (depth + 1) rest)
    else if isClosing c then consFirst c (cutCommas (depth - 1) rest)
    else consFirst c (cutCommas depth rest)

/-- The trimmed arguments of a list. A blank inside means that there are none. -/
def arguments (inside : Text) : List Text :=
  let pieces := (cutCommas 0 inside).map Text.trim
  if pieces = [[]] then [] else pieces

/-- Takes one macro layer off: the text between the first parenthesis and a closing one at the very
end. A text of another shape is only trimmed. -/
def unwrap (text : Text) : Text :=
  let text := Text.trim text
  match text.dropWhile (· != '(') with
  | [] => text
  | _ :: tail => if tail.getLast? = some ')' then Text.trim tail.dropLast else text

def outerName (text : Text) : Text :=
  Text.trimEnd ((Text.trim text).takeWhile (· != '('))

def arrayBase (name : Text) : Text :=
  Text.trim (name.takeWhile (· != '['))

def hasBrackets (name : Text) : Bool :=
  name.contains '['

theorem append_of_readInside {depth : Nat} {text inside after : Text}
    (h : readInside depth text = some (inside, after)) : inside ++ ')' :: after = text := by
  induction text generalizing depth inside after with
  | nil => simp [readInside] at h
  | cons c rest ih =>
    unfold readInside at h
    split at h
    · split at h
      · split at h
        · next same =>
          obtain ⟨rfl, rfl⟩ : [] = inside ∧ rest = after := by simpa using h
          simp [same]
        · cases h
      · obtain ⟨⟨front, back⟩, found, same⟩ := Option.map_eq_some_iff.mp h
        obtain ⟨rfl, rfl⟩ : c :: front = inside ∧ back = after := by simpa using same
        simpa using ih found
    · obtain ⟨⟨front, back⟩, found, same⟩ := Option.map_eq_some_iff.mp h
      obtain ⟨rfl, rfl⟩ : c :: front = inside ∧ back = after := by simpa using same
      simpa using ih found

end IspcShader.Macro
