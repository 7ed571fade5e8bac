import IspcShader.Text.Word
import IspcShader.Vector.Basic

/-!
Lowering of a line to the spelling of ISPC: `float4` becomes `float<4>`, a call `float<4>(` becomes
`make_float4(`, and a call `int(` becomes the cast `(int)(`. Only whole words are looked at.
-/
namespace IspcShader.Lowering

/-- A rule for one word: given the word and the text behind it, the replacement and how many
characters of the text behind it the replacement covers. -/
abbrev WordRule := Text → Text → Option (Text × Nat)

/-- Applies a rule to every maximal run of word characters, from left to right. The scan goes on
behind what a replacement covers. -/
def mapWords (rule : WordRule) : Text → Text
  | [] => []
  | c :: rest =>
    if Text.isWordChar c then
      let word := c :: rest.takeWhile Text.isWordChar
      let behind := rest.dropWhile Text.isWordChar
      match rule word behind with
      | none => word ++ mapWords rule behind
      | some (new, covered) => new ++ mapWords rule (behind.drop covered)
    else c :: mapWords rule rest
termination_by text => text.length
decreasing_by
  all_goals
    have shorter := (List.dropWhile_sublist (l := rest) Text.isWordChar).length_le
    simp only [List.length_cons, List.length_drop] at *
    omega

@[simp] theorem mapWords_nil (rule : WordRule) : mapWords rule [] = [] := by
  rw [mapWords]

theorem mapWords_cons_of_not_isWordChar (rule : WordRule) {c : Char} (rest : Text)
    (h : Text.isWordChar c = false) : mapWords rule (c :: rest) = c :: mapWords rule rest := by
  rw [mapWords]
  simp [h]

theorem mapWords_cons_of_isWordChar (rule : WordRule) {c : Char} (rest : Text)
    (h : Text.isWordChar c = true) :
    mapWords rule (c :: rest) =
      match rule (c :: rest.takeWhile Text.isWordChar) (rest.dropWhile Text.isWordChar) with
      | none =>
        c :: rest.takeWhile Text.isWordChar ++ mapWords rule (rest.dropWhile Text.isWordChar)
      | some (new, covered) =>
        new ++ mapWords rule ((rest.dropWhile Text.isWordChar).drop covered) := by
  rw [mapWords]
  simp only [h, if_true]

def typeRule : WordRule := fun word _ =>
  (VectorType.ofShortName? word).map fun type => (type.genericName, 0)

def constructorRule : WordRule := fun word behind =>
  match ScalarKind.ofName? word, behind with
  | some kind, '<' :: digit :: '>' :: '(' :: _ =>
    (VectorWidth.ofDigit? digit).map fun width => (VectorType.makerName ⟨kind, width⟩ ++ "(", 4)
  | _, _ => none

def castRule : WordRule := fun word behind =>
  match ScalarKind.ofName? word, behind with
  | some kind, '(' :: _ => if kind.isCastTarget then some ("(" ++ kind.name ++ ")(", 1) else none
  | _, _ => none

def typePass : Text → Text :=
  mapWords typeRule

/-- Expects type names to be lowered. -/
def constructorPass : Text → Text :=
  mapWords constructorRule

def castPass : Text → Text :=
  mapWords castRule

def lower (line : Text) : Text :=
  castPass (constructorPass (typePass line))

end IspcShader.Lowering
