import Mathlib.Data.List.Basic
import IspcShader.Dispatch.Wrapper
import IspcShader.Proofs.Text.Piece

/-!
The coordinate lines of the dispatch loop read back as a program. Operators are taken from left to
right, parentheses group, and a name means a quantity only where it is in scope. What the lines
spell is then a fact about their text and does not hang on the way they were written.
-/
namespace IspcShader.Dispatch

open Text

/-- The words and marks of a text, without the blanks between them. -/
def tokens (text : Text) : List Piece :=
  (pieces text).filter fun
    | .word _ => true
    | .mark c => !isBlank c

def Quantity.ofName? (scope : List Quantity) (word : Text) : Option Quantity :=
  scope.find? fun quantity => decide (quantity.name = word)

def Operator.ofMark? : Char → Option Operator
  | '*' => some .times
  | '/' => some .quotient
  | '%' => some .remainder
  | _ => none

inductive Slot where
  | empty
  | value (formula : Formula)
  | pending (left : Formula) (operator : Operator)
  deriving DecidableEq, Repr

/-- Takes an operand: alone, or as the right side of what is pending. -/
def Slot.take? : Slot → Formula → Option Slot
  | empty, formula => some (value formula)
  | pending left operator, formula => some (value (.binary operator left formula))
  | value _, _ => none

/-- Reads one token, with a slot for each open level, the innermost first. -/
def readToken? (scope : List Quantity) : List Slot → Piece → Option (List Slot)
  | slot :: outer, .word word => do
    let quantity ← Quantity.ofName? scope word
    return (← slot.take? (.quantity quantity)) :: outer
  | slot :: outer, .mark c =>
    match slot, c with
    | .value formula, ')' =>
      match outer with
      | [] => none
      | slot :: outer => (slot.take? formula).map (· :: outer)
    | .value formula, c => (Operator.ofMark? c).map (.pending formula · :: outer)
    | slot, '(' => some (.empty :: slot :: outer)
    | _, _ => none
  | [], _ => none

def finished? : List Slot → Option Formula
  | [.value formula] => some formula
  | _ => none

def readExpression? (scope : List Quantity) (slots : List Slot) : List Piece → Option Formula
  | [] => none
  | token :: rest =>
    if token = .mark ';' then if rest = [] then finished? slots else none
    else (readToken? scope slots token).bind (readExpression? scope · rest)

/-- What a line assigns: the expression behind the tokens of `lead`. -/
def assigned? (scope : List Quantity) (lead line : Text) : Option Formula :=
  ((tokens lead).isPrefixOf? (tokens line)).bind (readExpression? scope [.empty])

structure Loop where
  total : Formula
  x : Formula
  y : Formula
  z : Formula
  deriving DecidableEq, Repr

/-- Reads a loop off its five lines. The bound is computed in front of the loop, where there is no
invocation yet. -/
def Loop.read? : List Text → Option Loop
  | [total, head, x, y, z] =>
    if tokens head = tokens "foreach (invocation = 0 ... total_invocations) \x7b" then do
      return {
        total := ← assigned? [.extentX, .extentY, .extentZ] "uniform uint total_invocations =" total
        x := ← assigned? [.invocation, .extentX, .extentY, .extentZ] "uint x =" x
        y := ← assigned? [.invocation, .extentX, .extentY, .extentZ] "uint y =" y
        z := ← assigned? [.invocation, .extentX, .extentY, .extentZ] "uint z =" z }
    else none
  | _ => none

theorem tokens_append {before : Text} (off : endsOffWord before = true) (rest : Text) :
    tokens (before ++ rest) = tokens before ++ tokens rest := by
  rw [tokens, pieces_append off, List.filter_append]
  rfl

theorem tokens_word {word rest : Text} (isWord : IsWord word) (off : startsOffWord rest = true) :
    tokens (word ++ rest) = .word word :: tokens rest := by
  rw [tokens, pieces_word isWord off]
  rfl

theorem tokens_mark {c : Char} (off : isWordChar c = false) (solid : isBlank c = false)
    (rest : Text) : tokens (c :: rest) = .mark c :: tokens rest := by
  rw [tokens, pieces_mark off, List.filter_cons_of_pos (by simp [solid])]
  rfl

theorem tokens_blank {c : Char} (blank : isBlank c = true) (rest : Text) :
    tokens (c :: rest) = tokens rest := by
  rw [tokens, pieces_mark (isWordChar_of_isBlank blank), List.filter_cons_of_neg (by simp [blank])]
  rfl

theorem Quantity.isWord_name (quantity : Quantity) : IsWord quantity.name := by
  cases quantity <;> decide

theorem Quantity.name_injective {a b : Quantity} (same : a.name = b.name) : a = b := by
  cases a <;> cases b <;> revert same <;> decide

theorem Quantity.ofName?_name {scope : List Quantity} {quantity : Quantity}
    (member : quantity ∈ scope) : ofName? scope quantity.name = some quantity := by
  cases found : ofName? scope quantity.name with
  | none =>
    have absent := List.find?_eq_none.mp found quantity member
    simp at absent
  | some other =>
    have same := List.find?_some found
    rw [Quantity.name_injective (of_decide_eq_true same)]

def Formula.quantities : Formula → List Quantity
  | quantity name => [name]
  | binary _ left right => left.quantities ++ right.quantities

section Expression

variable {scope : List Quantity} {slots after outer : List Slot} {slot taken : Slot}
  {formula : Formula}
variable {rest : Text}

theorem readExpression?_cons {token : Piece} {more : List Piece} (inside : token ≠ .mark ';')
    (read : readToken? scope slots token = some after) :
    readExpression? scope slots (token :: more) = readExpression? scope after more := by
  rw [readExpression?, if_neg inside, read, Option.bind_some]

theorem readExpression?_quantity {name : Quantity} (inScope : name ∈ scope)
    (off : startsOffWord rest = true) (takes : slot.take? (.quantity name) = some taken) :
    readExpression? scope (slot :: outer) (tokens (name.name ++ rest)) =
      readExpression? scope (taken :: outer) (tokens rest) := by
  rw [tokens_word name.isWord_name off]
  apply readExpression?_cons
  · simp
  · simp [readToken?, Quantity.ofName?_name inScope, takes]

theorem readExpression?_operator (operator : Operator) :
    readExpression? scope (.value formula :: outer)
        (tokens (" " ++ operator.symbol ++ " " ++ rest)) =
      readExpression? scope (.pending formula operator :: outer) (tokens rest) := by
  have blank : isBlank ' ' = true := by decide
  cases operator <;>
  · change readExpression? scope _ (tokens (' ' :: _ :: ' ' :: rest)) = _
    rw [tokens_blank blank, tokens_mark (by decide) (by decide), tokens_blank blank]
    apply readExpression?_cons
    · decide
    · rfl

theorem readExpression?_opening (ready : slot.take? formula = some taken) :
    readExpression? scope (slot :: outer) (tokens ('(' :: rest)) =
      readExpression? scope (.empty :: slot :: outer) (tokens rest) := by
  rw [tokens_mark (by decide) (by decide)]
  apply readExpression?_cons
  · decide
  · cases slot with
    | value _ => cases ready
    | empty => rfl
    | pending _ _ => rfl

theorem readExpression?_closing (ready : slot.take? formula = some taken) :
    readExpression? scope (.value formula :: slot :: outer) (tokens (')' :: rest)) =
      readExpression? scope (taken :: outer) (tokens rest) := by
  rw [tokens_mark (by decide) (by decide)]
  apply readExpression?_cons
  · decide
  · simp [readToken?, ready]

/-- An operand is read as a whole: in parentheses anywhere, without them at the start of a level. -/
theorem readExpression?_operand {chained : Option Operator}
    (inScope : ∀ name ∈ formula.quantities, name ∈ scope) (off : startsOffWord rest = true)
    (takes : slot.take? formula = some taken) (start : slot = .empty ∨ chained = none)
    (inner : ∀ {rest outer}, startsOffWord rest = true →
      readExpression? scope (.empty :: outer) (tokens (formula.render ++ rest)) =
        readExpression? scope (.value formula :: outer) (tokens rest)) :
    readExpression? scope (slot :: outer)
        (tokens (Formula.operand chained formula formula.render ++ rest)) =
      readExpression? scope (taken :: outer) (tokens rest) := by
  cases formula with
  | quantity name => exact readExpression?_quantity (inScope name List.mem_cons_self) off takes
  | binary operator left right =>
    by_cases chains : chained = some operator
    · -- only the left operand at the start of a level goes without parentheses
      have empty : slot = .empty := by
        rcases start with empty | unchained
        · exact empty
        · rw [unchained] at chains
          cases chains
      subst empty
      cases takes
      rw [Formula.operand, if_pos chains]
      exact inner off
    · have closing : startsOffWord (')' :: rest) = true := by rfl
      have grouped : Formula.operand chained (.binary operator left right)
          (Formula.binary operator left right).render ++ rest =
          '(' :: ((Formula.binary operator left right).render ++ ')' :: rest) := by
        rw [Formula.operand, if_neg chains]
        simp
      rw [grouped, readExpression?_opening takes, inner closing, readExpression?_closing takes]

theorem readExpression?_render (inScope : ∀ name ∈ formula.quantities, name ∈ scope)
    (off : startsOffWord rest = true) :
    readExpression? scope (.empty :: outer) (tokens (formula.render ++ rest)) =
      readExpression? scope (.value formula :: outer) (tokens rest) := by
  induction formula generalizing rest outer with
  | quantity name => exact readExpression?_quantity (inScope name List.mem_cons_self) off rfl
  | binary operator left right ihl ihr =>
    have inLeft : ∀ name ∈ left.quantities, name ∈ scope := fun name member =>
      inScope name (List.mem_append_left _ member)
    have inRight : ∀ name ∈ right.quantities, name ∈ scope := fun name member =>
      inScope name (List.mem_append_right _ member)
    have shape : (Formula.binary operator left right).render ++ rest =
        Formula.operand (some operator) left left.render ++ (" " ++ operator.symbol ++ " " ++
          (Formula.operand none right right.render ++ rest)) := by
      simp [Formula.render]
    rw [shape, readExpression?_operand inLeft rfl rfl (.inl rfl) (ihl inLeft),
      readExpression?_operator, readExpression?_operand inRight off rfl (.inr rfl) (ihr inRight)]

theorem assigned?_render {lead start : Text} (inScope : ∀ name ∈ formula.quantities, name ∈ scope)
    (off : endsOffWord start = true) (same : tokens start = tokens lead) :
    assigned? scope lead (start ++ formula.render ++ ";") = some formula := by
  have semicolon : startsOffWord ";".toList = true := by decide
  have behind : (tokens lead).isPrefixOf? (tokens lead ++ tokens (formula.render ++ ";")) =
      some (tokens (formula.render ++ ";")) :=
    List.isPrefixOf?_eq_some_iff_append_eq.mpr rfl
  rw [assigned?, List.append_assoc, tokens_append off, same, behind, Option.bind_some,
    readExpression?_render inScope semicolon]
  rfl

end Expression

theorem read?_coordinateLines :
    Loop.read? coordinateLines = some ⟨totalFormula, xFormula, yFormula, zFormula⟩ := by
  have total : assigned? [.extentX, .extentY, .extentZ] "uniform uint total_invocations ="
      ("    uniform uint total_invocations = " ++ totalFormula.render ++ ";") = some totalFormula :=
    assigned?_render (by decide) (by decide) (by decide +kernel)
  have x : assigned? [.invocation, .extentX, .extentY, .extentZ] "uint x ="
      ("        uint x = " ++ xFormula.render ++ ";") = some xFormula :=
    assigned?_render (by decide) (by decide) (by decide +kernel)
  have y : assigned? [.invocation, .extentX, .extentY, .extentZ] "uint y ="
      ("        uint y = " ++ yFormula.render ++ ";") = some yFormula :=
    assigned?_render (by decide) (by decide) (by decide +kernel)
  have z : assigned? [.invocation, .extentX, .extentY, .extentZ] "uint z ="
      ("        uint z = " ++ zFormula.render ++ ";") = some zFormula :=
    assigned?_render (by decide) (by decide) (by decide +kernel)
  have head : tokens "    foreach (invocation = 0 ... total_invocations) \x7b" =
      tokens "foreach (invocation = 0 ... total_invocations) \x7b" := by decide +kernel
  rw [coordinateLines, Loop.read?, if_pos head, total, x, y, z]
  rfl

end IspcShader.Dispatch
