import IspcShader.Struct
import IspcShader.Proofs.Text.Infix
import IspcShader.Proofs.Declaration.Reading

/-!
Where the call that opens a struct ends. The reader of the declaration goes by nesting, the opening
line by the first closing parenthesis; the two ends are the same unless the name holds a closing
parenthesis of its own.
-/
namespace IspcShader

open Text

theorem Text.trimEnd_append_cons {c : Char} (solid : isBlank c = false) (a b : Text) :
    trimEnd (a ++ c :: b) = a ++ c :: trimEnd b := by
  rw [trimEnd, List.reverse_append, List.reverse_cons, List.append_assoc, List.dropWhile_append]
  split
  · next gone =>
    rw [trimEnd, List.isEmpty_iff.mp gone]
    simp [solid]
  · simp [trimEnd]

namespace Declaration.Struct

variable {line : Text} {declaration : Struct}

theorem exists_call_of_read (read : Struct.read line = some (.ok declaration)) :
    ∃ call, Macro.Invocation.find? (trimStart line) Kind.struct.keyword = some call ∧
      call.before = [] ∧ call.name = Kind.struct.keyword ∧ declaration.name = trim call.inside := by
  obtain ⟨args, called, built⟩ := Kind.read_eq_ok_iff.mp read
  obtain ⟨call, found, before, name, listed⟩ := Kind.exists_call_of_args? called
  exact ⟨call, found, before, name,
    Macro.eq_trim_of_arguments (listed.trans (eq_singleton_of_ofArgs? built))⟩

theorem openingLine_of_first {front rest : Text} (shape : line = front ++ ')' :: rest)
    (first : ')' ∉ front) :
    declaration.openingLine line =
      leadingBlanks line ++ "struct " ++ declaration.name ++ trimEnd rest := by
  have behind : (line.dropWhile (· != ')')).drop 1 = rest := by
    rw [shape, drop_dropWhile_of_not_mem first]
  rw [openingLine, behind]

section Shape

variable {front blanks after : Text}
  (shape : line = front ++ declaration.name ++ blanks ++ ')' :: after) (absent : ')' ∉ front)

include shape absent

/-- If the name holds a closing parenthesis, what follows it in the call is written a second
time. -/
theorem openingLine_of_nested {outer inner : Text} (name : declaration.name = outer ++ ')' :: inner)
    (first : ')' ∉ outer) :
    declaration.openingLine line =
      leadingBlanks line ++ "struct " ++ declaration.name ++
        (inner ++ blanks ++ ")" ++ trimEnd after) := by
  have cut : line = front ++ outer ++ ')' :: (inner ++ blanks ++ ')' :: after) := by
    calc line = _ := shape
      _ = _ := by simp [name]
  have passed : ')' ∉ front ++ outer := by
    rw [List.mem_append, not_or]
    exact ⟨absent, first⟩
  rw [openingLine_of_first cut passed, trimEnd_append_cons (by decide)]
  simp

theorem openingLine_eq_iff (blank : ∀ c ∈ blanks, isBlank c = true) :
    declaration.openingLine line =
      leadingBlanks line ++ "struct " ++ declaration.name ++ trimEnd after ↔
      ')' ∉ declaration.name := by
  constructor
  · -- a name with a closing parenthesis makes the line longer by the end of the call at least
    intro kept closes
    obtain ⟨outer, inner, name, first⟩ := List.eq_append_cons_of_mem closes
    have twice := (openingLine_of_nested shape absent name first).symm.trans kept
    rw [List.append_cancel_left_eq, List.append_left_eq_self] at twice
    simp at twice
  · intro plain
    refine openingLine_of_first shape ?_
    rw [List.mem_append, List.mem_append, not_or, not_or]
    exact ⟨⟨absent, plain⟩, not_mem_of_blank blank (by decide)⟩

end Shape

/-- The opening line keeps just what follows the call, if the name of the struct holds no closing
parenthesis. If it does, what follows the first one in the name is written a second time, and so is
the end of the call. -/
theorem opening_keeps_rest_iff (read : Struct.read line = some (.ok declaration)) :
    ∃ call lead blanks, Macro.Invocation.find? (trimStart line) "STRUCT" = some call ∧
      trimStart line = call.source ++ call.after ∧ call.span = ⟨0, byteLength call.source⟩ ∧
      call.inside = lead ++ declaration.name ++ blanks ∧ (∀ c ∈ lead ++ blanks, isBlank c = true) ∧
      (declaration.openingLine line =
        leadingBlanks line ++ "struct " ++ declaration.name ++ trimEnd call.after ↔
        ')' ∉ declaration.name) ∧
      ∀ outer inner, declaration.name = outer ++ ')' :: inner → ')' ∉ outer →
        declaration.openingLine line =
          leadingBlanks line ++ "struct " ++ declaration.name ++
            (inner ++ blanks ++ ")" ++ trimEnd call.after) := by
  obtain ⟨call, found, before, keyword, named⟩ := exists_call_of_read read
  obtain ⟨lead, blanks, inside, leadBlank, blank⟩ := exists_append_trim call.inside
  rw [← named] at inside
  have behind : trimStart line = call.source ++ call.after := by
    rw [← Macro.Invocation.append_of_find? found, before, List.nil_append]
  have span : call.span = ⟨0, byteLength call.source⟩ := by
    rw [Macro.Invocation.span, before]
    simp
  have shape :
      line = leadingBlanks line ++ (Kind.struct.keyword ++ "(") ++ lead ++
        declaration.name ++ blanks ++
      ')' :: call.after := by
    calc line = _ := (Kind.append_of_call found before keyword).symm
      _ = _ := by simp only [inside, List.append_assoc]
  have absent : ')' ∉ leadingBlanks line ++ (Kind.struct.keyword ++ "(") ++ lead := by
    rw [List.mem_append, List.mem_append, not_or, not_or]
    exact ⟨⟨not_mem_leadingBlanks (by decide), by decide⟩, not_mem_of_blank leadBlank (by decide)⟩
  refine ⟨call, lead, blanks, found, behind, span, inside, ?_,
    openingLine_eq_iff shape absent blank, ?_⟩
  · intro c member
    exact (List.mem_append.mp member).elim (leadBlank c) (blank c)
  · intro outer inner name first
    exact openingLine_of_nested shape absent name first

theorem opening_keeps_rest_iff_nested :
    let line : Text := "\t STRUCT( Grid(Cell(2), 3) ) \x7b "
    let declaration : Struct := ⟨"Grid(Cell(2), 3)"⟩
    Struct.read line = some (.ok declaration) ∧
      ∃ call, Macro.Invocation.find? (trimStart line) "STRUCT" = some call ∧
        declaration.openingLine line ≠
          leadingBlanks line ++ "struct " ++ declaration.name ++ trimEnd call.after ∧
        declaration.openingLine line =
          leadingBlanks line ++ "struct " ++ declaration.name ++
            (", 3) )" ++ trimEnd call.after) := by
  intro line declaration
  have read : Struct.read line = some (.ok declaration) :=
    Kind.read_eq_ok_iff.mpr ⟨[declaration.name], by decide +kernel, rfl⟩
  obtain ⟨call, lead, blanks, found, -, -, -, -, keeps, -⟩ := opening_keeps_rest_iff read
  have called : Macro.Invocation.find? (trimStart line) "STRUCT" =
      some ⟨[], "STRUCT", " Grid(Cell(2), 3) ", " \x7b "⟩ := by decide +kernel
  obtain rfl := Option.some.inj (called.symm.trans found)
  exact ⟨read, _, found, mt keeps.mp (by decide), by decide +kernel⟩

/-- A name that brings its own parentheses leaves the one that closes the call on the line. -/
theorem call_closed_twice :
    let line : Text := "STRUCT(Wrapped(Light)) \x7b"
    let declaration : Struct := ⟨"Wrapped(Light)"⟩
    Struct.read line = some (.ok declaration) ∧
      Macro.Invocation.find? (trimStart line) "STRUCT" =
        some ⟨[], "STRUCT", declaration.name, " \x7b"⟩ ∧
      declaration.openingLine line = "struct Wrapped(Light)) \x7b" := by
  intro line declaration
  refine ⟨Kind.read_eq_ok_iff.mpr ⟨[declaration.name], ?_, rfl⟩, ?_⟩
  · decide +kernel
  · decide +kernel

end Declaration.Struct

end IspcShader
