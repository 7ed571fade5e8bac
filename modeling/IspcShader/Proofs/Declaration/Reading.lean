import IspcShader.Declaration
import IspcShader.Proofs.Macro.Argument

/-!
What is read off a line. A declaring macro leads its line, so what is found is never a later call of
the same name, and what it declares is built from parts of the line.
-/
namespace IspcShader

open Text

namespace Declaration.Kind

open Macro

theorem keyword_ne_nil (kind : Kind) : kind.keyword ≠ [] := by
  cases kind <;> decide

/-- The arguments of a declaring macro are those of the call that leads the line. -/
theorem args?_eq_some_iff {kind : Kind} {line : Text} {args : List Text} :
    kind.args? line = some args ↔
      ∃ rest inside after, trimStart line = kind.keyword ++ '(' :: rest ∧
        readInside 0 rest = some (inside, after) ∧ arguments inside = args := by
  constructor
  · intro found
    unfold args? at found
    dsimp only at found
    split at found
    · next starts =>
      obtain ⟨rest, joined⟩ := List.isPrefixOf_iff_prefix.mp starts
      have shape : trimStart line = kind.keyword ++ '(' :: rest := by
        rw [← joined]
        simp
      rw [shape, Invocation.find?_leading, Option.map_map] at found
      obtain ⟨⟨inside, after⟩, closed, same⟩ := Option.map_eq_some_iff.mp found
      exact ⟨rest, inside, after, shape, closed, same⟩
    · cases found
  · rintro ⟨rest, inside, after, shape, closed, rfl⟩
    have joined : kind.keyword ++ "(" ++ rest = trimStart line := by
      rw [shape]
      simp
    have starts : startsWith (kind.keyword ++ "(") (trimStart line) = true :=
      List.isPrefixOf_iff_prefix.mpr ⟨rest, joined⟩
    unfold args?
    dsimp only
    rw [if_pos starts, shape, Invocation.find?_leading, closed]
    rfl

theorem exists_call_of_args? {kind : Kind} {line : Text} {args : List Text}
    (h : kind.args? line = some args) :
    ∃ call, Invocation.find? (trimStart line) kind.keyword = some call ∧ call.before = [] ∧
      call.name = kind.keyword ∧ call.args = args := by
  obtain ⟨rest, inside, after, start, closed, same⟩ := args?_eq_some_iff.mp h
  refine ⟨⟨[], kind.keyword, inside, after⟩, ?_, rfl, rfl, same⟩
  rw [start, Invocation.find?_leading, closed]
  rfl

theorem append_of_call {kind : Kind} {line : Text} {call : Invocation}
    (found : Invocation.find? (trimStart line) kind.keyword = some call) (leads : call.before = [])
    (name : call.name = kind.keyword) :
    leadingBlanks line ++ (kind.keyword ++ "(") ++ call.inside ++ ')' :: call.after = line := by
  have source : call.source = kind.keyword ++ "(" ++ call.inside ++ ")" := by
    rw [Invocation.source, name]
  have whole := Invocation.append_of_find? found
  rw [leads, List.nil_append] at whole
  calc leadingBlanks line ++ (kind.keyword ++ "(") ++ call.inside ++ ')' :: call.after
      = leadingBlanks line ++ (call.source ++ call.after) := by rw [source]; simp
    _ = leadingBlanks line ++ trimStart line := by rw [whole]
    _ = line := leadingBlanks_append_trimStart line

theorem exists_append_of_args? {kind : Kind} {line : Text} {args : List Text}
    (h : kind.args? line = some args) :
    ∃ inside after, leadingBlanks line ++ (kind.keyword ++ "(") ++ inside ++ ')' :: after = line ∧
      arguments inside = args := by
  obtain ⟨call, found, before, name, listed⟩ := exists_call_of_args? h
  exact ⟨call.inside, call.after, append_of_call found before name, listed⟩

theorem read_eq_ok_iff {α : Type} {kind : Kind} {build : List Text → Option α} {line : Text}
    {declaration : α} :
    kind.read build line = some (.ok declaration) ↔
      ∃ args, kind.args? line = some args ∧ build args = some declaration := by
  unfold read
  rw [Option.map_eq_some_iff]
  constructor
  · rintro ⟨args, found, built⟩
    refine ⟨args, found, ?_⟩
    unfold check at built
    split at built
    · next same =>
      cases built
      exact same
    · cases built
  · rintro ⟨args, found, built⟩
    exact ⟨args, found, by rw [check, built]⟩

end Declaration.Kind

namespace Declaration

theorem Kind.subset_of_args? {kind : Kind} {line arg : Text} {args : List Text}
    (h : kind.args? line = some args) (listed : arg ∈ args) : arg ⊆ line := by
  obtain ⟨inside, after, whole, rfl⟩ := Kind.exists_append_of_args? h
  intro c member
  rw [← whole]
  have inner := Macro.subset_of_mem_arguments listed member
  simp [inner]

/-- What is read off a line is built from arguments that are parts of it. -/
theorem Kind.exists_parts_of_read {α : Type} {kind : Kind}
    {build : List Text → Option α} {line : Text} {declaration : α}
    (h : kind.read build line = some (.ok declaration)) :
    ∃ args, build args = some declaration ∧ ∀ arg ∈ args, arg ⊆ line := by
  obtain ⟨args, called, built⟩ := Kind.read_eq_ok_iff.mp h
  exact ⟨args, built, fun arg listed => Kind.subset_of_args? called listed⟩

theorem Struct.eq_singleton_of_ofArgs? {args : List Text} {declaration : Struct}
    (built : ofArgs? args = some declaration) : args = [declaration.name] := by
  unfold ofArgs? at built
  split at built <;> cases built
  rfl

theorem Struct.subset_of_read {line : Text} {declaration : Struct}
    (h : Struct.read line = some (.ok declaration)) : declaration.name ⊆ line := by
  obtain ⟨args, built, parts⟩ := Kind.exists_parts_of_read h
  rw [eq_singleton_of_ofArgs? built] at parts
  exact parts declaration.name List.mem_cons_self

theorem Field.subset_of_read {line : Text} {field : Field}
    (h : Field.read line = some (.ok field)) :
    field.type ⊆ line ∧ field.name ⊆ line := by
  obtain ⟨args, built, parts⟩ := Kind.exists_parts_of_read h
  unfold ofArgs? at built
  split at built <;> cases built
  all_goals exact ⟨parts _ (by simp), parts _ (by simp)⟩

theorem Resource.subset_of_read {line : Text} {declaration : Resource}
    (h : Resource.read line = some (.ok declaration)) :
    declaration.type ⊆ line ∧ declaration.name ⊆ line := by
  obtain ⟨args, built, parts⟩ := Kind.exists_parts_of_read h
  unfold ofArgs? at built
  split at built <;> cases built
  exact ⟨parts _ (by simp), parts _ (by simp)⟩

theorem Shared.subset_of_read {line : Text} {declaration : Shared}
    (h : Shared.read line = some (.ok declaration)) :
    declaration.type ⊆ line ∧ declaration.name ⊆ line := by
  obtain ⟨args, built, parts⟩ := Kind.exists_parts_of_read h
  unfold ofArgs? at built
  split at built <;> cases built
  exact ⟨parts _ (by simp), parts _ (by simp)⟩

end Declaration

end IspcShader
