import IspcShader.EntryPoint.Basic
import IspcShader.Proofs.Text.Infix
import IspcShader.Proofs.Text.Part

/-!
Where a builtin parameter is found on an entry line: its type, some blanks and its variable follow
each other there. The search for it goes from one place of the type to the next and comes to an end,
since the type is not empty.
-/
namespace IspcShader

open Text

namespace Parameter

/-- The variable follows a type: all the blanks at the start of the text, of which there are some,
then the variable, and then a text that does not go on with its name. -/
structure Follows (var text after : Text) : Prop where
  blanks : leadingBlanks text ≠ []
  split : leadingBlanks text ++ var ++ after = text
  off : startsOffWord after = true

theorem restAfterVar?_eq_some_iff {var text after : Text} :
    restAfterVar? var text = some after ↔ Follows var text after := by
  have split :
      strip? var (trimStart text) = some after ↔ leadingBlanks text ++ var ++ after = text := by
    rw [List.isPrefixOf?_eq_some_iff_append_eq, ← List.append_right_inj (leadingBlanks text),
      leadingBlanks_append_trimStart, List.append_assoc]
  unfold restAfterVar?
  constructor
  · intro read
    split at read
    · cases read
    · next some =>
      obtain ⟨rest, stripped, ends⟩ := Option.bind_eq_some_iff.mp read
      split at ends
      · next off =>
        cases ends
        exact ⟨by simpa using some, split.mp stripped, off⟩
      · cases ends
  · rintro ⟨blanks, shape, off⟩
    rw [if_neg (by simpa using blanks), split.mpr shape]
    exact if_pos off

theorem append_of_locate? {param : Parameter} {params before rest : Text}
    (h : param.locate? params = some (before, rest)) :
    ∃ blanks, params = before ++ (param.type ++ blanks ++ param.var) ++ rest ∧ blanks ≠ [] ∧
      ∀ c ∈ blanks, isBlank c = true := by
  unfold locate? at h
  obtain ⟨found, listed, same⟩ := List.exists_of_findSome?_eq_some h
  obtain ⟨behind, read, pair⟩ := Option.map_eq_some_iff.mp same
  cases pair
  obtain ⟨blanks, split, -⟩ := restAfterVar?_eq_some_iff.mp read
  refine ⟨leadingBlanks found.after, ?_, blanks, List.all_eq_true.mp List.all_takeWhile⟩
  conv => lhs; rw [← append_of_mem_occurrences listed, ← split]
  simp

theorem locate?_of_absent {param : Parameter} {params : Text} (absent : ¬ param.type <:+: params) :
    param.locate? params = none := by
  rw [locate?, occurrences, Cursor.occurrences, Cursor.next?, cut?_eq_none_iff.mpr absent]
  rfl

/-- The leftmost place of the type decides, unless the variable does not follow there. -/
theorem locate?_of_cut? {param : Parameter} (typed : param.type ≠ []) {params before rest : Text}
    (cut : cut? param.type params = some (before, rest)) :
    param.locate? params =
      ((restAfterVar? param.var rest).map fun after => (before, after)).or
        ((param.locate? rest).map fun place => (before ++ param.type ++ place.1, place.2)) := by
  rw [locate?, occurrences_eq_cons typed cut, List.findSome?_cons, List.findSome?_map, locate?]
  cases restAfterVar? param.var rest with
  | some after => rfl
  | none =>
    change List.findSome? _ _ = Option.map _ (List.findSome? _ _)
    rw [List.map_findSome?]
    congr 1
    funext found
    simp only [Function.comp_apply, Option.map_map, Occurrence.behind]
    rfl

/-- The search for a parameter, place by place: where its type stands first, the variable follows or
the search goes on behind the type. The result is what stands before and after the parameter. -/
inductive Search (param : Parameter) : Text → Option (Text × Text) → Prop
  | nowhere {params : Text} (absent : ¬ param.type <:+: params) : Search param params none
  | here {before rest after : Text} (first : IsLeftmost param.type before rest)
      (follows : Follows param.var rest after) :
      Search param (before ++ param.type ++ rest) (some (before, after))
  | further {before rest : Text} {found : Option (Text × Text)}
      (first : IsLeftmost param.type before rest)
      (other : ∀ after, ¬ Follows param.var rest after) (more : Search param rest found) :
      Search param (before ++ param.type ++ rest)
        (found.map fun place => (before ++ param.type ++ place.1, place.2))

theorem Search.locate?_eq {param : Parameter} (typed : param.type ≠ []) {params : Text}
    {found : Option (Text × Text)} (search : param.Search params found) :
    param.locate? params = found := by
  induction search with
  | nowhere absent => exact locate?_of_absent absent
  | here first follows =>
    rw [locate?_of_cut? typed (cut?_eq_of_leftmost first), restAfterVar?_eq_some_iff.mpr follows]
    rfl
  | @further before rest found first other more ih =>
    have none : restAfterVar? param.var rest = none :=
      Option.eq_none_iff_forall_ne_some.mpr fun after read =>
        other after (restAfterVar?_eq_some_iff.mp read)
    rw [locate?_of_cut? typed (cut?_eq_of_leftmost first), none, ih]
    rfl

/-- The search for a type that is not empty comes to an end, since each place lies behind the one
before. -/
theorem search_locate? {param : Parameter} (typed : param.type ≠ []) (params : Text) :
    param.Search params (param.locate? params) := by
  induction length : params.length using Nat.strongRecOn generalizing params with
  | ind size ih =>
    cases cut : cut? param.type params with
    | none =>
      have absent := cut?_eq_none_iff.mp cut
      rw [locate?_of_absent absent]
      exact .nowhere absent
    | some place =>
      obtain ⟨before, rest⟩ := place
      obtain ⟨rfl, first⟩ := cut?_eq_some_iff.mp cut
      rw [locate?_of_cut? typed cut]
      cases read : restAfterVar? param.var rest with
      | some after => exact .here first (restAfterVar?_eq_some_iff.mp read)
      | none =>
        have shorter : rest.length < size := by
          have positive := List.length_pos_iff.mpr typed
          simp only [List.length_append] at length
          omega
        refine .further first (fun after follows => ?_) (ih rest.length shorter rest rfl)
        rw [restAfterVar?_eq_some_iff.mpr follows] at read
        cases read

end Parameter

end IspcShader
