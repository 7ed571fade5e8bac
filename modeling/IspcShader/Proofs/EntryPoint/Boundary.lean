import IspcShader.Proofs.EntryPoint.Lookup
import IspcShader.Proofs.Macro.Call
import IspcShader.Proofs.Text.Slice

/-!
The bounds of the names on an entry line. The variable of a builtin parameter is found as a whole
word; its type is not, so the end of a longer name is taken for it. A declaration is never missed,
since no occurrence of the type reaches into one, but what is found may lie in front of every
declaration.
-/
namespace IspcShader

open Text

/-- How a builtin's type is spelled: a name, or a name with a type in parentheses. -/
inductive IsBuiltinType : Text → Prop
  | plain {name : Text} (isWord : IsWord name) : IsBuiltinType name
  | wrapped {name type : Text} (outer : IsWord name) (inner : IsWord type) :
      IsBuiltinType (name ++ "(" ++ type ++ ")")

namespace IsBuiltinType

theorem ne_nil {type : Text} (spelled : IsBuiltinType type) : type ≠ [] := by
  cases spelled with
  | plain isWord => exact isWord.ne_nil
  | wrapped outer inner => simp

/-- No occurrence of a type reaches into a later one that starts off a word, or that is in
parentheses. -/
theorem exists_between {type x y b a : Text} (spelled : IsBuiltinType type)
    (split : x ++ type ++ y = b ++ type ++ a) (shorter : x.length < b.length)
    (clear : endsOffWord b = true ∨ ')' ∈ type) :
    ∃ between, b = x ++ type ++ between ∧ y = between ++ type ++ a := by
  cases spelled with
  | plain isWord =>
    have off : endsOffWord ([] ++ b) = true := clear.resolve_right (isWord.not_mem (by decide))
    exact Macro.Invocation.exists_between isWord split shorter off
  | @wrapped name type outer inner =>
    have new : ')' ∉ name ++ "(" ++ type := by
      have outside := outer.not_mem (c := ')') (by decide)
      have inside := inner.not_mem (c := ')') (by decide)
      simp [outside, inside]
    exact between_of_new_char new split shorter

end IsBuiltinType

namespace Parameter

/-- A place where a parameter stands: its type, one blank or more, and its variable, whose name ends
there. -/
structure Place (param : Parameter) (params : Text) where
  before : Text
  blanks : Text
  after : Text
  split : before ++ (param.type ++ blanks ++ param.var) ++ after = params
  spaced : blanks ≠ []
  blank : ∀ c ∈ blanks, isBlank c = true
  off : startsOffWord after = true

namespace Place

variable {param : Parameter} {params : Text}

def span (place : param.Place params) : ByteSpan :=
  ⟨byteLength place.before, byteLength place.before +
    byteLength (param.type ++ place.blanks ++ param.var)⟩

/-- The type is a name of its own there, not the end of a longer one. -/
def IsDeclaration (place : param.Place params) : Prop :=
  endsOffWord place.before = true

def tail (place : param.Place params) : Text :=
  place.blanks ++ param.var ++ place.after

/-- The search for the type comes by here: no earlier occurrence that it took up reaches into this
one. -/
def IsVisited (place : param.Place params) : Prop :=
  ⟨place.before, place.tail⟩ ∈ occurrences param.type params

theorem before_append_tail (place : param.Place params) :
    place.before ++ param.type ++ place.tail = params := by
  conv => rhs; rw [← place.split]
  simp [tail]

theorem follows (var : IsWord param.var) (place : param.Place params) :
    Follows param.var place.tail place.after := by
  have solid : ∀ c ∈ (param.var ++ place.after).head?, isBlank c = false := by
    obtain ⟨c, rest, spelled⟩ := List.exists_cons_of_ne_nil var.ne_nil
    have first := isBlank_of_isWordChar (var.chars c (by rw [spelled]; exact List.mem_cons_self))
    simpa [spelled] using first
  have run : leadingBlanks place.tail = place.blanks := by
    rw [tail, List.append_assoc]
    exact takeWhile_run place.blank solid
  exact ⟨by rw [run]; exact place.spaced, by rw [run]; rfl, place.off⟩

def ofFollows {before rest after : Text} (split : before ++ param.type ++ rest = params)
    (follows : Follows param.var rest after) : param.Place params where
  before := before
  blanks := leadingBlanks rest
  after := after
  split := by
    rw [← split]
    conv => rhs; rw [← follows.split]
    simp
  spaced := follows.blanks
  blank := List.all_eq_true.mp List.all_takeWhile
  off := follows.off

theorem start_le_iff {place other : param.Place params} :
    place.span.start ≤ other.span.start ↔ place.before.length ≤ other.before.length := by
  have same :
      place.before ++ (param.type ++ place.tail) = other.before ++ (param.type ++ other.tail) := by
    rw [← List.append_assoc, ← List.append_assoc, place.before_append_tail,
      other.before_append_tail]
  exact ⟨length_le_of_byteLength_le same, byteLength_le_of_length_le same⟩

theorem before_eq_of_start_eq {place other : param.Place params}
    (same : place.span.start = other.span.start) :
    place.before = other.before := by
  have length : place.before.length = other.before.length :=
    Nat.le_antisymm (start_le_iff.mp (Nat.le_of_eq same)) (start_le_iff.mp (Nat.le_of_eq same.symm))
  have split := place.before_append_tail.trans other.before_append_tail.symm
  rw [List.append_assoc, List.append_assoc] at split
  exact (List.append_inj split length).1

end Place

section Search

variable {param : Parameter}

/-- Behind an occurrence of the type that does not reach into it, a place is one of the text that is
left. -/
def Place.behind {lead rest between : Text} (place : param.Place (lead ++ rest))
    (split : place.before = lead ++ between) : param.Place rest where
  before := between
  blanks := place.blanks
  after := place.after
  split := by
    have whole := place.split
    rw [split, List.append_assoc, List.append_assoc] at whole
    rw [List.append_assoc]
    exact List.append_cancel_left whole
  spaced := place.spaced
  blank := place.blank
  off := place.off

/-- A search with this result comes to an end no later than here. -/
def Place.EndsBy {params : Text} (place : param.Place params)
    (found : Option (Text × Text)) : Prop :=
  ∃ before after, found = some (before, after) ∧ before.length ≤ place.before.length

/-- A property of places that leads a search past the occurrences in front of a place to the place
itself: where the search goes on behind an occurrence of the type, the place lies behind that
occurrence and still has the property, unless it is there. -/
def Guides (reaches : (params : Text) → param.Place params → Prop) : Prop :=
  ∀ (before rest : Text) (place : param.Place (before ++ param.type ++ rest)),
    IsLeftmost param.type before rest → reaches _ place →
      place.tail = rest ∨
        ∃ between, ∃ split : place.before = before ++ param.type ++ between,
          reaches rest (place.behind split)

theorem Search.endsBy_of_guides {reaches : (params : Text) → param.Place params → Prop}
    {params : Text} {found : Option (Text × Text)} (var : IsWord param.var)
    (guides : Guides reaches) (search : param.Search params found) (place : param.Place params)
    (reached : reaches params place) : place.EndsBy found := by
  induction search with
  | nowhere absent => exact absurd ⟨place.before, place.tail, place.before_append_tail⟩ absent
  | @here before rest after first follows =>
    exact ⟨before, after, rfl, first _ _ place.before_append_tail⟩
  | @further before rest found first other more ih =>
    rcases guides before rest place first reached with here | ⟨between, split, later⟩
    · have follows := place.follows var
      rw [here] at follows
      exact absurd follows (other place.after)
    · obtain ⟨b, a, rfl, le⟩ := ih (place.behind split) later
      have inner : b.length ≤ between.length := le
      refine ⟨before ++ param.type ++ b, a, rfl, ?_⟩
      simp only [split, List.length_append]
      omega

theorem guides_isVisited (typed : param.type ≠ []) :
    Guides fun _ (place : param.Place _) => place.IsVisited := by
  intro before rest place first visited
  rw [Place.IsVisited, occurrences_eq_cons typed (cut?_eq_of_leftmost first)] at visited
  rcases List.mem_cons.mp visited with here | later
  · exact .inl (congrArg Occurrence.after here)
  · obtain ⟨⟨between, tail⟩, listed, same⟩ := List.mem_map.mp later
    obtain rfl : tail = place.tail := congrArg Occurrence.after same
    exact .inr ⟨between, (congrArg Occurrence.before same).symm, listed⟩

/-- A search is led to every declaration, and to every place of a type in parentheses. -/
theorem guides_isDeclaration (spelled : IsBuiltinType param.type) :
    Guides fun _ (place : param.Place _) => place.IsDeclaration ∨ ')' ∈ param.type := by
  intro before rest place first clear
  have whole := place.before_append_tail
  rcases Nat.lt_or_eq_of_le (first _ _ whole) with earlier | here
  · obtain ⟨between, split, -⟩ := spelled.exists_between whole.symm earlier clear
    refine .inr ⟨between, split, clear.imp_left fun off => ?_⟩
    rw [Place.IsDeclaration, split] at off
    by_cases empty : between = []
    · subst empty
      rfl
    · rwa [endsOffWord_append empty] at off
  · have same : place.before ++ (param.type ++ place.tail) = before ++ (param.type ++ rest) := by
      simpa using whole
    exact .inl (List.append_cancel_left (List.append_inj same here.symm).2)

end Search

def span? (param : Parameter) (params : Text) : Option ByteSpan :=
  (param.locate? params).map fun (before, after) =>
    ⟨byteLength before, byteLength params - byteLength after⟩

theorem exists_place_of_locate? {param : Parameter} {params before after : Text}
    (located : param.locate? params = some (before, after)) :
    ∃ place : param.Place params,
      place.before = before ∧ place.IsVisited ∧ param.span? params = some place.span := by
  obtain ⟨found, listed, same⟩ := List.exists_of_findSome?_eq_some located
  obtain ⟨rest, read, pair⟩ := Option.map_eq_some_iff.mp same
  cases pair
  have follows := restAfterVar?_eq_some_iff.mp read
  let place : param.Place params := .ofFollows (append_of_mem_occurrences listed) follows
  have tail : place.tail = found.after := follows.split
  refine ⟨place, rfl, ?_, ?_⟩
  · rw [Place.IsVisited, tail]
    exact listed
  · have bytes : byteLength params = place.span.stop + byteLength after := by
      conv => lhs; rw [← place.split]
      rw [byteLength_append, byteLength_append]
      rfl
    rw [span?, located, bytes]
    simp [Place.span, place, Place.ofFollows]

theorem exists_place_of_span? {param : Parameter} {params : Text} {span : ByteSpan}
    (spans : param.span? params = some span) :
    ∃ place : param.Place params, place.IsVisited ∧ place.span = span := by
  obtain ⟨⟨before, after⟩, located, -⟩ := Option.map_eq_some_iff.mp spans
  obtain ⟨place, -, visited, same⟩ := exists_place_of_locate? located
  exact ⟨place, visited, Option.some.inj (same.symm.trans spans)⟩

theorem Place.EndsBy.exists_found {param : Parameter} {params : Text} {place : param.Place params}
    (ends : place.EndsBy (param.locate? params)) :
    ∃ found : param.Place params,
      param.span? params = some found.span ∧ found.span.start ≤ place.span.start := by
  obtain ⟨before, after, located, le⟩ := ends
  obtain ⟨found, rfl, -, spans⟩ := exists_place_of_locate? located
  exact ⟨found, spans, Place.start_le_iff.mpr le⟩

/-- The look-up respects the bounds of names on both sides: it finds something just where the
parameter is declared, and then the bytes of the leftmost declaration. -/
structure RespectsBounds (param : Parameter) (params : Text) : Prop where
  found_iff : (param.span? params).isSome ↔ ∃ place : param.Place params, place.IsDeclaration
  leftmost : ∀ span, param.span? params = some span →
    ∃ place : param.Place params, place.IsDeclaration ∧ place.span = span ∧
      ∀ other : param.Place params, other.IsDeclaration → span.start ≤ other.span.start

/-- A place that a search takes for a declaration: the type is the end of a longer name there, and
no declaration stands in front. -/
structure Place.Misleads {param : Parameter} {params : Text}
    (place : param.Place params) : Prop where
  visited : place.IsVisited
  inside : ¬ place.IsDeclaration
  first : ∀ other : param.Place params, other.IsDeclaration → place.span.start < other.span.start

section Bounds

variable {param : Parameter} {params : Text}

theorem RespectsBounds.isDeclaration (respects : param.RespectsBounds params)
    {found : param.Place params} (spans : param.span? params = some found.span) :
    found.IsDeclaration := by
  obtain ⟨place, own, same, -⟩ := respects.leftmost found.span spans
  rw [Place.IsDeclaration, ← Place.before_eq_of_start_eq (congrArg ByteSpan.start same)]
  exact own

variable (spelled : IsBuiltinType param.type) (var : IsWord param.var)

include spelled var

theorem exists_found_of_isVisited (place : param.Place params) (visited : place.IsVisited) :
    ∃ found : param.Place params,
      param.span? params = some found.span ∧ found.span.start ≤ place.span.start :=
  ((search_locate? spelled.ne_nil params).endsBy_of_guides var
    (guides_isVisited spelled.ne_nil) place visited).exists_found

theorem exists_found_of_clear (place : param.Place params)
    (clear : place.IsDeclaration ∨ ')' ∈ param.type) :
    ∃ found : param.Place params,
      param.span? params = some found.span ∧ found.span.start ≤ place.span.start :=
  ((search_locate? spelled.ne_nil params).endsBy_of_guides var (guides_isDeclaration spelled) place
    clear).exists_found

theorem start_le_of_isDeclaration {span : ByteSpan} (spans : param.span? params = some span)
    {other : param.Place params} (own : other.IsDeclaration) : span.start ≤ other.span.start := by
  obtain ⟨found, same, le⟩ := exists_found_of_clear spelled var other (.inl own)
  rw [spans] at same
  rwa [Option.some.inj same]

theorem misleads_of_not_isDeclaration {found : param.Place params} (visited : found.IsVisited)
    (spans : param.span? params = some found.span) (inside : ¬ found.IsDeclaration) :
    found.Misleads := by
  refine ⟨visited, inside, ?_⟩
  intro other own
  refine Nat.lt_of_le_of_ne (start_le_of_isDeclaration spelled var spans own) fun start => inside ?_
  rw [Place.IsDeclaration, Place.before_eq_of_start_eq start]
  exact own

theorem respectsBounds_of_isDeclaration
    (declared : ∀ found : param.Place params, found.IsVisited →
      param.span? params = some found.span → found.IsDeclaration) :
    param.RespectsBounds params where
  found_iff := by
    constructor
    · intro some
      obtain ⟨span, spans⟩ := Option.isSome_iff_exists.mp some
      obtain ⟨found, visited, rfl⟩ := exists_place_of_span? spans
      exact ⟨found, declared found visited spans⟩
    · rintro ⟨place, own⟩
      obtain ⟨found, spans, -⟩ := exists_found_of_clear spelled var place (.inl own)
      rw [spans]
      rfl
  leftmost := by
    intro span spans
    obtain ⟨found, visited, rfl⟩ := exists_place_of_span? spans
    exact ⟨found, declared found visited spans, rfl,
      fun other => start_le_of_isDeclaration spelled var spans⟩

end Bounds

/-- The look-up of a parameter on any text. It finds a place where the type, blanks and the variable
follow each other and the variable ends; and where the parameter is declared, or where it stands at
all and its type is in parentheses, it finds one that starts no later. The look-up respects the
bounds of names except where the end of a longer name, in front of all declarations, reads as the
type. -/
theorem respectsBounds_iff_not_misled {param : Parameter} (spelled : IsBuiltinType param.type)
    (var : IsWord param.var) (params : Text) :
    (∀ span, param.span? params = some span → ∃ place : param.Place params, place.span = span) ∧
    (∀ place : param.Place params, place.IsDeclaration ∨ ')' ∈ param.type →
      ∃ span, param.span? params = some span ∧ span.start ≤ place.span.start) ∧
    (param.RespectsBounds params ↔ ∀ place : param.Place params, ¬ place.Misleads) := by
  refine ⟨?_, ?_, ?_, ?_⟩
  · intro span spans
    obtain ⟨found, -, same⟩ := exists_place_of_span? spans
    exact ⟨found, same⟩
  · intro place clear
    obtain ⟨found, spans, le⟩ := exists_found_of_clear spelled var place clear
    exact ⟨found.span, spans, le⟩
  · intro respects place misleads
    obtain ⟨found, spans, le⟩ := exists_found_of_isVisited spelled var place misleads.visited
    have later := misleads.first found (respects.isDeclaration spans)
    omega
  · intro clean
    refine respectsBounds_of_isDeclaration spelled var fun found visited spans => ?_
    exact Classical.byContradiction fun inside =>
      clean found (misleads_of_not_isDeclaration spelled var visited spans inside)

/-- The first parameter has a longer variable, so the second is found, behind a character of two
bytes. -/
theorem respectsBounds_second_parameter :
    let param : Parameter := ⟨"SV_GroupID(uint3)", "id"⟩
    let params : Text := "SV_GroupID(uint3) idé, SV_GroupID(uint3) id)"
    IsBuiltinType param.type ∧ IsWord param.var ∧ param.span? params = some ⟨24, 44⟩ ∧
      param.RespectsBounds params := by
  intro param params
  have spelled : IsBuiltinType param.type :=
    @IsBuiltinType.wrapped "SV_GroupID" "uint3" (by decide) (by decide)
  have var : IsWord param.var := by decide
  have apart :
      (occurrences param.type params).all (fun found => endsOffWord found.before) = true := by
    decide +kernel
  have clean : ∀ place : param.Place params, ¬ place.Misleads := fun place misleads =>
    misleads.inside (List.all_eq_true.mp apart _ misleads.visited)
  exact ⟨spelled, var, by decide +kernel,
    (respectsBounds_iff_not_misled spelled var params).2.2.mpr clean⟩

/-- The end of a longer name is taken for the type: nothing is declared, and yet something is
found. -/
theorem not_respectsBounds_longer_name :
    let param : Parameter := ⟨"SV_DispatchThreadID(uint3)", "id"⟩
    let params : Text := "MySV_DispatchThreadID(uint3) id)"
    IsBuiltinType param.type ∧ IsWord param.var ∧ param.span? params = some ⟨2, 31⟩ ∧
      ¬ param.RespectsBounds params := by
  intro param params
  have spelled : IsBuiltinType param.type :=
    @IsBuiltinType.wrapped "SV_DispatchThreadID" "uint3" (by decide) (by decide)
  have spans : param.span? params = some ⟨2, 31⟩ := by decide +kernel
  refine ⟨spelled, by decide, spans, fun respects => ?_⟩
  let found : param.Place params :=
    ⟨"My", " ", ")", by decide +kernel, by decide, List.all_eq_true.mp (by decide), by decide⟩
  have same : found.span = ⟨2, 31⟩ := by decide +kernel
  rw [← same] at spans
  have off : endsOffWord "My" = true := respects.isDeclaration spans
  exact absurd off (by decide)

end Parameter

end IspcShader
