import IspcShader.EntryPoint.Marker
import IspcShader.Proofs.Text.Infix
import IspcShader.Proofs.Text.Search
import IspcShader.Proofs.Text.Slice

/-!
Which name on a line is taken for the entry point: the first one that ends in `_MAIN` in front of a
parenthesis, and the whole of it.
-/
namespace IspcShader

open Text

namespace EntryMarker

theorem line_of_find? {text : Text} {marker : EntryMarker} (h : find? text = some marker) :
    marker.line = text := by
  obtain ⟨⟨front, params⟩, found, rfl⟩ := Option.map_eq_some_iff.mp h
  simp only [line]
  rw [← Text.append_of_cut? found, ← List.append_assoc (Text.splitLastWord front).1,
    Text.splitLastWord_append]
  simp

theorem isSome_find? (line : Text) : (find? line).isSome = contains "_MAIN(" line := by
  rw [find?, Option.isSome_map]
  rfl

theorem find?_eq_none {line : Text} (absent : contains "_MAIN(" line = false) :
    find? line = none := by
  rwa [← isSome_find?, Option.isSome_eq_false_iff, Option.isNone_iff_eq_none] at absent

theorem find?_eq_none_iff {line : Text} : find? line = none ↔ ¬ ("_MAIN(" : Text) <:+: line := by
  rw [← contains_eq_false_iff, ← isSome_find?, Option.isSome_eq_false_iff,
    Option.isNone_iff_eq_none]

/-- The marker cuts the line around a name that ends in `_MAIN` and goes back as far as its
characters do, and no other such ending in front of a parenthesis stops at an earlier byte. -/
structure Marks (marker : EntryMarker) (line : Text) : Prop where
  split : marker.line = line
  off : endsOffWord marker.before = true
  isWord : IsWord marker.name
  marked : ("_MAIN" : Text) <:+ marker.name
  first : ∀ lead rest, line = lead ++ "_MAIN(" ++ rest →
    marker.span.stop ≤ byteLength (lead ++ "_MAIN")

theorem marks_of_find? {line : Text} {marker : EntryMarker} (h : find? line = some marker) :
    marker.Marks line := by
  have split := line_of_find? h
  obtain ⟨⟨front, params⟩, found, rfl⟩ := Option.map_eq_some_iff.mp h
  have mark : IsWord "_MAIN".toList := by decide
  refine ⟨split, endsOffWord_splitLastWord front, ⟨?_, ?_⟩, ⟨_, rfl⟩, ?_⟩
  · exact List.append_ne_nil_of_right_ne_nil _ mark.ne_nil
  · intro c member
    rcases List.mem_append.mp member with stem | marked
    · exact isWordChar_of_mem_splitLastWord stem
    · exact mark.chars c marked
  · intro lead rest same
    obtain ⟨before, after, cut, earlier⟩ := exists_cut? "_MAIN(" lead rest
    rw [← same, found] at cut
    cases cut
    have joined : front ++ ("_MAIN(" ++ params) = lead ++ ("_MAIN(" ++ rest) := by
      rw [← List.append_assoc, append_of_cut? found, same, List.append_assoc]
    have bytes := byteLength_le_of_length_le joined earlier
    have stop :
        (EntryMarker.mk (splitLastWord front).1 ((splitLastWord front).2 ++ "_MAIN")
          params).span.stop =
        byteLength front + byteLength "_MAIN" := by
      rw [span]
      dsimp only
      rw [← byteLength_append, ← List.append_assoc, splitLastWord_append, byteLength_append]
    rw [stop, byteLength_append]
    omega

theorem find?_of_cut? {before stem params : Text} (off : endsOffWord before = true)
    (isWord : IsWord (stem ++ "_MAIN"))
    (cut : cut? "_MAIN(" (before ++ stem ++ "_MAIN(" ++ params) = some (before ++ stem, params)) :
    find? (before ++ (stem ++ "_MAIN") ++ "(" ++ params) =
      some ⟨before, stem ++ "_MAIN", params⟩ := by
  have chars : ∀ c ∈ stem, isWordChar c = true := fun c member =>
    isWord.chars c (List.mem_append_left _ member)
  have shape :
      before ++ (stem ++ "_MAIN") ++ "(" ++ params = before ++ stem ++ "_MAIN(" ++ params := by simp
  rw [shape, find?, cut, Option.map_some]
  simp only [splitLastWord_word off chars]

theorem Marks.find?_eq {line : Text} {marker : EntryMarker} (marks : marker.Marks line) :
    find? line = some marker := by
  obtain ⟨before, name, params⟩ := marker
  obtain ⟨rfl, off, isWord, ⟨stem, rfl⟩, first⟩ := marks
  apply find?_of_cut? off isWord
  apply cut?_eq_of_leftmost
  intro b a same
  have bytes := first b a (by simpa [line] using same.symm)
  simp only [span, byteLength_append] at bytes
  have joined : (before ++ stem) ++ ("_MAIN(" ++ params) = b ++ ("_MAIN(" ++ a) := by
    rw [← List.append_assoc, ← same, List.append_assoc]
  apply length_le_of_byteLength_le joined
  rw [byteLength_append]
  omega

theorem find?_eq_some_iff {line : Text} {marker : EntryMarker} :
    find? line = some marker ↔ marker.Marks line :=
  ⟨marks_of_find?, Marks.find?_eq⟩

theorem isWord_of_find? {line : Text} {marker : EntryMarker} (h : find? line = some marker) :
    IsWord marker.name ∧ endsOffWord marker.before = true :=
  ⟨(marks_of_find? h).isWord, (marks_of_find? h).off⟩

theorem Marks.covers {line : Text} {marker : EntryMarker} (marks : marker.Marks line) :
    marker.span.Covers line marker.name := by
  rw [← marks.split, EntryMarker.line, List.append_assoc]
  exact ByteSpan.covers_append marker.before marker.name ("(" ++ marker.params)

/-- The first parenthesis of a line stands behind the entry point's name. -/
theorem find?_eq_of_new_call {before name params : Text} (new : '(' ∉ before)
    (off : endsOffWord before = true) (isWord : IsWord name) (marked : ("_MAIN" : Text) <:+ name) :
    find? (before ++ name ++ "(" ++ params) = some ⟨before, name, params⟩ := by
  obtain ⟨stem, rfl⟩ := marked
  have unseen : '(' ∉ before ++ stem ++ "_MAIN" := by
    rw [List.append_assoc, List.mem_append, not_or]
    exact ⟨new, isWord.not_mem (by decide)⟩
  have cut : cut? ("_MAIN" ++ ['(']) (before ++ stem ++ ("_MAIN" ++ ['(']) ++ params) =
      some (before ++ stem, params) := cut?_eq_of_new_char unseen
  exact find?_of_cut? off isWord cut

end EntryMarker

end IspcShader
