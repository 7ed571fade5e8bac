import Mathlib.Data.List.TakeWhile
import IspcShader.Proofs.Macro.Argument

/-!
Counting the arguments of a list without reading them. The count looks at brackets, commas and
blanks only, so a piece of text that closes all its brackets may be replaced by another one,
wherever it stands.
-/
namespace IspcShader.Macro

open Text

/-- The number of pieces up to the closing parenthesis, and whether nothing but blanks is there. -/
def tally (depth : Nat) : Text → Option (Nat × Bool)
  | [] => none
  | c :: rest =>
    if isClosing c then
      match depth with
      | 0 => if c = ')' then some (1, true) else none
      | depth + 1 => (tally depth rest).map fun (pieces, _) => (pieces, false)
    else if isOpening c then (tally (depth + 1) rest).map fun (pieces, _) => (pieces, false)
    else if c = ',' ∧ depth = 0 then (tally 0 rest).map fun (pieces, _) => (pieces + 1, false)
    else (tally depth rest).map fun (pieces, blank) => (pieces, isBlank c && blank)

theorem isBlank_of_isOpening {c : Char} (h : isOpening c = true) : isBlank c = false := by
  simp only [isOpening, Bool.or_eq_true, beq_iff_eq] at h
  rcases h with rfl | rfl <;> decide

theorem isBlank_of_isClosing {c : Char} (h : isClosing c = true) : isBlank c = false := by
  simp only [isClosing, Bool.or_eq_true, beq_iff_eq] at h
  rcases h with rfl | rfl <;> decide

theorem length_consFirst_cutCommas (c : Char) (depth : Nat) (text : Text) :
    (consFirst c (cutCommas depth text)).length = (cutCommas depth text).length := by
  obtain ⟨piece, pieces, shape⟩ := List.exists_cons_of_ne_nil (cutCommas_ne_nil depth text)
  rw [shape]
  rfl

theorem tally_eq (depth : Nat) (text : Text) :
    tally depth text = (readInside depth text).map fun (inside, _) =>
      ((cutCommas depth inside).length, inside.all isBlank) := by
  fun_induction tally depth text with
  | case1 => rfl
  | case2 rest closing => simp [readInside, closing, cutCommas]
  | case3 c rest closing other => simp [readInside, closing, other]
  | case4 c rest closing depth ih =>
    simp [readInside, closing, ih, Option.map_map, Function.comp_def, cutCommas,
      isOpening_of_isClosing closing, isBlank_of_isClosing closing, length_consFirst_cutCommas]
  | case5 depth c rest closing opening ih =>
    simp [readInside, closing, opening, ih, Option.map_map, Function.comp_def, cutCommas,
      comma_of_isOpening opening, isBlank_of_isOpening opening, length_consFirst_cutCommas]
  | case6 depth c rest closing opening comma ih =>
    obtain ⟨rfl, rfl⟩ := comma
    have solid : isBlank ',' = false := by decide
    simp [readInside, closing, opening, ih, Option.map_map, Function.comp_def, cutCommas, solid]
  | case7 depth c rest closing opening inner ih =>
    simp [readInside, closing, opening, inner, ih, Option.map_map, Function.comp_def, cutCommas,
      length_consFirst_cutCommas]

theorem tally_append {text : Text} {depth left : Nat} (h : depthAfter depth text = some left)
    (rest : Text) : tally depth (text ++ rest) =
      (tally left rest).map fun (pieces, blank) => (pieces, text.all isBlank && blank) := by
  fun_induction depthAfter depth text with
  | case1 depth =>
    cases h
    simp
  | case2 depth c text opening ih =>
    simp [tally, opening, isClosing_of_isOpening opening, ih h, Function.comp_def,
      isBlank_of_isOpening opening]
  | case3 | case5 => cases h
  | case4 c text opening closing depth ih =>
    simp [tally, closing, ih h, Function.comp_def, isBlank_of_isClosing closing]
  | case6 depth c text opening closing inner ih =>
    simp [tally, opening, closing, inner, ih h, Function.comp_def, Bool.and_assoc]

/-- A text that counts for one whole piece wherever it stands: it closes its brackets, separates
nothing and is not blank. -/
structure IsChunk (text : Text) : Prop where
  closed : ∀ depth, depthAfter depth text = some depth
  solid : text.all isBlank = false

theorem IsChunk.of_isWord {word : Text} (isWord : IsWord word) : IsChunk word := by
  constructor
  · exact depthAfter_plain fun c member => isPlain_of_isWordChar (isWord.chars c member)
  · obtain ⟨c, rest, rfl⟩ := List.exists_cons_of_ne_nil isWord.ne_nil
    rw [List.all_cons, isBlank_of_isWordChar (isWord.chars c List.mem_cons_self), Bool.false_and]

theorem IsChunk.append_plain {text more : Text} (chunk : IsChunk text)
    (plain : ∀ c ∈ more, isPlain c = true) : IsChunk (text ++ more) := by
  constructor
  · intro depth
    rw [depthAfter_append (chunk.closed depth)]
    exact depthAfter_plain plain depth
  · rw [List.all_append, chunk.solid, Bool.false_and]

theorem IsChunk.wrap {name inner : Text} (named : IsWord name)
    (closed : ∀ depth, depthAfter depth inner = some depth) :
    IsChunk (name ++ "(" ++ inner ++ ")") := by
  have chunk := IsChunk.of_isWord named
  have shape : name ++ "(" ++ inner ++ ")" = name ++ '(' :: (inner ++ [')']) := by simp
  rw [shape]
  constructor
  · intro depth
    have opened :
        depthAfter depth ('(' :: (inner ++ [')'])) = depthAfter (depth + 1) (inner ++ [')']) :=
      rfl
    rw [depthAfter_append (chunk.closed depth), opened, depthAfter_append (closed (depth + 1))]
    rfl
  · rw [List.all_append, chunk.solid, Bool.false_and]

theorem IsChunk.tally_append {a b : Text} (ha : IsChunk a) (hb : IsChunk b) (depth : Nat)
    (rest : Text) : tally depth (a ++ rest) = tally depth (b ++ rest) := by
  rw [Macro.tally_append (ha.closed depth), Macro.tally_append (hb.closed depth),
    ha.solid, hb.solid]

theorem tally_append_congr {x y : Text} (same : ∀ depth, tally depth x = tally depth y)
    (front : Text) (depth : Nat) : tally depth (front ++ x) = tally depth (front ++ y) := by
  induction front generalizing depth with
  | nil => exact same depth
  | cons c front ih =>
    cases depth <;> simp only [List.cons_append, tally, ih]

theorem IsChunk.tally_eq {a b : Text} (ha : IsChunk a) (hb : IsChunk b) (front rest : Text)
    (depth : Nat) : tally depth (front ++ a ++ rest) = tally depth (front ++ b ++ rest) := by
  rw [List.append_assoc, List.append_assoc]
  exact tally_append_congr (fun depth => ha.tally_append hb depth rest) front depth

theorem IsChunk.tally_replaced {needle new a b : Text} (old : IsChunk needle) (fresh : IsChunk new)
    (h : Replaced needle new a b) (depth : Nat) : tally depth a = tally depth b := by
  induction h generalizing depth with
  | refl text => rfl
  | next before rest ih =>
    rw [old.tally_eq fresh]
    exact tally_append_congr ih (before ++ new) depth

theorem tally_comma (rest : Text) :
    tally 0 (',' :: ' ' :: rest) = (tally 0 rest).map fun (pieces, _) => (pieces + 1, false) := by
  simp [tally, isClosing, isOpening, Function.comp_def]

/-- Texts joined by commas count one piece each, the last one together with what follows. -/
theorem tally_intercalate {texts : List Text} (nonempty : texts ≠ [])
    (closed : ∀ text ∈ texts, depthAfter 0 text = some 0)
    (solid : ∀ text ∈ texts, text.all isBlank = false) (rest : Text) :
    tally 0 (List.intercalate ", " texts ++ rest) =
      (tally 0 rest).map fun (pieces, _) => (texts.length - 1 + pieces, false) := by
  induction texts with
  | nil => exact absurd rfl nonempty
  | cons text more ih =>
    have first := closed text List.mem_cons_self
    have visible := solid text List.mem_cons_self
    cases more with
    | nil =>
      rw [List.intercalate_singleton, tally_append first, visible]
      simp
    | cons next more =>
      have shape : List.intercalate ", " (text :: next :: more) ++ rest =
          text ++ ',' :: ' ' :: (List.intercalate ", " (next :: more) ++ rest) := by
        simp
      have others :=
        ih (List.cons_ne_nil next more) (fun t member => closed t (List.mem_cons_of_mem _ member))
        fun t member => solid t (List.mem_cons_of_mem _ member)
      rw [shape, tally_append first, visible, tally_comma, others, Option.map_map, Option.map_map]
      congr 1
      funext counted
      simp only [Function.comp_apply, List.length_cons, Bool.false_and, Prod.mk.injEq, and_true]
      omega

theorem trim_eq_nil_iff {text : Text} : trim text = [] ↔ text.all isBlank = true := by
  constructor
  · intro gone
    have rest : ∀ c ∈ trimStart text, isBlank c = true := by
      have turned := List.reverse_eq_nil_iff.mp gone
      intro c member
      exact List.dropWhile_eq_nil_iff.mp turned c (List.mem_reverse.mpr member)
    rw [← leadingBlanks_append_trimStart text, List.all_append, List.all_eq_true.mpr rest]
    rw [leadingBlanks, List.all_takeWhile]
    rfl
  · intro blank
    have nothing : trimStart text = [] := List.dropWhile_eq_nil_iff.mpr (List.all_eq_true.mp blank)
    rw [trim, nothing]
    rfl

theorem arguments_eq (inside : Text) :
    arguments inside = if inside.all isBlank then [] else (cutCommas 0 inside).map trim := by
  by_cases blank : inside.all isBlank = true
  · have whole := cutCommas_of_closed (depthAfter_blank (List.all_eq_true.mp blank) 0)
    rw [if_pos blank, arguments, whole, List.map_singleton, trim_eq_nil_iff.mpr blank]
    rfl
  · have several : (cutCommas 0 inside).map trim ≠ [[]] := by
      intro same
      obtain ⟨piece, cut, gone⟩ := List.map_eq_singleton_iff.mp same
      have whole := intercalate_cutCommas 0 inside
      rw [cut, List.intercalate_singleton] at whole
      rw [whole] at gone
      exact blank (trim_eq_nil_iff.mp gone)
    rw [if_neg blank, arguments, if_neg several]

theorem length_arguments (inside : Text) :
    (arguments inside).length = if inside.all isBlank then 0 else (cutCommas 0 inside).length := by
  rw [arguments_eq]
  split
  · rfl
  · exact List.length_map trim

theorem tally_trimStart (text : Text) : tally 0 (trimStart text) = tally 0 text := by
  have blank : (leadingBlanks text).all isBlank = true := List.all_takeWhile
  have whole := tally_append (depthAfter_blank (List.all_eq_true.mp blank) 0) (trimStart text)
  rw [leadingBlanks_append_trimStart, blank] at whole
  simpa using whole.symm

theorem blank_of_tally_cons {c : Char} {rest : Text} {pieces : Nat} {blank : Bool}
    (solid : isBlank c = false) (inner : c ≠ ')') (h : tally 0 (c :: rest) = some (pieces, blank)) :
    blank = false := by
  unfold tally at h
  split at h
  · -- a square bracket would be closed that is not open
    cases h
  · split at h
    · obtain ⟨counted, -, same⟩ := Option.map_eq_some_iff.mp h
      exact (congrArg Prod.snd same).symm
    · split at h
      · obtain ⟨counted, -, same⟩ := Option.map_eq_some_iff.mp h
        exact (congrArg Prod.snd same).symm
      · obtain ⟨counted, -, same⟩ := Option.map_eq_some_iff.mp h
        rw [solid] at same
        exact (congrArg Prod.snd same).symm

/-- A list is blank just when its closing parenthesis comes first, and it has one piece then. -/
theorem blank_of_tally {text : Text} {pieces : Nat} {blank : Bool}
    (h : tally 0 text = some (pieces, blank)) :
    blank = startsWith ")" (trimStart text) ∧ (blank = true → pieces = 1) := by
  rw [← tally_trimStart] at h
  have stop := List.head?_dropWhile_not isBlank text
  cases shape : trimStart text with
  | nil =>
    rw [shape] at h
    cases h
  | cons c rest =>
    rw [shape] at h
    rw [trimStart] at shape
    rw [shape] at stop
    by_cases closes : c = ')'
    · subst closes
      cases h
      exact ⟨rfl, fun _ => rfl⟩
    · have other : startsWith ")" (c :: rest) = false := by
        simp [startsWith, List.isPrefixOf, Ne.symm closes]
      have visible := blank_of_tally_cons stop closes h
      rw [other, visible]
      exact ⟨rfl, fun h => absurd h Bool.false_ne_true⟩

def arity (text : Text) : Option Nat :=
  (readInside 0 text).map fun (inside, _) => (arguments inside).length

theorem arity_eq_some_iff {text : Text} {count : Nat} :
    arity text = some count ↔
      ∃ inside after, readInside 0 text = some (inside, after) ∧
        (arguments inside).length = count := by
  simp [arity, Option.map_eq_some_iff]

theorem arity_eq (text : Text) :
    arity text = (tally 0 text).map fun (pieces, blank) => if blank then 0 else pieces := by
  rw [arity, Macro.tally_eq, Option.map_map]
  simp only [length_arguments, Function.comp_def]

theorem Invocation.exists_args_of_arity {before name tail : Text} {count : Nat}
    (isWord : IsWord name) (off : endsOffWord before = true)
    (new : contains (name ++ "(") before = false) (h : arity tail = some count) :
    ∃ args, (find? (before ++ name ++ '(' :: tail) name).map Invocation.args = some args ∧
      args.length = count := by
  obtain ⟨inside, after, read, size⟩ := arity_eq_some_iff.mp h
  refine ⟨arguments inside, ?_, size⟩
  rw [find?_eq_of_new_name isWord off new, read]
  rfl

end IspcShader.Macro
