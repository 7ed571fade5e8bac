import IspcShader.Macro.Invocation
import IspcShader.Proofs.Text.Infix
import IspcShader.Proofs.Text.Search

/-!
Reading a call back. The arguments that were joined by commas between parentheses come out again,
and a search for the name comes to the first place where it is called.
-/
namespace IspcShader.Macro

open Text

/-- The number of open brackets behind a piece of text, if it closes only brackets that were open
and has no comma outside all of them. -/
def depthAfter (depth : Nat) : Text → Option Nat
  | [] => some depth
  | c :: rest =>
    if isOpening c then depthAfter (depth + 1) rest
    else if isClosing c then
      match depth with
      | 0 => none
      | depth + 1 => depthAfter depth rest
    else if c = ',' ∧ depth = 0 then none
    else depthAfter depth rest

/-- A text that can be one argument of a list: trimmed, its brackets matched, its commas inside
them. -/
structure IsArgument (arg : Text) : Prop where
  trimmed : trim arg = arg
  closed : depthAfter 0 arg = some 0

theorem isClosing_of_isOpening {c : Char} (h : isOpening c = true) : isClosing c = false := by
  simp only [isOpening, Bool.or_eq_true, beq_iff_eq] at h
  rcases h with rfl | rfl <;> rfl

theorem isOpening_of_isClosing {c : Char} (h : isClosing c = true) : isOpening c = false := by
  simp only [isClosing, Bool.or_eq_true, beq_iff_eq] at h
  rcases h with rfl | rfl <;> rfl

theorem comma_of_isOpening {c : Char} (h : isOpening c = true) : c ≠ ',' := by
  rintro rfl
  cases h

/-- The scan of a text goes on where that of its first part has stopped. -/
theorem depthAfter_append_bind (depth : Nat) (text rest : Text) :
    depthAfter depth (text ++ rest) = (depthAfter depth text).bind fun left =>
      depthAfter left rest := by
  fun_induction depthAfter depth text with
  | case1 depth => rfl
  | case2 depth c text opening ih => simp [depthAfter, opening, ih]
  | case3 c text opening closing => simp [depthAfter, opening, closing]
  | case4 c text opening closing depth ih => simp [depthAfter, opening, closing, ih]
  | case5 depth c text opening closing comma =>
    obtain ⟨rfl, rfl⟩ := comma
    rfl
  | case6 depth c text opening closing inner ih => simp [depthAfter, opening, closing, inner, ih]

theorem depthAfter_append {text : Text} {depth left : Nat} (h : depthAfter depth text = some left)
    (rest : Text) : depthAfter depth (text ++ rest) = depthAfter left rest := by
  rw [depthAfter_append_bind, h, Option.bind_some]

theorem readInside_append {text rest : Text} {depth left : Nat}
    (h : depthAfter depth text = some left) :
    readInside depth (text ++ rest) =
      (readInside left rest).map fun (inside, after) => (text ++ inside, after) := by
  fun_induction depthAfter depth text with
  | case1 depth =>
    cases h
    simp
  | case2 depth c text opening ih =>
    simp [readInside, opening, isClosing_of_isOpening opening, ih h, Function.comp_def]
  | case3 | case5 => cases h
  | case4 c text opening closing depth ih => simp [readInside, closing, ih h, Function.comp_def]
  | case6 depth c text opening closing _ ih =>
    simp [readInside, opening, closing, ih h, Function.comp_def]

theorem cutCommas_append {text : Text} {depth left : Nat} (h : depthAfter depth text = some left)
    (rest : Text) :
    cutCommas depth (text ++ rest) = text.foldr consFirst (cutCommas left rest) := by
  fun_induction depthAfter depth text with
  | case1 depth =>
    cases h
    rfl
  | case2 depth c text opening ih =>
    simp [cutCommas, comma_of_isOpening opening, opening, ih h]
  | case3 | case5 => cases h
  | case4 c text opening closing depth ih =>
    simp [cutCommas, opening, closing, ih h]
  | case6 depth c text opening closing inner ih =>
    simp [cutCommas, inner, opening, closing, ih h]

theorem foldr_consFirst (text piece : Text) (pieces : List Text) :
    text.foldr consFirst (piece :: pieces) = (text ++ piece) :: pieces := by
  induction text with
  | nil => rfl
  | cons c text ih => rw [List.foldr_cons, ih]; rfl

theorem cutCommas_of_closed {text : Text} (closed : depthAfter 0 text = some 0) :
    cutCommas 0 text = [text] := by
  simpa [cutCommas, foldr_consFirst] using cutCommas_append closed []

theorem intercalate_cons (sep first : Text) (others : List Text) :
    List.intercalate sep (first :: others) = first ++ others.flatMap (sep ++ ·) := by
  induction others generalizing first with
  | nil => simp
  | cons next others ih =>
    rw [List.intercalate_cons_of_ne_nil (List.cons_ne_nil next others), ih, List.flatMap_cons]
    simp

theorem intercalate_split (sep : Text) (left : List Text) (middle : Text) (right : List Text) :
    List.intercalate sep (left ++ middle :: right) =
      left.flatMap (· ++ sep) ++ middle ++ right.flatMap (sep ++ ·) := by
  induction left with
  | nil => rw [List.nil_append, intercalate_cons]; rfl
  | cons first left ih =>
    rw [List.cons_append, List.intercalate_cons_of_ne_nil (by simp), ih, List.flatMap_cons]
    simp

theorem intercalate_append {sep : Text} {a b : List Text} (ha : a ≠ []) (hb : b ≠ []) :
    List.intercalate sep (a ++ b) = List.intercalate sep a ++ sep ++ List.intercalate sep b := by
  obtain ⟨x, a, rfl⟩ := List.exists_cons_of_ne_nil ha
  obtain ⟨y, b, rfl⟩ := List.exists_cons_of_ne_nil hb
  rw [List.cons_append, intercalate_cons, intercalate_cons, intercalate_cons, List.flatMap_append,
    List.flatMap_cons]
  simp

theorem intercalate_insert_ne {sep : Text} (front : List Text) {middle back : List Text}
    (hs : sep ≠ []) (hm : middle ≠ []) (hb : back ≠ []) :
    List.intercalate sep (front ++ (middle ++ back)) ≠ List.intercalate sep (front ++ back) := by
  have longer : List.intercalate sep (middle ++ back) ≠ List.intercalate sep back := by
    rw [intercalate_append hm hb]
    intro same
    have lengths := congrArg List.length same
    have positive := List.length_pos_iff.mpr hs
    simp only [List.length_append] at lengths
    omega
  cases front with
  | nil => exact longer
  | cons first more =>
    rw [intercalate_append (List.cons_ne_nil first more) (by simp [hm]),
      intercalate_append (List.cons_ne_nil first more) hb]
    exact fun same => longer (List.append_cancel_left same)

theorem readInside_intercalate {args : List Text} (closed : ∀ arg ∈ args, depthAfter 0 arg = some 0)
    (after : Text) :
    readInside 0 (List.intercalate ", " args ++ ')' :: after) =
      some (List.intercalate ", " args, after) := by
  have stop : readInside 0 (')' :: after) = some ([], after) := rfl
  induction args with
  | nil => exact stop
  | cons arg more ih =>
    have first := closed arg List.mem_cons_self
    cases more with
    | nil =>
      rw [List.intercalate_singleton, readInside_append first, stop]
      simp
    | cons next more =>
      have others := ih fun a member => closed a (List.mem_cons_of_mem arg member)
      have shape : List.intercalate ", " (arg :: next :: more) ++ ')' :: after =
          arg ++ ',' :: ' ' :: (List.intercalate ", " (next :: more) ++ ')' :: after) := by
        simp
      rw [shape, readInside_append first]
      simpa [readInside, isClosing, isOpening] using others

/-- Where the arguments are joined, their list is cut again: each but the first keeps the blank in
front of it. -/
theorem cutCommas_intercalate {arg : Text} {more : List Text}
    (closed : ∀ a ∈ arg :: more, depthAfter 0 a = some 0) :
    cutCommas 0 (List.intercalate ", " (arg :: more)) = arg :: more.map (' ' :: ·) := by
  induction more generalizing arg with
  | nil =>
    rw [List.intercalate_singleton, cutCommas_of_closed (closed arg (by simp))]
    rfl
  | cons next more ih =>
    have others := ih fun a member => closed a (List.mem_cons_of_mem arg member)
    have shape : List.intercalate ", " (arg :: next :: more) =
        arg ++ ',' :: ' ' :: List.intercalate ", " (next :: more) := by
      simp
    have blank : cutCommas 0 (' ' :: List.intercalate ", " (next :: more)) =
        consFirst ' ' (cutCommas 0 (List.intercalate ", " (next :: more))) := rfl
    have comma : cutCommas 0 (',' :: ' ' :: List.intercalate ", " (next :: more)) =
        [] :: cutCommas 0 (' ' :: List.intercalate ", " (next :: more)) := rfl
    rw [shape, cutCommas_append (closed arg (by simp)), comma, blank, others, foldr_consFirst]
    simp [consFirst]

theorem arguments_intercalate {args : List Text} (each : ∀ arg ∈ args, IsArgument arg)
    (nonblank : args ≠ [[]]) : arguments (List.intercalate ", " args) = args := by
  cases args with
  | nil => rfl
  | cons arg more =>
    have pieces : (cutCommas 0 (List.intercalate ", " (arg :: more))).map trim = arg :: more := by
      rw [cutCommas_intercalate fun a member => (each a member).closed, List.map_cons, List.map_map,
        (each arg (by simp)).trimmed]
      have kept : more.map (trim ∘ (' ' :: ·)) = more.map id := by
        apply List.map_congr_left
        intro a member
        rw [Function.comp_apply, trim_blank_cons (by decide)]
        exact (each a (List.mem_cons_of_mem arg member)).trimmed
      rw [kept, List.map_id]
    rw [arguments, pieces, if_neg nonblank]

def isPlain (c : Char) : Bool :=
  !isOpening c && !isClosing c && c != ','

theorem isPlain_of_class {p : Char → Bool}
    (off : ['(', '[', ')', ']', ','].all (fun d => !p d) = true) {c : Char} (h : p c = true) :
    isPlain c = true := by
  have absent : ∀ d ∈ ['(', '[', ')', ']', ','], c ≠ d := by
    rintro d member rfl
    have stop := List.all_eq_true.mp off c member
    rw [h] at stop
    cases stop
  simp only [List.mem_cons, List.not_mem_nil, or_false, forall_eq_or_imp, forall_eq] at absent
  simp [isPlain, isOpening, isClosing, absent]

theorem isPlain_of_isWordChar {c : Char} (h : isWordChar c = true) : isPlain c = true :=
  isPlain_of_class (by decide) h

theorem isPlain_of_isBlank {c : Char} (h : isBlank c = true) : isPlain c = true :=
  isPlain_of_class (by decide) h

theorem depthAfter_append_plain {text : Text} (plain : ∀ c ∈ text, isPlain c = true) (depth : Nat)
    (rest : Text) : depthAfter depth (text ++ rest) = depthAfter depth rest := by
  induction text with
  | nil => rfl
  | cons c text ih =>
    have here := plain c List.mem_cons_self
    simp only [isPlain, Bool.and_eq_true, Bool.not_eq_true', bne_iff_ne] at here
    have others := ih fun d member => plain d (List.mem_cons_of_mem c member)
    simpa [depthAfter, here.1.1, here.1.2, here.2] using others

theorem depthAfter_plain {text : Text} (plain : ∀ c ∈ text, isPlain c = true) (depth : Nat) :
    depthAfter depth text = some depth := by
  simpa [depthAfter] using depthAfter_append_plain plain depth []

theorem depthAfter_blank {text : Text} (blank : ∀ c ∈ text, isBlank c = true) (depth : Nat) :
    depthAfter depth text = some depth :=
  depthAfter_plain (fun c member => isPlain_of_isBlank (blank c member)) depth

theorem IsArgument.of_plain {text : Text} (plain : ∀ c ∈ text, isPlain c = true)
    (trimmed : trim text = text) : IsArgument text :=
  ⟨trimmed, depthAfter_plain plain 0⟩

theorem IsArgument.of_isWord {word : Text} (isWord : IsWord word) : IsArgument word :=
  .of_plain (fun c member => isPlain_of_isWordChar (isWord.chars c member)) isWord.trim

namespace Invocation

theorem append_of_read? {name : Text} {site : Text.Occurrence} {call : Invocation}
    (h : read? name site = some call) :
    call.name = name ∧ call.before = site.before ∧
      call.source ++ call.after = name ++ site.after := by
  simp only [read?, Option.bind_eq_bind, Option.bind_eq_some_iff, Option.pure_def,
    Option.some.injEq] at h
  obtain ⟨list, opened, ⟨inside, after⟩, closed, rfl⟩ := h
  rw [← List.isPrefixOf?_eq_some_iff_append_eq.mp opened, ← append_of_readInside closed]
  simp [source]

theorem append_of_find? {text name : Text} {call : Invocation} (h : find? text name = some call) :
    call.before ++ call.source ++ call.after = text := by
  obtain ⟨site, found, read⟩ := Option.bind_eq_some_iff.mp h
  obtain ⟨-, before, rest⟩ := append_of_read? read
  rw [List.append_assoc, rest, before, ← List.append_assoc]
  exact Text.append_of_mem_occurrences (List.mem_of_find?_eq_some found)

/-- Two occurrences of a word do not overlap where the later one starts off a word. -/
theorem exists_between {name passed x y b rest : Text} (isWord : IsWord name)
    (split : x ++ name ++ y = b ++ name ++ rest) (shorter : x.length < b.length)
    (off : endsOffWord (passed ++ b) = true) :
    ∃ between, b = x ++ name ++ between ∧ y = between ++ name ++ rest := by
  rcases between_or_inside split shorter with apart | ⟨gap, more, nonempty, -, rfl, rfl, -⟩
  · exact apart
  · -- the gap would lie inside the name, so the text in front would end in a word
    have gapWord : IsWord gap :=
      ⟨nonempty, fun c member => isWord.chars c (List.mem_append_left more member)⟩
    rw [← List.append_assoc, endsOffWord_append_word gapWord] at off
    cases off

/-- The search for a call passes every place in front of the first one. Occurrences of the name that
do not start a word cannot reach into the one that does. -/
theorem find?_occurrences {name tail b : Text} {place : Cursor} (isWord : IsWord name)
    (ahead : place.ahead = b ++ name ++ '(' :: tail) (off : endsOffWord (place.passed ++ b) = true)
    (first : ∀ b' a', place.ahead = b' ++ name ++ a' → b'.length < b.length →
      isCallSite ⟨place.passed ++ b', a'⟩ = false) :
    (place.occurrences name).find? isCallSite = some ⟨place.passed ++ b, '(' :: tail⟩ := by
  rw [← List.findSome?_guard]
  refine Cursor.findSome?_occurrences isWord.ne_nil ahead ?_ ?_
  · simp [Option.guard, isCallSite, off, startsWith, List.isPrefixOf]
  · intro x y split earlier
    refine ⟨by simp [Option.guard, first x y split earlier], ?_⟩
    obtain ⟨between, rfl, -⟩ := exists_between isWord (split.symm.trans ahead) earlier off
    simp

theorem read?_opened (name before tail : Text) :
    read? name ⟨before, '(' :: tail⟩ =
      (readInside 0 tail).map fun (inside, after) => ⟨before, name, inside, after⟩ := by
  have opened : strip? "(" ('(' :: tail) = some tail :=
    List.isPrefixOf?_eq_some_iff_append_eq.mpr rfl
  rw [read?, opened]
  dsimp only [Option.bind_eq_bind, Option.bind_some]
  cases readInside 0 tail <;> rfl

theorem find?_eq_of_new_name {before name : Text} (isWord : IsWord name)
    (off : endsOffWord before = true) (new : contains (name ++ "(") before = false) (tail : Text) :
    find? (before ++ name ++ '(' :: tail) name =
      (readInside 0 tail).map fun (inside, after) => ⟨before, name, inside, after⟩ := by
  have site : (occurrences name (before ++ name ++ '(' :: tail)).find? isCallSite =
      some ⟨before, '(' :: tail⟩ := by
    refine find?_occurrences isWord rfl off ?_
    intro b a same shorter
    obtain ⟨between, rfl, rfl⟩ := @exists_between name [] _ _ _ _ isWord same.symm shorter off
    cases between with
    | nil =>
      -- the name itself would follow, and it does not start with a parenthesis
      obtain ⟨c, rest, rfl⟩ := List.exists_cons_of_ne_nil isWord.ne_nil
      have different : '(' ≠ c := by
        rintro rfl
        exact isWord.not_mem (by decide) List.mem_cons_self
      simp [isCallSite, startsWith, List.isPrefixOf, different]
    | cons c between =>
      have different : '(' ≠ c := by
        rintro rfl
        have called : name ++ ['('] <:+: b ++ name ++ '(' :: between := ⟨b, between, by simp⟩
        exact contains_eq_false_iff.mp new called
      simp [isCallSite, startsWith, List.isPrefixOf, different]
  rw [find?, site, Option.bind_some, read?_opened]

/-- The first parenthesis of a text makes the name in front of it the first call. -/
theorem find?_eq_of_new_call {before name inside after : Text} (isWord : IsWord name)
    (off : endsOffWord before = true) (new : '(' ∉ before)
    (closes : readInside 0 (inside ++ ')' :: after) = some (inside, after)) :
    find? (before ++ name ++ "(" ++ inside ++ ")" ++ after) name =
      some ⟨before, name, inside, after⟩ := by
  have shape : before ++ name ++ "(" ++ inside ++ ")" ++ after =
      before ++ name ++ '(' :: (inside ++ ')' :: after) := by
    simp
  have unseen : contains (name ++ "(") before = false := by
    refine contains_eq_false_iff.mpr fun called => new (called.subset ?_)
    simp
  rw [shape, find?_eq_of_new_name isWord off unseen, closes, Option.map_some]

theorem args_find? {before name after : Text} {args : List Text} (isWord : IsWord name)
    (off : endsOffWord before = true) (new : '(' ∉ before) (each : ∀ arg ∈ args, IsArgument arg)
    (nonblank : args ≠ [[]]) :
    (find? (before ++ name ++ "(" ++ List.intercalate ", " args ++ ")" ++ after) name).map
      Invocation.args = some args := by
  have closes := readInside_intercalate (fun arg member => (each arg member).closed) after
  rw [find?_eq_of_new_call isWord off new closes, Option.map_some, Invocation.args,
    arguments_intercalate each nonblank]

end Invocation

end IspcShader.Macro
