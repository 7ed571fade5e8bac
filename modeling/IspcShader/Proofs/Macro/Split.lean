import IspcShader.Proofs.Macro.Tally

/-!
A text put between parentheses and read as a list. It is one argument just when its brackets match
and its commas stand inside them; how many arguments it counts for does not depend on what is put
behind it, as long as that closes its own brackets and separates nothing.
-/
namespace IspcShader.Macro

open Text

/-- The arguments of `(text)`, and what is left behind the parenthesis that closes the list. -/
def split? (text : Text) : Option (List Text × Text) :=
  (readInside 0 (text ++ ")")).map fun (inside, after) => (arguments inside, after)

/-- Each piece of a list that is read closes its own brackets; the first one starts where `depth` of
them are open. -/
theorem depthAfter_of_cutCommas {depth : Nat} {text inside after : Text}
    (h : readInside depth text = some (inside, after)) :
    ∃ first more, cutCommas depth inside = first :: more ∧ depthAfter depth first = some 0 ∧
      ∀ piece ∈ more, depthAfter 0 piece = some 0 := by
  fun_induction readInside depth text generalizing inside after with
  | case1 => cases h
  | case2 rest closing =>
    cases h
    exact ⟨[], [], rfl, rfl, List.forall_mem_nil _⟩
  | case3 => cases h
  | case4 c rest closing depth ih =>
    obtain ⟨⟨inner, behind⟩, read, same⟩ := Option.map_eq_some_iff.mp h
    obtain ⟨rfl, rfl⟩ : c :: inner = inside ∧ behind = after := by simpa using same
    obtain ⟨first, more, cut, closed, others⟩ := ih read
    refine ⟨c :: first, more, ?_, ?_, others⟩
    · simp [cutCommas, isOpening_of_isClosing closing, closing, cut, consFirst]
    · simpa [depthAfter, isOpening_of_isClosing closing, closing] using closed
  | case5 depth c rest closing ih =>
    obtain ⟨⟨inner, behind⟩, read, same⟩ := Option.map_eq_some_iff.mp h
    obtain ⟨rfl, rfl⟩ : c :: inner = inside ∧ behind = after := by simpa using same
    obtain ⟨first, more, cut, closed, others⟩ := ih read
    cases opening : isOpening c with
    | true =>
      simp only [opening, if_true] at cut closed
      refine ⟨c :: first, more, ?_, ?_, others⟩
      · simp [cutCommas, comma_of_isOpening opening, opening, cut, consFirst]
      · simpa [depthAfter, opening] using closed
    | false =>
      simp only [opening, Bool.false_eq_true, if_false] at cut closed
      by_cases comma : c = ',' ∧ depth = 0
      · obtain ⟨rfl, rfl⟩ := comma
        refine ⟨[], first :: more, by simp [cutCommas, cut], rfl, ?_⟩
        rintro piece (_ | ⟨_, later⟩)
        · exact closed
        · exact others piece later
      · refine ⟨c :: first, more, ?_, ?_, others⟩
        · simp [cutCommas, comma, opening, closing, cut, consFirst]
        · simpa [depthAfter, opening, closing, comma] using closed

theorem depthAfter_trim (depth : Nat) (text : Text) :
    depthAfter depth (trim text) = depthAfter depth text := by
  obtain ⟨lead, trail, split, front, back⟩ := exists_append_trim text
  conv => rhs; rw [split]
  rw [List.append_assoc, depthAfter_append (depthAfter_blank front depth), depthAfter_append_bind]
  simp [depthAfter_blank back]

/-- What is read off a list as an argument can be written as one. -/
theorem isArgument_of_mem_arguments {text inside after arg : Text}
    (read : readInside 0 text = some (inside, after)) (listed : arg ∈ arguments inside) :
    IsArgument arg := by
  rw [arguments_eq] at listed
  split at listed
  · cases listed
  · obtain ⟨piece, cut, rfl⟩ := List.mem_map.mp listed
    obtain ⟨first, more, pieces, closed, others⟩ := depthAfter_of_cutCommas read
    refine ⟨trim_trim piece, ?_⟩
    rw [depthAfter_trim]
    rw [pieces] at cut
    rcases List.mem_cons.mp cut with rfl | later
    · exact closed
    · exact others piece later

theorem readInside_of_closed {text : Text} (closed : depthAfter 0 text = some 0) :
    readInside 0 (text ++ ")") = some (text, []) := by
  rw [readInside_append closed]
  simp [readInside, isClosing]

theorem IsArgument.split?_eq {arg : Text} (isArgument : IsArgument arg) (nonempty : arg ≠ []) :
    split? arg = some ([arg], []) := by
  have single : arguments arg = [arg] := by
    rw [arguments, cutCommas_of_closed isArgument.closed, List.map_singleton,
      isArgument.trimmed, if_neg]
    simpa using nonempty
  rw [split?, readInside_of_closed isArgument.closed, Option.map_some]
  dsimp only
  rw [single]

/-- A text is taken whole as one argument, or as none, just when its brackets match and its commas
stand inside them. -/
theorem exists_split?_iff_closed {text : Text} :
    (∃ args, split? text = some (args, []) ∧ args.length ≤ 1) ↔ depthAfter 0 text = some 0 := by
  constructor
  · rintro ⟨args, split, few⟩
    obtain ⟨⟨inside, after⟩, read, same⟩ := Option.map_eq_some_iff.mp split
    obtain ⟨rfl, rfl⟩ : arguments inside = args ∧ after = [] := by simpa using same
    obtain rfl : inside = text := List.append_cancel_right (append_of_readInside read)
    obtain ⟨first, more, pieces, closed, -⟩ := depthAfter_of_cutCommas read
    rw [arguments_eq] at few
    split at few
    · next blank =>
      exact depthAfter_blank (List.all_eq_true.mp blank) 0
    · have alone : more = [] := by
        rw [List.length_map, pieces, List.length_cons] at few
        exact List.length_eq_zero_iff.mp (by omega)
      have whole := intercalate_cutCommas 0 inside
      rw [pieces, alone, List.intercalate_singleton] at whole
      rw [← whole]
      exact closed
  · intro closed
    refine ⟨arguments text, by rw [split?, readInside_of_closed closed]; rfl, ?_⟩
    rw [length_arguments, cutCommas_of_closed closed]
    split <;> simp

theorem length_split? (text : Text) : (split? text).map (·.1.length) = arity (text ++ ")") := by
  rw [split?, Option.map_map]
  rfl

/-- The number of pieces up to the closing parenthesis, whatever they hold. -/
def pieceCount (depth : Nat) (text : Text) : Option Nat :=
  (tally depth text).map Prod.fst

theorem pieceCount_cons (depth : Nat) (c : Char) (rest : Text) :
    pieceCount depth (c :: rest) =
      if isClosing c then
        match depth with
        | 0 => if c = ')' then some 1 else none
        | depth + 1 => pieceCount depth rest
      else if isOpening c then pieceCount (depth + 1) rest
      else if c = ',' ∧ depth = 0 then (pieceCount 0 rest).map (· + 1)
      else pieceCount depth rest := by
  unfold pieceCount
  rw [tally.eq_def]
  dsimp only
  by_cases closing : isClosing c = true
  · rw [if_pos closing, if_pos closing]
    cases depth with
    | zero => by_cases round : c = ')' <;> simp [round]
    | succ depth => exact Option.map_map _ _ _
  · rw [if_neg closing, if_neg closing]
    by_cases opening : isOpening c = true
    · rw [if_pos opening, if_pos opening, Option.map_map]
      rfl
    · rw [if_neg opening, if_neg opening]
      by_cases comma : c = ',' ∧ depth = 0
      · rw [if_pos comma, if_pos comma, Option.map_map, Option.map_map]
        rfl
      · rw [if_neg comma, if_neg comma, Option.map_map]
        rfl

theorem pieceCount_append_congr {x y : Text}
    (same : ∀ depth, pieceCount depth x = pieceCount depth y) (front : Text) (depth : Nat) :
    pieceCount depth (front ++ x) = pieceCount depth (front ++ y) := by
  induction front generalizing depth with
  | nil => exact same depth
  | cons c front ih => simp only [List.cons_append, pieceCount_cons, ih]

theorem pieceCount_append_closed {text : Text}
    (closed : ∀ depth, depthAfter depth text = some depth) (depth : Nat) (rest : Text) :
    pieceCount depth (text ++ rest) = pieceCount depth rest := by
  rw [pieceCount, tally_append (closed depth), Option.map_map]
  rfl

theorem pieces_pos_of_tally {depth pieces : Nat} {text : Text} {blank : Bool}
    (h : tally depth text = some (pieces, blank)) : 0 < pieces := by
  rw [tally_eq] at h
  obtain ⟨⟨inside, after⟩, -, same⟩ := Option.map_eq_some_iff.mp h
  rw [← (Prod.mk.inj same).1]
  exact List.length_pos_iff.mpr (cutCommas_ne_nil depth inside)

/-- Behind a visible text and in front of another, both without brackets or commas of their own left
open, a text counts for its own arguments, and for one where it has none. -/
theorem arity_between {front text back : Text} (lead : depthAfter 0 front = some 0)
    (visible : front.all isBlank = false) (closed : ∀ depth, depthAfter depth back = some depth) :
    arity (front ++ text ++ back ++ ")") = (arity (text ++ ")")).map (max 1) := by
  have counted : arity (front ++ text ++ back ++ ")") = pieceCount 0 (text ++ ")") := by
    have inner :=
      pieceCount_append_congr (fun depth => pieceCount_append_closed closed depth ")") text 0
    rw [arity_eq, List.append_assoc, List.append_assoc, tally_append lead, visible,
      ← inner, pieceCount, Option.map_map]
    rfl
  rw [counted, arity_eq, Option.map_map, pieceCount]
  cases tallied : tally 0 (text ++ ")") with
  | none => rfl
  | some pair =>
    obtain ⟨pieces, blank⟩ := pair
    have positive := pieces_pos_of_tally tallied
    have single := (blank_of_tally tallied).2
    cases blank with
    | true => simp [single rfl]
    | false =>
      simp only [Option.map_some, Function.comp_apply, Bool.false_eq_true, if_false,
        Option.some.injEq]
      omega

end IspcShader.Macro
