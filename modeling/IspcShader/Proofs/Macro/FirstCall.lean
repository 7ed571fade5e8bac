import IspcShader.Proofs.Macro.Nesting
import IspcShader.Proofs.Macro.Tally
import IspcShader.Proofs.Text.Slice

/-!
Which call a search finds, told by places in the text and by counting brackets. The search goes on
behind each occurrence of the name and so skips those that overlap it, but none of these starts a
word; and the brackets decide about the first call alone, whatever stands behind it.
-/
namespace IspcShader.Macro

open Text

/-- With `depth` brackets open in front, `c` is the first place of the text `inside ++ [c]` behind
which none is open. -/
structure Closes (depth : Nat) (inside : Text) (c : Char) : Prop where
  inner : ∀ front rest, inside = front ++ rest → depth + nesting front ≠ 0
  closed : depth + nesting (inside ++ [c]) = 0

theorem turn_of_isClosing {c : Char} (closing : isClosing c = true) : turn c = -1 := by
  rw [turn, isOpening_of_isClosing closing, closing]
  rfl

section Closes

variable {c d : Char} {inside : Text} {depth next : Nat}

theorem closes_nil_iff : Closes depth [] c ↔ depth = 1 ∧ isClosing c = true := by
  have single : nesting ([] ++ [c]) = turn c := by
    rw [List.nil_append, nesting_cons, nesting_nil, Int.add_zero]
  constructor
  · intro closes
    have opened := closes.inner [] [] rfl
    have closed := closes.closed
    rw [nesting_nil] at opened
    rw [single, turn] at closed
    split at closed
    · omega
    · split at closed
      · next closing => exact ⟨by omega, closing⟩
      · omega
  · rintro ⟨rfl, closing⟩
    refine ⟨?_, ?_⟩
    · intro front rest same
      rw [(List.append_eq_nil_iff.mp same.symm).1, nesting_nil]
      omega
    · rw [single, turn_of_isClosing closing]
      rfl

theorem closes_cons_iff (moved : (next : Int) = depth + turn d) (opened : depth ≠ 0) :
    Closes depth (d :: inside) c ↔ Closes next inside c := by
  have shifted (text : Text) : (depth : Int) + nesting (d :: text) = next + nesting text := by
    rw [nesting_cons, moved, Int.add_assoc]
  constructor
  · intro closes
    refine ⟨?_, ?_⟩
    · rintro front rest rfl
      rw [← shifted]
      exact closes.inner (d :: front) rest rfl
    · rw [← shifted]
      exact closes.closed
  · intro closes
    refine ⟨?_, by rw [List.cons_append, shifted, closes.closed]⟩
    intro front rest same
    cases front with
    | nil =>
      rw [nesting_nil]
      omega
    | cons e front =>
      obtain ⟨rfl, tail⟩ := List.cons.inj same
      rw [shifted]
      exact closes.inner front rest tail

theorem not_closes_zero : ¬ Closes 0 inside c := by
  intro closes
  have opened := closes.inner [] inside rfl
  rw [nesting_nil] at opened
  omega

/-- What brings the number of open brackets down to zero is a closing bracket. -/
theorem Closes.isClosing (closes : Closes depth inside c) : isClosing c = true := by
  induction inside generalizing depth with
  | nil => exact (closes_nil_iff.mp closes).2
  | cons d inside ih =>
    have opened : depth ≠ 0 := by
      rintro rfl
      exact not_closes_zero closes
    have least : -1 ≤ turn d := by
      unfold turn
      split
      · omega
      · split <;> omega
    obtain ⟨next, moved⟩ := Int.eq_ofNat_of_zero_le (show 0 ≤ (depth : Int) + turn d by omega)
    exact ih ((closes_cons_iff moved.symm opened).mp closes)

theorem Closes.length_le {other after rest : Text} (closes : Closes depth inside c)
    (again : Closes depth other d) (same : inside ++ c :: after = other ++ d :: rest) :
    inside.length ≤ other.length := by
  rcases List.append_eq_append_iff.mp same with ⟨more, rfl, -⟩ | ⟨more, rfl, follows⟩
  · rw [List.length_append]
    omega
  · cases more with
    | nil => exact Nat.le_of_eq (congrArg List.length (List.append_nil other))
    | cons e more =>
      -- the other place would lie inside, where brackets are open
      obtain ⟨rfl, -⟩ := List.cons.inj follows
      exact absurd again.closed (closes.inner (other ++ [d]) more (by simp))

theorem Closes.unique {other after rest : Text} (closes : Closes depth inside c)
    (again : Closes depth other d) (same : inside ++ c :: after = other ++ d :: rest) :
    inside = other ∧ c = d ∧ after = rest := by
  have length := Nat.le_antisymm (closes.length_le again same) (again.length_le closes same.symm)
  obtain ⟨rfl, tail⟩ := List.append_inj same length
  exact ⟨rfl, List.cons.inj tail⟩

end Closes

theorem closes_parenthesis : Closes 1 [] ')' :=
  closes_nil_iff.mpr ⟨rfl, rfl⟩

theorem map_cons_eq_some_iff {c : Char} {rest inside after : Text} {depth next : Nat}
    {found : Option (Text × Text)} (moved : ((next + 1 : Nat) : Int) = (depth + 1 : Nat) + turn c)
    (later : ∀ inside after, found = some (inside, after) ↔
      rest = inside ++ ')' :: after ∧ Closes (next + 1) inside ')') :
    (found.map fun (inside, after) => (c :: inside, after)) = some (inside, after) ↔
      c :: rest = inside ++ ')' :: after ∧ Closes (depth + 1) inside ')' := by
  cases inside with
  | nil =>
    refine iff_of_false ?_ ?_
    · intro same
      obtain ⟨pair, -, made⟩ := Option.map_eq_some_iff.mp same
      cases made
    · rintro ⟨same, closes⟩
      obtain ⟨rfl, -⟩ := List.cons.inj same
      have last := (closes_nil_iff.mp closes).1
      have down : turn ')' = -1 := rfl
      omega
  | cons d inside =>
    rw [List.cons_append, List.cons.injEq]
    constructor
    · intro same
      obtain ⟨⟨front, back⟩, read, made⟩ := Option.map_eq_some_iff.mp same
      obtain ⟨⟨rfl, rfl⟩, rfl⟩ : (c = d ∧ front = inside) ∧ back = after := by simpa using made
      obtain ⟨tail, closes⟩ := (later front back).mp read
      exact ⟨⟨rfl, tail⟩, (closes_cons_iff moved (Nat.succ_ne_zero depth)).mpr closes⟩
    · rintro ⟨⟨rfl, tail⟩, closes⟩
      rw [(later inside after).mpr ⟨tail,
        (closes_cons_iff moved (Nat.succ_ne_zero depth)).mp closes⟩]
      rfl

/-- Reading stops at the bracket that closes the list, if it is a round one. -/
theorem readInside_eq_some_iff {depth : Nat} {text inside after : Text} :
    readInside depth text = some (inside, after) ↔
      text = inside ++ ')' :: after ∧ Closes (depth + 1) inside ')' := by
  fun_induction readInside depth text generalizing inside after with
  | case1 depth => simp
  | case2 rest closing =>
    constructor
    · rintro ⟨⟩
      exact ⟨rfl, closes_parenthesis⟩
    · rintro ⟨same, closes⟩
      obtain ⟨rfl, -, rfl⟩ := closes_parenthesis.unique closes same
      rfl
  | case3 c rest closing other =>
    refine iff_of_false (Option.some_ne_none _).symm ?_
    rintro ⟨same, closes⟩
    exact other (Closes.unique (closes_nil_iff.mpr ⟨rfl, closing⟩) closes same).2.1
  | case4 c rest closing depth ih =>
    have down := turn_of_isClosing closing
    exact map_cons_eq_some_iff (by omega) fun _ _ => ih
  | case5 depth c rest closing ih =>
    refine map_cons_eq_some_iff ?_ fun _ _ => ih
    cases opening : isOpening c with
    | true => simp [turn, opening]
    | false => simp [turn, opening, closing]

def EndsPiece (pieces : List Text) (before : Text) : Prop :=
  ∃ front back, front ≠ [] ∧ back ≠ [] ∧ pieces = front ++ back ∧
    List.intercalate [','] front = before

/-- The text falls into these pieces when it is cut at the commas where one bracket is open, and at
no other place. In front of the text `depth` brackets are open. -/
structure IsCut (depth : Nat) (text : Text) (pieces : List Text) : Prop where
  ne_nil : pieces ≠ []
  joined : List.intercalate [','] pieces = text
  commas : ∀ before after, text = before ++ ',' :: after →
    (depth + nesting before = 1 ↔ EndsPiece pieces before)

section EndsPiece

variable {pieces : List Text} {before : Text} {c d : Char}

theorem not_endsPiece_nil (first : Text) (nonempty : first ≠ []) :
    ¬ EndsPiece (first :: pieces) [] := by
  rintro ⟨front, back, some, -, split, joined⟩
  obtain ⟨piece, more, rfl⟩ := List.exists_cons_of_ne_nil some
  obtain ⟨rfl, -⟩ := List.cons.inj split
  cases more with
  | nil => exact nonempty (by simpa using joined)
  | cons next more => simp at joined

theorem endsPiece_consFirst_iff (nonempty : pieces ≠ []) :
    EndsPiece (consFirst c pieces) (d :: before) ↔ d = c ∧ EndsPiece pieces before := by
  obtain ⟨piece, pieces, rfl⟩ := List.exists_cons_of_ne_nil nonempty
  constructor
  · rintro ⟨front, back, some, follows, split, joined⟩
    obtain ⟨first, more, rfl⟩ := List.exists_cons_of_ne_nil some
    obtain ⟨rfl, rest⟩ := List.cons.inj split
    have led := intercalate_consFirst [','] c (piece :: more)
    obtain ⟨same, tail⟩ := List.cons.inj (led.symm.trans joined)
    exact ⟨same.symm, piece :: more, back, List.cons_ne_nil _ _, follows, by rw [rest]; rfl, tail⟩
  · rintro ⟨rfl, front, back, some, follows, split, joined⟩
    obtain ⟨first, more, rfl⟩ := List.exists_cons_of_ne_nil some
    obtain ⟨rfl, rest⟩ := List.cons.inj split
    refine ⟨(d :: piece) :: more, back, List.cons_ne_nil _ _, follows, by rw [rest]; rfl, ?_⟩
    exact (intercalate_consFirst [','] d (piece :: more)).trans (congrArg (d :: ·) joined)

theorem endsPiece_nil_cons_iff :
    EndsPiece ([] :: pieces) (d :: before) ↔ d = ',' ∧ EndsPiece pieces before := by
  constructor
  · rintro ⟨front, back, some, follows, split, joined⟩
    obtain ⟨first, more, rfl⟩ := List.exists_cons_of_ne_nil some
    obtain ⟨rfl, rest⟩ := List.cons.inj split
    have several : more ≠ [] := by
      rintro rfl
      cases joined
    rw [List.intercalate_cons_of_ne_nil several] at joined
    obtain ⟨same, tail⟩ := List.cons.inj joined
    exact ⟨same.symm, more, back, several, follows, rest, tail⟩
  · rintro ⟨rfl, front, back, some, follows, rfl, rfl⟩
    refine ⟨[] :: front, back, List.cons_ne_nil _ _, follows, rfl, ?_⟩
    rw [List.intercalate_cons_of_ne_nil some]
    rfl

end EndsPiece

theorem isCut_nil (depth : Nat) : IsCut depth [] [[]] where
  ne_nil := List.cons_ne_nil _ _
  joined := rfl
  commas := by
    intro before after same
    cases (List.append_eq_nil_iff.mp same.symm).2

section IsCut

variable {depth next : Nat} {text : Text} {pieces : List Text} {c : Char}

theorem IsCut.comma (cut : IsCut 1 text pieces) : IsCut 1 (',' :: text) ([] :: pieces) where
  ne_nil := List.cons_ne_nil _ _
  joined := by
    rw [List.intercalate_cons_of_ne_nil cut.ne_nil, cut.joined]
    rfl
  commas := by
    intro before after same
    cases before with
    | nil =>
      refine iff_of_true rfl ⟨[[]], pieces, List.cons_ne_nil _ _, cut.ne_nil, rfl, rfl⟩
    | cons d before =>
      obtain ⟨rfl, tail⟩ := List.cons.inj same
      have flat : nesting (',' :: before) = nesting before := by
        rw [nesting_cons]
        exact Int.zero_add _
      rw [flat, cut.commas before after tail, endsPiece_nil_cons_iff]
      exact (and_iff_right rfl).symm

theorem IsCut.consFirst (cut : IsCut next text pieces) (moved : (next : Int) = depth + turn c)
    (inner : c = ',' → depth ≠ 1) : IsCut depth (c :: text) (consFirst c pieces) where
  ne_nil := by
    obtain ⟨piece, more, rfl⟩ := List.exists_cons_of_ne_nil cut.ne_nil
    exact List.cons_ne_nil _ _
  joined := by rw [intercalate_consFirst, cut.joined]
  commas := by
    intro before after same
    cases before with
    | nil =>
      obtain ⟨piece, more, rfl⟩ := List.exists_cons_of_ne_nil cut.ne_nil
      have deep := inner (List.cons.inj same).1
      refine iff_of_false ?_ (not_endsPiece_nil (c :: piece) (List.cons_ne_nil _ _))
      rw [nesting_nil]
      omega
    | cons d before =>
      obtain ⟨rfl, tail⟩ := List.cons.inj same
      rw [nesting_cons, ← Int.add_assoc, ← moved, cut.commas before after tail,
        endsPiece_consFirst_iff cut.ne_nil]
      exact (and_iff_right rfl).symm

/-- Inside a list that is closed, the scan cuts where it should: its counter is the number of open
brackets, since that does not go below zero there. -/
theorem isCut_cutCommas {last : Char} (closes : Closes (depth + 1) text last) :
    IsCut (depth + 1) text (cutCommas depth text) := by
  fun_induction cutCommas depth text with
  | case1 depth => exact isCut_nil _
  | case2 depth c rest comma ih =>
    obtain ⟨rfl, rfl⟩ := comma
    have flat : ((0 + 1 : Nat) : Int) = (0 + 1 : Nat) + turn ',' := rfl
    exact (ih ((closes_cons_iff flat (Nat.succ_ne_zero 0)).mp closes)).comma
  | case3 depth c rest outer opening ih =>
    have moved : ((depth + 1 + 1 : Nat) : Int) = (depth + 1 : Nat) + turn c := by
      simp [turn, opening]
    refine (ih ((closes_cons_iff moved (Nat.succ_ne_zero depth)).mp closes)).consFirst moved ?_
    intro comma
    exact absurd comma (comma_of_isOpening opening)
  | case4 depth c rest outer opening closing ih =>
    have down := turn_of_isClosing closing
    cases depth with
    | zero =>
      have moved : ((0 : Nat) : Int) = (0 + 1 : Nat) + turn c := by omega
      exact absurd ((closes_cons_iff moved (Nat.succ_ne_zero 0)).mp closes) not_closes_zero
    | succ depth =>
      have moved : ((depth + 1 : Nat) : Int) = (depth + 1 + 1 : Nat) + turn c := by omega
      refine (ih ((closes_cons_iff moved (Nat.succ_ne_zero _)).mp closes)).consFirst moved ?_
      rintro rfl
      cases closing
  | case5 depth c rest outer opening closing ih =>
    have moved : ((depth + 1 : Nat) : Int) = (depth + 1 : Nat) + turn c := by
      simp [turn, opening, closing]
    refine (ih ((closes_cons_iff moved (Nat.succ_ne_zero depth)).mp closes)).consFirst moved ?_
    intro comma one
    exact outer ⟨comma, Nat.succ.inj one⟩

end IsCut

theorem arguments_eq_nil_iff (inside : Text) :
    arguments inside = [] ↔ ∀ c ∈ inside, isBlank c = true := by
  rw [arguments_eq, ← List.all_eq_true]
  split
  · next blank => exact iff_of_true rfl blank
  · next solid =>
    refine iff_of_false ?_ solid
    rw [List.map_eq_nil_iff]
    exact cutCommas_ne_nil 0 inside

theorem exists_isCut_of_arguments {inside : Text} {c : Char} (closes : Closes 1 inside c)
    (some : arguments inside ≠ []) :
    ∃ pieces, IsCut 1 inside pieces ∧ arguments inside = pieces.map trim := by
  refine ⟨cutCommas 0 inside, isCut_cutCommas closes, ?_⟩
  rw [arguments_eq] at some ⊢
  split
  · next blank => exact absurd (if_pos blank) some
  · rfl

namespace Invocation

/-- The name is called `place` bytes into the text: it starts a word there, a parenthesis follows at
once, and `behind` is what follows the parenthesis. -/
def CalledAt (text name : Text) (place : Nat) (behind : Text) : Prop :=
  ∃ before, text = before ++ name ++ '(' :: behind ∧ endsOffWord before = true ∧
    byteLength before = place

structure IsFirstCall (text name : Text) (place : Nat) (behind : Text) : Prop where
  called : CalledAt text name place behind
  first : ∀ other rest, CalledAt text name other rest → place ≤ other

section FirstCall

variable {text name : Text}

theorem exists_of_isCallSite {site : Occurrence} (split : site.before ++ name ++ site.after = text)
    (opens : isCallSite site = true) :
    ∃ behind, CalledAt text name (byteLength site.before) behind := by
  obtain ⟨off, starts⟩ := Bool.and_eq_true_iff.mp opens
  obtain ⟨behind, joined⟩ := List.isPrefixOf_iff_prefix.mp starts
  have opened : site.after = '(' :: behind := joined.symm
  exact ⟨behind, site.before, by rw [← split, opened], off, rfl⟩

theorem find?_eq_none_of_not_called (absent : ∀ place behind, ¬ CalledAt text name place behind) :
    find? text name = none := by
  have silent : (occurrences name text).find? isCallSite = none := by
    rw [List.find?_eq_none]
    intro site member opens
    obtain ⟨behind, called⟩ := exists_of_isCallSite (append_of_mem_occurrences member) opens
    exact absent _ behind called
  rw [find?, silent]
  rfl

theorem find?_eq_of_isFirstCall {place : Nat} {behind : Text} (isWord : IsWord name)
    (first : IsFirstCall text name place behind) :
    ∃ before, text = before ++ name ++ '(' :: behind ∧ byteLength before = place ∧
      find? text name = (readInside 0 behind).map fun (inside, after) =>
        ⟨before, name, inside, after⟩ := by
  obtain ⟨⟨before, split, off, rfl⟩, least⟩ := first
  refine ⟨before, split, rfl, ?_⟩
  have site : (occurrences name text).find? isCallSite = some ⟨before, '(' :: behind⟩ := by
    refine find?_occurrences isWord split off ?_
    intro b a same shorter
    rw [Bool.eq_false_iff]
    intro opens
    obtain ⟨rest, called⟩ := exists_of_isCallSite same.symm opens
    have joined : before ++ (name ++ '(' :: behind) = b ++ (name ++ a) := by
      rw [← List.append_assoc, ← List.append_assoc, ← split]
      exact same
    exact Nat.not_lt.mpr (length_le_of_byteLength_le joined (least _ rest called)) shorter
  rw [find?, site, Option.bind_some, read?_opened]

end FirstCall

theorem covers_span (call : Invocation) :
    call.span.Covers (call.before ++ call.source ++ call.after) call.source :=
  ByteSpan.covers_append call.before call.source call.after

/-- The search for a call of a name, on any text. The call that starts first is taken; where its
brackets are not closed, or closed by a square one, nothing is found. Otherwise the call is found
with its name, the bytes from the name to the closing parenthesis, and as arguments the trimmed
pieces between the commas that stand in no inner bracket, or none where there are only blanks. -/
theorem find?_eq_first_call {name : Text} (isWord : IsWord name) (text : Text) :
    ((∀ place behind, ¬ CalledAt text name place behind) → find? text name = none) ∧
    ∀ place behind, IsFirstCall text name place behind →
      ((∀ inside c after, behind = inside ++ c :: after → ¬ Closes 1 inside c) →
        find? text name = none) ∧
      ∀ inside c after, behind = inside ++ c :: after → Closes 1 inside c →
        (c = ')' ∨ c = ']') ∧ (c = ']' → find? text name = none) ∧
        (c = ')' → ∃ call, find? text name = some call ∧ call.name = name ∧
          call.span = ⟨place, place + byteLength (name ++ "(" ++ inside) + 1⟩ ∧
          call.span.Covers text (name ++ "(" ++ inside ++ ")") ∧
          (call.args = [] ↔ ∀ c ∈ inside, isBlank c = true) ∧
          (call.args ≠ [] → ∃ pieces, IsCut 1 inside pieces ∧ call.args = pieces.map trim)) := by
  refine ⟨find?_eq_none_of_not_called, ?_⟩
  intro place behind first
  obtain ⟨before, split, rfl, found⟩ := find?_eq_of_isFirstCall isWord first
  -- nothing is read unless a round bracket closes the list
  have unread (lacking : ∀ inside after, behind = inside ++ ')' :: after → ¬ Closes 1 inside ')') :
      find? text name = none := by
    cases read : readInside 0 behind with
    | none => rw [found, read, Option.map_none]
    | some pair =>
      obtain ⟨same, closes⟩ := readInside_eq_some_iff.mp read
      exact absurd closes (lacking pair.1 pair.2 same)
  refine ⟨fun unclosed => unread fun inside after => unclosed inside ')' after, ?_⟩
  rintro inside c after rfl closes
  refine ⟨by simpa [isClosing] using closes.isClosing, ?_, ?_⟩
  · rintro rfl
    refine unread fun other rest same again => ?_
    exact absurd (closes.unique again same).2.1 (by decide)
  · rintro rfl
    have taken : find? text name = some ⟨before, name, inside, after⟩ := by
      rw [found, readInside_eq_some_iff.mpr ⟨rfl, closes⟩]
      rfl
    refine ⟨_, taken, rfl, ?_, ?_, arguments_eq_nil_iff inside, exists_isCut_of_arguments closes⟩
    · rw [span, source, byteLength_append _ (")" : Text), ← Nat.add_assoc]
      rfl
    · have whole := covers_span ⟨before, name, inside, after⟩
      rwa [append_of_find? taken] at whole

/-- A call behind a character of two bytes, with a comma in square brackets; the call behind it is
never closed. -/
theorem find?_eq_first_call_nested :
    let text : Text := "ß RES(é[,], b) RES(c"
    IsWord "RES" ∧ IsFirstCall text "RES" 3 "é[,], b) RES(c" ∧ Closes 1 "é[,], b" ')' ∧
      ∃ call, find? text "RES" = some call ∧ call.name = "RES" ∧ call.span = ⟨3, 16⟩ ∧
        call.span.Covers text "RES(é[,], b)" ∧
        ∃ pieces, IsCut 1 "é[,], b" pieces ∧ call.args = pieces.map trim := by
  intro text
  have spelled : text = 'ß' :: ' ' :: 'R' :: ("ES(é[,], b) RES(c" : Text) := by decide +kernel
  have isWord : IsWord "RES" := by decide
  have first : IsFirstCall text "RES" 3 "é[,], b) RES(c" := by
    refine ⟨⟨"ß ", by decide +kernel, by decide +kernel, by decide +kernel⟩, ?_⟩
    rintro other rest ⟨before, split, -, rfl⟩
    rw [spelled] at split
    match before with
    | [] => cases (List.cons.inj split).1
    | [c] => cases (List.cons.inj (List.cons.inj split).2).1
    | c :: d :: more =>
      obtain ⟨rfl, tail⟩ := List.cons.inj split
      obtain ⟨rfl, -⟩ := List.cons.inj tail
      have wide : 'ß'.utf8Size = 2 ∧ ' '.utf8Size = 1 := by decide
      rw [byteLength_cons, byteLength_cons]
      omega
  have read : readInside 0 "é[,], b) RES(c" =
      some (("é[,], b" : Text), (" RES(c" : Text)) := by
    decide +kernel
  obtain ⟨split, closes⟩ := readInside_eq_some_iff.mp read
  obtain ⟨-, found⟩ := (find?_eq_first_call isWord text).2 3 _ first
  obtain ⟨-, -, round⟩ := found _ _ _ split closes
  obtain ⟨call, taken, named, span, covers, blank, cut⟩ := round rfl
  have some : call.args ≠ [] := by
    intro none
    exact absurd (blank.mp none 'é' (by decide +kernel)) (by decide +kernel)
  have stop : (⟨3, 3 + byteLength ("RES" ++ "(" ++ "é[,], b") + 1⟩ : ByteSpan) = ⟨3, 16⟩ := by
    decide +kernel
  have source : ("RES" ++ "(" ++ "é[,], b" ++ ")" : Text) = "RES(é[,], b)" := by decide +kernel
  rw [source] at covers
  exact ⟨isWord, first, closes, call, taken, named, span.trans stop, covers, cut some⟩

end Invocation

end IspcShader.Macro
