import Mathlib.Data.List.Basic
import IspcShader.EntryPoint.Basic
import IspcShader.Proofs.Macro.Call

/-!
Dispatch coordinates on an entry line. The parameters are looked up one after the other in a text
that the earlier ones have changed; each is found where it was declared, since in front of it every
parenthesis belongs to a coordinate of another name, and what has been rewritten holds none any
more.
-/
namespace IspcShader

open Text

/-- A dispatch coordinate as an entry line declares it, `SV_DispatchThreadID(uint3) id`. -/
structure CoordinateParam where
  builtin : Text
  type : Text
  var : Text
  deriving DecidableEq, Repr

namespace CoordinateParam

def declaredType (param : CoordinateParam) : Text :=
  param.builtin ++ "(" ++ param.type ++ ")"

def written (param : CoordinateParam) : Text :=
  param.declaredType ++ " " ++ param.var

def lowered (param : CoordinateParam) : Text :=
  param.type ++ " " ++ param.var

def listed (param : CoordinateParam) : Parameter :=
  ⟨param.declaredType, param.var⟩

def arg (param : CoordinateParam) : CoordinateArg :=
  ⟨param.type, param.var⟩

structure IsProper (param : CoordinateParam) : Prop where
  builtin : sameIgnoringCase param.builtin "SV_DispatchThreadID" = true
  type : IsWord param.type
  var : IsWord param.var

instance (param : CoordinateParam) : Decidable param.IsProper :=
  decidable_of_iff (sameIgnoringCase param.builtin "SV_DispatchThreadID" = true ∧
      IsWord param.type ∧ IsWord param.var)
    ⟨fun h => ⟨h.1, h.2.1, h.2.2⟩, fun h => ⟨h.builtin, h.type, h.var⟩⟩

end CoordinateParam

theorem isWordChar_of_toLower {c : Char} (h : isWordChar c.toLower = true) :
    isWordChar c = true := by
  unfold Char.toLower at h
  split at h
  · next upper =>
    have isUpper : c.isUpper = true := by
      unfold Char.isUpper
      simpa using upper
    apply isWordChar_of_isAlphanum
    unfold Char.isAlphanum Char.isAlpha
    simp [isUpper]
  · exact h

theorem isWord_of_sameIgnoringCase {a b : Text} (same : sameIgnoringCase a b = true)
    (isWord : IsWord (b.map Char.toLower)) : IsWord a := by
  simp only [sameIgnoringCase, decide_eq_true_eq] at same
  rw [← same] at isWord
  refine ⟨by simpa using isWord.ne_nil, ?_⟩
  intro c member
  exact isWordChar_of_toLower (isWord.chars c.toLower (List.mem_map_of_mem member))

namespace CoordinateParam

variable {param : CoordinateParam}

theorem IsProper.isWord_builtin (proper : param.IsProper) : IsWord param.builtin :=
  isWord_of_sameIgnoringCase proper.builtin (by decide)

theorem trim_declaredType (builtin : IsWord param.builtin) :
    trim param.declaredType = param.declaredType := by
  obtain ⟨c, rest, shape⟩ := List.exists_cons_of_ne_nil builtin.ne_nil
  apply trim_eq_self
  · intro d first
    have same : c = d := by simpa [declaredType, shape] using first
    rw [← same]
    exact isBlank_of_isWordChar (builtin.chars c (by simp [shape]))
  · intro d last
    have shape : param.declaredType = (param.builtin ++ "(" ++ param.type) ++ [')'] := rfl
    rw [shape, List.getLast?_concat] at last
    cases last
    decide

theorem cut_declaredType (builtin : IsWord param.builtin) :
    param.declaredType.takeWhile (· != '(') = param.builtin ∧
      param.declaredType.dropWhile (· != '(') = '(' :: (param.type ++ [')']) := by
  have pass : ∀ c ∈ param.builtin, (c != '(') = true := by
    intro c member
    have different : c ≠ '(' := by
      rintro rfl
      exact builtin.not_mem (by decide) member
    simpa using different
  have shape : param.declaredType = param.builtin ++ '(' :: (param.type ++ [')']) := by
    simp [declaredType]
  rw [shape, List.takeWhile_append_of_pos pass, List.dropWhile_append_of_pos pass]
  simp

theorem unwrap_of_chars (builtin : IsWord param.builtin)
    (chars : ∀ c ∈ param.type, isWordChar c = true) :
    Macro.unwrap param.declaredType = param.type := by
  rw [Macro.unwrap, trim_declaredType builtin]
  simp [(cut_declaredType builtin).2, trim_of_chars chars]

theorem unwrap_declaredType (builtin : IsWord param.builtin) (type : IsWord param.type) :
    Macro.unwrap param.declaredType = param.type :=
  unwrap_of_chars builtin type.chars

theorem isDispatchCoordinate_listed
    (same : sameIgnoringCase param.builtin "SV_DispatchThreadID" = true) :
    param.listed.isDispatchCoordinate = true := by
  have builtin : IsWord param.builtin := isWord_of_sameIgnoringCase same (by decide)
  rw [Parameter.isDispatchCoordinate, Macro.outerName, listed, trim_declaredType builtin,
    (cut_declaredType builtin).1, builtin.trimEnd]
  exact same

structure IsGap (gap : Text) : Prop where
  ne_nil : gap ≠ []
  blank : ∀ c ∈ gap, isBlank c = true

theorem isGap_blank : IsGap " " :=
  ⟨by decide, List.all_eq_true.mp (by decide)⟩

/-- The variable is read off behind blanks if it is the word that stands there. -/
theorem restAfterVar?_eq {var gap word rest : Text} (isVar : IsWord var) (isGap : IsGap gap)
    (isWord : IsWord word) (off : startsOffWord rest = true) :
    Parameter.restAfterVar? var (gap ++ word ++ rest) = if word = var then some rest else none := by
  obtain ⟨c, tail, shape⟩ := List.exists_cons_of_ne_nil isWord.ne_nil
  have solid : isBlank c = false := isBlank_of_isWordChar (isWord.chars c (by simp [shape]))
  have led : leadingBlanks (gap ++ word ++ rest) = gap := by
    rw [leadingBlanks, List.append_assoc, List.takeWhile_append_of_pos isGap.blank]
    simp [shape, solid]
  have trimmed : trimStart (gap ++ word ++ rest) = word ++ rest := by
    rw [trimStart, List.append_assoc, List.dropWhile_append_of_pos isGap.blank]
    simp [shape, solid]
  rw [Parameter.restAfterVar?, led, trimmed, if_neg (by simpa using isGap.ne_nil)]
  by_cases same : word = var
  · have stripped : strip? var (var ++ rest) = some rest :=
      List.isPrefixOf?_eq_some_iff_append_eq.mpr rfl
    rw [same, stripped]
    simp [off]
  · rw [if_neg same]
    cases stripped : strip? var (word ++ rest) with
    | none => rfl
    | some behind =>
      -- the variable would be a part of the word, so a character of the word is left behind it
      have joined := List.isPrefixOf?_eq_some_iff_append_eq.mp stripped
      have inside : startsOffWord behind ≠ true := fun ends =>
        same (word_append_inj isVar.chars isWord.chars ends off joined).1.symm
      simp [inside]

/-- A coordinate named `var` behind its opening parenthesis, with something that ends the name. -/
def Declares (var text : Text) : Prop :=
  ∃ type gap tail, text = type ++ ')' :: (gap ++ var ++ tail) ∧ IsWord type ∧ IsGap gap ∧
    tail ≠ [] ∧ startsOffWord tail = true

/-- Each parenthesis of the text belongs to a coordinate of another name. -/
def Passes (var text : Text) : Prop :=
  ∀ x y, text = x ++ '(' :: y → ∃ other, IsWord other ∧ other ≠ var ∧ Declares other y

theorem Passes.of_not_mem {var text : Text} (absent : '(' ∉ text) : Passes var text := by
  rintro x y rfl
  exact absurd (by simp) absent

theorem Passes.of_declares {var other a b : Text} (before : '(' ∉ a) (behind : '(' ∉ b)
    (isWord : IsWord other) (different : other ≠ var) (declares : Declares other b) :
    Passes var (a ++ '(' :: b) := by
  intro x y same
  obtain ⟨rfl, -, rfl⟩ := (List.append_cons_inj_of_notMem before behind).mp same
  exact ⟨other, isWord, different, declares⟩

theorem Declares.append {var text : Text} (h : Declares var text) (more : Text) :
    Declares var (text ++ more) := by
  obtain ⟨type, gap, tail, rfl, isWord, isGap, nonempty, off⟩ := h
  refine ⟨type, gap, tail ++ more, by simp, isWord, isGap, by simp [nonempty], ?_⟩
  rwa [startsOffWord_append nonempty]

theorem Passes.append {var a b : Text} (ha : Passes var a) (hb : Passes var b) :
    Passes var (a ++ b) := by
  intro x y same
  rcases List.append_eq_append_iff.mp same with ⟨middle, rfl, rest⟩ | ⟨middle, rfl, rest⟩
  · exact hb middle y rest
  · cases middle with
    | nil => exact hb [] y rest.symm
    | cons c middle =>
      obtain ⟨rfl, rfl⟩ := List.cons.inj rest
      obtain ⟨other, isWord, different, declares⟩ := ha x middle rfl
      exact ⟨other, isWord, different, declares.append b⟩

/-- The type of a coordinate is met in front of its own place only where another one is declared. -/
theorem IsProper.exists_declares (proper : param.IsProper) {front rest x y : Text}
    (passes : Passes param.var front)
    (same : front ++ param.declaredType ++ rest = x ++ param.declaredType ++ y)
    (earlier : x.length < front.length) :
    x.length + param.declaredType.length ≤ front.length ∧
      ∃ other gap tail, y = gap ++ other ++ tail ∧ IsWord other ∧ other ≠ param.var ∧ IsGap gap ∧
        startsOffWord tail = true := by
  have off : '(' ∉ param.builtin := proper.isWord_builtin.not_mem (by decide)
  have regroup : front ++ (param.builtin ++ '(' :: (param.type ++ ')' :: rest)) =
      (x ++ param.builtin) ++ '(' :: (param.type ++ ')' :: y) := by
    simpa [declaredType] using same
  obtain ⟨more, shape⟩ : ∃ more, front = x ++ param.builtin ++ '(' :: more := by
    rcases List.append_eq_append_iff.mp regroup with
      ⟨middle, inside, opens⟩ | ⟨middle, shape, opens⟩
    · -- the parenthesis would stand in the builtin's name
      have regrouped : middle ++ [] ++ '(' :: (param.type ++ ')' :: y) =
          param.builtin ++ [] ++ '(' :: (param.type ++ ')' :: rest) := by
        simpa using opens.symm
      have later := length_le_of_new_char (by simpa using off) regrouped
      have lengths := congrArg List.length inside
      simp only [List.length_append] at lengths
      omega
    · cases middle with
      | nil =>
        rw [List.nil_append] at opens
        obtain ⟨c, name, spelled⟩ := List.exists_cons_of_ne_nil proper.isWord_builtin.ne_nil
        rw [spelled] at opens off
        obtain ⟨rfl, -⟩ := List.cons.inj opens
        exact absurd List.mem_cons_self off
      | cons c middle =>
        obtain ⟨rfl, -⟩ := List.cons.inj opens
        exact ⟨middle, shape⟩
  obtain ⟨other, isWord, different, type, gap, tail, rfl, isType, isGap, nonempty, ends⟩ :=
    passes _ more shape
  have behind : param.type ++ ')' :: y =
      type ++ ')' :: (gap ++ other ++ tail ++ param.declaredType ++ rest) := by
    rw [shape] at same
    have cancelled : x ++ param.builtin ++ ['('] ++ (type ++ ')' :: (gap ++ other ++ tail ++
        param.declaredType ++ rest)) = x ++ param.builtin ++ ['('] ++ (param.type ++ ')' :: y) := by
      simpa [declaredType] using same
    exact (List.append_cancel_left cancelled).symm
  obtain ⟨rfl, closed⟩ := word_append_inj proper.type.chars isType.chars rfl rfl behind
  refine ⟨?_, other, gap, tail ++ param.declaredType ++ rest, ?_, isWord, different, isGap, ?_⟩
  · rw [shape]
    simp only [declaredType, List.length_append, List.length_cons]
    simp
    omega
  · simpa using (List.cons.inj closed).2
  · rwa [List.append_assoc, startsOffWord_append nonempty]

/-- A coordinate is located at its own place when only others are declared in front of it. -/
theorem IsProper.locate?_listed (proper : param.IsProper) {front gap rest : Text}
    (passes : Passes param.var front) (isGap : IsGap gap) (off : startsOffWord rest = true) :
    param.listed.locate? (front ++ (param.declaredType ++ gap ++ param.var) ++ rest) =
      some (front, rest) := by
  have ahead : front ++ (param.declaredType ++ gap ++ param.var) ++ rest =
      front ++ param.declaredType ++ (gap ++ param.var ++ rest) := by
    simp
  rw [ahead]
  refine Cursor.findSome?_occurrences (by simp [listed, declaredType]) rfl ?_ ?_
  · have read := restAfterVar?_eq proper.var isGap proper.var off
    rw [if_pos rfl] at read
    dsimp only [listed]
    rw [read]
    rfl
  · intro x y same earlier
    obtain ⟨apart, other, blanks, tail, rfl, isWord, different, isGap, ends⟩ :=
      proper.exists_declares passes same earlier
    have unread := restAfterVar?_eq proper.var isGap isWord ends
    rw [if_neg different] at unread
    refine ⟨?_, apart⟩
    dsimp only [listed]
    rw [unread]
    rfl

theorem IsProper.not_mem_lowered (proper : param.IsProper) : '(' ∉ param.lowered := by
  simp only [lowered, List.mem_append, not_or]
  exact ⟨⟨proper.type.not_mem (by decide), by decide⟩, proper.var.not_mem (by decide)⟩

end CoordinateParam

namespace BuiltinScan

open CoordinateParam

variable {scan : BuiltinScan} (entryLine : Text) (number : Nat)

theorem visit_listed {param : CoordinateParam} (proper : param.IsProper) {front gap rest : Text}
    (passes : Passes param.var front) (isGap : IsGap gap) (off : startsOffWord rest = true)
    (shape : scan.params = front ++ (param.declaredType ++ gap ++ param.var) ++ rest) :
    (visit entryLine number scan param.listed).params = front ++ param.lowered ++ rest ∧
      (visit entryLine number scan param.listed).args = scan.args ++ [param.arg] := by
  have type : Macro.unwrap param.listed.type = param.type :=
    unwrap_declaredType proper.isWord_builtin proper.type
  rw [visit, shape, proper.locate?_listed passes isGap off]
  simp only [record, isDispatchCoordinate_listed proper.builtin, if_true, type]
  exact ⟨by simp [lowered, listed], rfl⟩

/-- All coordinates are lowered. In front of the one looked at stand lowered ones only, so the next
parenthesis is its own. -/
theorem foldl_visit_listed {params : List CoordinateParam}
    (proper : ∀ param ∈ params, param.IsProper) {front post : Text} (new : '(' ∉ front)
    (shape : scan.params = front ++ List.intercalate ", " (params.map written) ++ ')' :: post) :
    ((params.map listed).foldl (visit entryLine number) scan).params =
        front ++ List.intercalate ", " (params.map lowered) ++ ')' :: post ∧
      ((params.map listed).foldl (visit entryLine number) scan).args =
        scan.args ++ params.map arg := by
  induction params generalizing front scan with
  | nil => simpa using shape
  | cons param more ih =>
    have first := proper param List.mem_cons_self
    cases more with
    | nil =>
      have whole : scan.params = front ++ param.written ++ ')' :: post := by simpa using shape
      simpa using visit_listed entryLine number first (.of_not_mem new) isGap_blank rfl whole
    | cons next more =>
      have whole : scan.params = front ++ param.written ++
          ',' :: ' ' :: (List.intercalate ", " ((next :: more).map written) ++ ')' :: post) := by
        simpa using shape
      obtain ⟨lowered_here, args_here⟩ :=
        visit_listed entryLine number first (.of_not_mem new) isGap_blank rfl whole
      -- the lowered parameter has lost its parentheses and may stand in front of the next one
      have unseen : '(' ∉ front ++ param.lowered ++ ", " := by
        simp only [List.mem_append, not_or]
        exact ⟨⟨new, first.not_mem_lowered⟩, by decide⟩
      obtain ⟨lowered_there, args_there⟩ :=
        ih (fun p member => proper p (List.mem_cons_of_mem _ member))
        unseen (by simpa using lowered_here)
      refine ⟨?_, ?_⟩
      · simpa using lowered_there
      · simpa [args_here] using args_there

theorem run_listed {params : List CoordinateParam} (proper : ∀ param ∈ params, param.IsProper)
    (post : Text) :
    let text := List.intercalate ", " (params.map written) ++ ')' :: post
    (run entryLine number (params.map listed) text).params =
        List.intercalate ", " (params.map lowered) ++ ')' :: post ∧
      (run entryLine number (params.map listed) text).args = params.map arg := by
  exact foldl_visit_listed entryLine number proper List.not_mem_nil rfl

end BuiltinScan

end IspcShader
