import IspcShader.Text.Word

/-!
Whole words. A word with no word character on either side of it is read off a text as it stands, and
trimming leaves it alone.
-/
namespace IspcShader.Text

structure IsWord (word : Text) : Prop where
  ne_nil : word ≠ []
  chars : ∀ c ∈ word, isWordChar c = true

instance (word : Text) : Decidable (IsWord word) :=
  decidable_of_iff (word ≠ [] ∧ word.all isWordChar = true)
    ⟨fun h => ⟨h.1, List.all_eq_true.mp h.2⟩, fun h => ⟨h.ne_nil, List.all_eq_true.mpr h.chars⟩⟩

theorem IsWord.append {a b : Text} (ha : IsWord a) (hb : ∀ c ∈ b, isWordChar c = true) :
    IsWord (a ++ b) := by
  refine ⟨by simp [ha.ne_nil], ?_⟩
  intro c member
  rcases List.mem_append.mp member with left | right
  · exact ha.chars c left
  · exact hb c right

theorem IsWord.not_mem {word : Text} (h : IsWord word) {c : Char} (off : isWordChar c = false) :
    c ∉ word := by
  intro member
  have on := h.chars c member
  rw [off] at on
  cases on

section Run

variable {p : Char → Bool} {run rest : Text} (all : ∀ c ∈ run, p c = true)
  (stop : ∀ c ∈ rest.head?, p c = false)

include all stop

theorem takeWhile_run : (run ++ rest).takeWhile p = run := by
  rw [List.takeWhile_append_of_pos all]
  cases rest with
  | nil => simp
  | cons c rest => simp [stop c rfl]

theorem dropWhile_run : (run ++ rest).dropWhile p = rest := by
  rw [List.dropWhile_append_of_pos all]
  cases rest with
  | nil => rfl
  | cons c rest => simp [stop c rfl]

end Run

theorem isWordChar_head_of_startsOffWord {rest : Text} (off : startsOffWord rest = true) :
    ∀ c ∈ rest.head?, isWordChar c = false := by
  intro c first
  obtain ⟨tail, rfl⟩ := List.head?_eq_some_iff.mp first
  simpa [startsOffWord] using off

theorem takeWhile_word {word rest : Text} (chars : ∀ c ∈ word, isWordChar c = true)
    (off : startsOffWord rest = true) : (word ++ rest).takeWhile isWordChar = word :=
  takeWhile_run chars (isWordChar_head_of_startsOffWord off)

theorem dropWhile_word {word rest : Text} (chars : ∀ c ∈ word, isWordChar c = true)
    (off : startsOffWord rest = true) : (word ++ rest).dropWhile isWordChar = rest :=
  dropWhile_run chars (isWordChar_head_of_startsOffWord off)

/-- Two texts that start with a whole word and are the same start with the same one. -/
theorem word_append_inj {a b x y : Text} (ha : ∀ c ∈ a, isWordChar c = true)
    (hb : ∀ c ∈ b, isWordChar c = true) (hx : startsOffWord x = true) (hy : startsOffWord y = true)
    (same : a ++ x = b ++ y) : a = b ∧ x = y := by
  have words : a = b := by rw [← takeWhile_word ha hx, same, takeWhile_word hb hy]
  subst words
  exact ⟨rfl, List.append_cancel_left same⟩

theorem startsOffWord_cons (c : Char) (rest : Text) :
    startsOffWord (c :: rest) = !isWordChar c := rfl

theorem startsOffWord_append {text : Text} (nonempty : text ≠ []) (rest : Text) :
    startsOffWord (text ++ rest) = startsOffWord text := by
  obtain ⟨c, tail, rfl⟩ := List.exists_cons_of_ne_nil nonempty
  rfl

theorem not_mem_of_blank {blanks : Text} (blank : ∀ c ∈ blanks, isBlank c = true) {c : Char}
    (solid : isBlank c = false) : c ∉ blanks := by
  intro member
  rw [blank c member] at solid
  cases solid

theorem startsOffWord_blank_append {blanks rest : Text} (blank : ∀ c ∈ blanks, isBlank c = true)
    (off : startsOffWord rest = true) : startsOffWord (blanks ++ rest) = true := by
  cases blanks with
  | nil => exact off
  | cons c blanks =>
    rw [List.cons_append, startsOffWord_cons, isWordChar_of_isBlank (blank c List.mem_cons_self)]
    rfl

theorem endsOffWord_append_cons (before : Text) (c : Char) :
    endsOffWord (before ++ [c]) = !isWordChar c := by
  simp [endsOffWord]

theorem endsOffWord_append {text : Text} (nonempty : text ≠ []) (before : Text) :
    endsOffWord (before ++ text) = endsOffWord text := by
  obtain ⟨most, c, rfl⟩ := (List.eq_nil_or_concat text).resolve_left nonempty
  rw [List.concat_eq_append, ← List.append_assoc, endsOffWord_append_cons, endsOffWord_append_cons]

/-- The last word of a text is cut off whole where a word may start in front of it. -/
theorem splitLastWord_word {before word : Text} (off : endsOffWord before = true)
    (chars : ∀ c ∈ word, isWordChar c = true) :
    splitLastWord (before ++ word) = (before, word) := by
  have turned : ∀ c ∈ word.reverse, isWordChar c = true := fun c member =>
    chars c (List.mem_reverse.mp member)
  have front : startsOffWord before.reverse = true := by
    rcases List.eq_nil_or_concat before with rfl | ⟨most, c, rfl⟩
    · rfl
    · simpa [endsOffWord_append_cons, startsOffWord_cons] using off
  simp only [splitLastWord, List.reverse_append, takeWhile_word turned front,
    dropWhile_word turned front, List.reverse_reverse]

theorem endsOffWord_splitLastWord (text : Text) : endsOffWord (splitLastWord text).1 = true := by
  have stop := List.head?_dropWhile_not isWordChar text.reverse
  rw [endsOffWord, splitLastWord, List.getLast?_reverse]
  cases first : (text.reverse.dropWhile isWordChar).head? with
  | none => rfl
  | some c =>
    rw [first] at stop
    simpa using stop

theorem isWordChar_of_mem_splitLastWord {text : Text} {c : Char} (h : c ∈ (splitLastWord text).2) :
    isWordChar c = true := by
  rw [splitLastWord, List.mem_reverse] at h
  exact List.all_eq_true.mp List.all_takeWhile c h

theorem trimEnd_eq_self {text : Text} (last : ∀ c, text.getLast? = some c → isBlank c = false) :
    trimEnd text = text := by
  rcases List.eq_nil_or_concat text with rfl | ⟨most, c, rfl⟩
  · rfl
  · simp [trimEnd, last c (by simp)]

theorem trim_eq_self {text : Text} (first : ∀ c, text.head? = some c → isBlank c = false)
    (last : ∀ c, text.getLast? = some c → isBlank c = false) : trim text = text := by
  have start : trimStart text = text := by
    cases text with
    | nil => rfl
    | cons c rest => simp [trimStart, first c rfl]
  rw [trim, start, trimEnd_eq_self last]

theorem isBlank_of_isWordChar {c : Char} (h : isWordChar c = true) : isBlank c = false := by
  cases blank : isBlank c with
  | false => rfl
  | true => rw [isWordChar_of_isBlank blank] at h; cases h

theorem IsWord.isBlank_getLast {word : Text} (h : IsWord word) (c : Char)
    (found : word.getLast? = some c) : isBlank c = false :=
  isBlank_of_isWordChar (h.chars c (List.mem_of_getLast? found))

theorem IsWord.trimEnd {word : Text} (h : IsWord word) : trimEnd word = word :=
  trimEnd_eq_self h.isBlank_getLast

theorem trim_of_chars {text : Text} (chars : ∀ c ∈ text, isWordChar c = true) : trim text = text :=
  trim_eq_self (fun c first => isBlank_of_isWordChar (chars c (List.mem_of_head? first)))
    fun c last => isBlank_of_isWordChar (chars c (List.mem_of_getLast? last))

theorem IsWord.trim {word : Text} (h : IsWord word) : trim word = word :=
  trim_of_chars h.chars

theorem IsWord.trim_append {before word : Text} (h : IsWord word)
    (first : ∀ c, before.head? = some c → isBlank c = false) :
    Text.trim (before ++ word) = before ++ word := by
  cases before with
  | nil => exact h.trim
  | cons b before =>
    apply trim_eq_self
    · exact first
    · intro c found
      have inside : word.getLast? = some c := by
        rwa [List.getLast?_append, List.getLast?_eq_some_getLast h.ne_nil, Option.some_or,
          ← List.getLast?_eq_some_getLast h.ne_nil] at found
      exact h.isBlank_getLast c inside

theorem trim_blank_cons {c : Char} (blank : isBlank c = true) (text : Text) :
    trim (c :: text) = trim text := by
  simp [trim, trimStart, blank]

theorem toUpper_eq_self_or (c : Char) :
    c.toUpper = c ∨ ∃ n ∈ List.range' 97 26, c = Char.ofNat n := by
  by_cases lower : 97 ≤ c.toNat ∧ c.toNat ≤ 122
  · exact .inr ⟨c.toNat, List.mem_range'_1.mpr (by omega), (Char.ofNat_toNat c).symm⟩
  · exact .inl (dif_neg lower)

end IspcShader.Text
