import Mathlib.Data.List.Basic
import IspcShader.Proofs.Text.Word
import IspcShader.Text.Search

/-!
What a search finds: the leftmost occurrence, and from there on the next one each time.
-/
namespace IspcShader.Text

theorem append_of_cut? {needle text before after : Text}
    (h : cut? needle text = some (before, after)) :
    before ++ needle ++ after = text := by
  induction text generalizing before after with
  | nil =>
    simp only [cut?] at h
    split at h <;> simp_all
  | cons c rest ih =>
    simp only [cut?] at h
    split at h
    · next tail found =>
      obtain ⟨rfl, rfl⟩ : [] = before ∧ tail = after := by simpa using h
      simpa using found
    · obtain ⟨⟨front, back⟩, found, same⟩ := Option.map_eq_some_iff.mp h
      obtain ⟨rfl, rfl⟩ : c :: front = before ∧ back = after := by simpa using same
      simpa using congrArg (c :: ·) (ih found)

theorem Cursor.append_of_next? {place : Cursor} {needle : Text} {found : Occurrence}
    (h : place.next? needle = some found) :
    found.before ++ needle ++ found.after = place.passed ++ place.ahead := by
  obtain ⟨⟨before, after⟩, cut, rfl⟩ := Option.map_eq_some_iff.mp h
  rw [← append_of_cut? cut]
  simp

theorem Cursor.append_of_mem_occurrences {place : Cursor} {needle : Text} {found : Occurrence}
    (h : found ∈ place.occurrences needle) :
    found.before ++ needle ++ found.after = place.passed ++ place.ahead := by
  fun_induction Cursor.occurrences place needle with
  | case1 => cases h
  | case2 place first next ih =>
    rcases List.mem_cons.mp h with rfl | later
    · exact append_of_next? next
    · split at later
      · next shorter => exact (ih shorter later).trans (append_of_next? next)
      · cases later

theorem append_of_mem_occurrences {needle text : Text} {found : Occurrence}
    (h : found ∈ occurrences needle text) : found.before ++ needle ++ found.after = text :=
  Cursor.append_of_mem_occurrences h

/-- An occurrence anywhere makes the search succeed, no later than there. -/
theorem exists_cut? (needle b a : Text) :
    ∃ before after, cut? needle (b ++ needle ++ a) = some (before, after) ∧
      before.length ≤ b.length := by
  induction b with
  | nil =>
    refine ⟨[], a, ?_, Nat.le_refl 0⟩
    cases shape : needle ++ a with
    | nil =>
      obtain ⟨rfl, rfl⟩ := List.append_eq_nil_iff.mp shape
      rfl
    | cons c rest =>
      have found : strip? needle (c :: rest) = some a := by simp [← shape]
      simp [shape, cut?, found]
  | cons c b ih =>
    obtain ⟨before, after, found, le⟩ := ih
    rw [List.cons_append, List.cons_append, cut?]
    split
    · next rest _ => exact ⟨[], rest, rfl, Nat.zero_le _⟩
    · exact ⟨c :: before, after, by rw [found]; rfl, Nat.succ_le_succ le⟩

theorem cut?_eq_of_leftmost {needle before after : Text}
    (leftmost : ∀ b a, b ++ needle ++ a = before ++ needle ++ after → before.length ≤ b.length) :
    cut? needle (before ++ needle ++ after) = some (before, after) := by
  obtain ⟨b, a, found, le⟩ := exists_cut? needle before after
  have same := append_of_cut? found
  have length := Nat.le_antisymm le (leftmost b a same)
  rw [List.append_assoc, List.append_assoc] at same
  obtain ⟨rfl, rest⟩ := List.append_inj same length
  rw [found, List.append_cancel_left rest]

/-- No occurrence of the needle starts in front of the one between these texts. -/
def IsLeftmost (needle before after : Text) : Prop :=
  ∀ b a, b ++ needle ++ a = before ++ needle ++ after → before.length ≤ b.length

theorem cut?_eq_some_iff {needle text before after : Text} :
    cut? needle text = some (before, after) ↔
      text = before ++ needle ++ after ∧ IsLeftmost needle before after := by
  constructor
  · intro cut
    have split := append_of_cut? cut
    refine ⟨split.symm, ?_⟩
    intro b a same
    obtain ⟨x, y, found, le⟩ := exists_cut? needle b a
    rw [same, split, cut] at found
    cases found
    exact le
  · rintro ⟨rfl, leftmost⟩
    exact cut?_eq_of_leftmost leftmost

/-- No occurrence starts in front of the first one that ends in a character met there for the first
time. -/
theorem length_le_of_new_char {lead b before tail rest : Text} {c : Char} (new : c ∉ before ++ lead)
    (same : b ++ lead ++ c :: tail = before ++ lead ++ c :: rest) : before.length ≤ b.length := by
  rcases List.append_eq_append_iff.mp same with ⟨more, longer, follows⟩ | ⟨more, longer, -⟩
  · have lengths := congrArg List.length longer
    cases more with
    | nil =>
      simp only [List.length_append, List.length_nil] at lengths
      omega
    | cons d more =>
      obtain ⟨rfl, -⟩ := List.cons.inj follows
      exact absurd (by rw [longer]; simp) new
  · have lengths := congrArg List.length longer
    simp only [List.length_append] at lengths
    omega

/-- Of two occurrences of a needle, the later one stands behind the earlier one, or starts inside
it. -/
theorem between_or_inside {needle x y b a : Text} (split : x ++ needle ++ y = b ++ needle ++ a)
    (shorter : x.length < b.length) :
    (∃ between, b = x ++ needle ++ between ∧ y = between ++ needle ++ a) ∨
      ∃ gap more, gap ≠ [] ∧ more ≠ [] ∧ b = x ++ gap ∧ needle = gap ++ more ∧
        needle ++ y = gap ++ needle ++ a := by
  rw [List.append_assoc, List.append_assoc] at split
  rcases List.append_eq_append_iff.mp split with ⟨gap, rfl, follows⟩ | ⟨more, rfl, -⟩
  · have nonempty : gap ≠ [] := by
      rintro rfl
      simp at shorter
    rw [← List.append_assoc] at follows
    by_cases reaches : needle.length ≤ gap.length
    · obtain ⟨between, rfl⟩ : needle <+: gap :=
        List.prefix_of_prefix_length_le ⟨y, follows⟩ ⟨needle ++ a, by simp⟩ reaches
      exact .inl ⟨between, by simp, List.append_cancel_left (follows.trans (by simp))⟩
    · obtain ⟨more, inside⟩ : gap <+: needle :=
        List.prefix_of_prefix_length_le ⟨needle ++ a, by simp⟩ ⟨y, follows⟩ (by omega)
      refine .inr ⟨gap, more, nonempty, ?_, rfl, inside.symm, follows⟩
      rintro rfl
      rw [List.append_nil] at inside
      exact reaches (Nat.le_of_eq (congrArg List.length inside.symm))
  · simp only [List.length_append] at shorter
    omega

/-- A needle that ends in a character found nowhere else in it does not overlap itself. -/
theorem between_of_new_char {lead x y b a : Text} {c : Char} (new : c ∉ lead)
    (split : x ++ (lead ++ [c]) ++ y = b ++ (lead ++ [c]) ++ a) (shorter : x.length < b.length) :
    ∃ between, b = x ++ (lead ++ [c]) ++ between ∧ y = between ++ (lead ++ [c]) ++ a := by
  rcases between_or_inside split shorter with
    apart | ⟨gap, more, nonempty, some, -, inside, follows⟩
  · exact apart
  · -- the gap ends in front of the last character, which would then stand further left, too
    obtain ⟨most, d, rfl⟩ := (List.eq_nil_or_concat more).resolve_left some
    rw [List.concat_eq_append, ← List.append_assoc] at inside
    obtain ⟨rfl, -⟩ := List.append_inj' inside rfl
    have again : [] ++ (gap ++ most) ++ c :: y = gap ++ (gap ++ most) ++ c :: a := by
      simpa using follows
    have le := length_le_of_new_char (by simpa using new) again
    exact absurd (List.length_eq_zero_iff.mp (Nat.le_zero.mp le)) nonempty

theorem cut?_eq_of_new_char {lead tail before after : Text} {c : Char} (new : c ∉ before ++ lead) :
    cut? (lead ++ c :: tail) (before ++ (lead ++ c :: tail) ++ after) = some (before, after) := by
  apply cut?_eq_of_leftmost
  intro b a same
  have regroup : b ++ lead ++ c :: (tail ++ a) = before ++ lead ++ c :: (tail ++ after) := by
    simpa using same
  exact length_le_of_new_char new regroup

theorem exists_occurrences_eq_cons {needle text before after : Text}
    (cut : cut? needle text = some (before, after)) :
    ∃ more, occurrences needle text = ⟨before, after⟩ :: more := by
  have next : Cursor.next? ⟨[], text⟩ needle = some ⟨before, after⟩ := by
    simp [Cursor.next?, cut]
  rw [occurrences, Cursor.occurrences, next]
  exact ⟨_, rfl⟩

def Occurrence.behind (lead : Text) (found : Occurrence) : Occurrence :=
  ⟨lead ++ found.before, found.after⟩

theorem Cursor.occurrences_behind (lead : Text) (place : Cursor) (needle : Text) :
    Cursor.occurrences ⟨lead ++ place.passed, place.ahead⟩ needle =
      (place.occurrences needle).map (Occurrence.behind lead) := by
  have next (place : Cursor) : Cursor.next? ⟨lead ++ place.passed, place.ahead⟩ needle =
      (place.next? needle).map (Occurrence.behind lead) := by
    rw [Cursor.next?, Cursor.next?, Option.map_map]
    congr 1
    funext cut
    simp [Occurrence.behind]
  fun_induction Cursor.occurrences place needle with
  | case1 place none =>
    rw [Cursor.occurrences, next, none]
    rfl
  | case2 place found here ih =>
    rw [Cursor.occurrences, next, here]
    simp only [Option.map_some, List.map_cons, Occurrence.behind]
    congr 1
    split
    · next shorter =>
      have rest := ih shorter
      simp only [Occurrence.resume, List.append_assoc] at rest ⊢
      exact rest
    · rfl

theorem occurrences_eq_cons {needle text before after : Text} (nonempty : needle ≠ [])
    (cut : cut? needle text = some (before, after)) :
    occurrences needle text =
      ⟨before, after⟩ :: (occurrences needle after).map (Occurrence.behind (before ++ needle)) := by
  have next : Cursor.next? ⟨[], text⟩ needle = some ⟨before, after⟩ := by
    simp [Cursor.next?, cut]
  have shorter : after.length < text.length := by
    have positive := List.length_pos_iff.mpr nonempty
    rw [← append_of_cut? cut]
    simp only [List.length_append]
    omega
  have rest := Cursor.occurrences_behind (before ++ needle) ⟨[], after⟩ needle
  rw [List.append_nil] at rest
  rw [occurrences, Cursor.occurrences, next]
  dsimp only
  rw [if_pos shorter, Occurrence.resume, rest, occurrences]

/-- A search comes to an occurrence if it accepts none of those in front, and none of them reaches
into it. -/
theorem Cursor.findSome?_occurrences {α : Type} {needle b a : Text} {accept : Occurrence → Option α}
    {place : Cursor} {result : α} (nonempty : needle ≠ []) (ahead : place.ahead = b ++ needle ++ a)
    (accepted : accept ⟨place.passed ++ b, a⟩ = some result)
    (passes : ∀ x y, place.ahead = x ++ needle ++ y → x.length < b.length →
      accept ⟨place.passed ++ x, y⟩ = none ∧ x.length + needle.length ≤ b.length) :
    (place.occurrences needle).findSome? accept = some result := by
  fun_induction Cursor.occurrences place needle generalizing b with
  | case1 place unseen =>
    obtain ⟨x, y, found, -⟩ := exists_cut? needle b a
    rw [Cursor.next?, ahead, found] at unseen
    cases unseen
  | case2 place found next ih =>
    obtain ⟨x, y, cut, le⟩ := exists_cut? needle b a
    rw [← ahead] at cut
    obtain rfl : ⟨place.passed ++ x, y⟩ = found := by simpa [Cursor.next?, cut] using next
    have split := append_of_cut? cut
    rcases Nat.lt_or_eq_of_le le with earlier | here
    · obtain ⟨refused, apart⟩ := passes x y split.symm earlier
      rw [ahead] at split
      obtain ⟨between, rfl⟩ : x ++ needle <+: b :=
        List.prefix_of_prefix_length_le ⟨y, split⟩ ⟨needle ++ a, by simp⟩ (by simpa using apart)
      obtain rfl : y = between ++ needle ++ a :=
        List.append_cancel_left (split.trans (by simp))
      have shorter : (between ++ needle ++ a).length < place.ahead.length := by
        have positive := List.length_pos_iff.mpr nonempty
        rw [ahead]
        simp only [List.length_append]
        omega
      rw [List.findSome?_cons, refused, if_pos shorter]
      refine ih shorter rfl (by simpa [Occurrence.resume] using accepted) ?_
      intro x' y' same lt
      have later :=
        passes (x ++ needle ++ x') y' (by rw [ahead]; simpa [Occurrence.resume] using same)
        (by simpa using Nat.add_lt_add_left lt (x.length + needle.length))
      refine ⟨by simpa [Occurrence.resume] using later.1, ?_⟩
      have lengths := later.2
      simp only [List.length_append] at lengths
      omega
    · rw [ahead, List.append_assoc, List.append_assoc] at split
      obtain ⟨rfl, rest⟩ := List.append_inj split here
      obtain rfl := List.append_cancel_left rest
      rw [List.findSome?_cons, accepted]

theorem endsOffWord_append_word {before word : Text} (isWord : IsWord word) :
    endsOffWord (before ++ word) = false := by
  rcases List.eq_nil_or_concat word with rfl | ⟨most, c, rfl⟩
  · exact absurd rfl isWord.ne_nil
  · have on := isWord.chars c (by simp)
    simp [endsOffWord, on]

end IspcShader.Text
