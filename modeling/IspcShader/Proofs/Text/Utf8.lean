import Mathlib.Data.List.Basic
import Mathlib.Tactic.SplitIfs
import IspcShader.Text.Utf8

/-!
Reading UTF-8 undoes writing it, and nothing else is read as a text. While a character is being
read, the bytes so far are known from the bits and from how many bytes are due; the last byte then
completes the encoding of the character that is given out.
-/
namespace IspcShader.Text

theorem utf8_cons (c : Char) (text : Text) :
    utf8 (c :: text) = String.utf8EncodeChar c ++ utf8 text :=
  List.flatMap_cons

theorem toNat_byte {n : Nat} (small : n < 0x100) : (UInt8.ofNat n).toNat = n := by
  rw [UInt8.toNat_ofNat']
  exact Nat.mod_eq_of_lt small

theorem exists_byte (byte : UInt8) (base : Nat) (le : base ≤ byte.toNat) :
    ∃ n, byte.toNat = n + base ∧ byte = .ofNat (n + base) := by
  refine ⟨byte.toNat - base, (Nat.sub_add_cancel le).symm, ?_⟩
  rw [Nat.sub_add_cancel le, UInt8.ofNat_toNat]

theorem toNat_val_ofNat {n : Nat} (valid : n.isValidChar) : (Char.ofNat n).val.toNat = n := by
  rw [Char.ofNat, dif_pos valid]
  rfl

section Encoding

variable {n m : Nat} (small : m < 0x40)
include small

theorem utf8EncodeChar_two (lower : 2 ≤ n) (upper : n < 0x20) :
    String.utf8EncodeChar (Char.ofNat (n * 64 + m)) = [.ofNat (n + 0xc0), .ofNat (m + 0x80)] := by
  have value := toNat_val_ofNat (n := n * 64 + m) (.inl (by omega))
  have first : (n * 64 + m) / 64 % 0x20 = n := by omega
  have second : (n * 64 + m) % 0x40 = m := by omega
  simp only [String.utf8EncodeChar, value, first, second]
  rw [if_neg (by omega), if_pos (by omega)]

theorem utf8EncodeChar_three (lower : 0x20 ≤ n) (upper : n < 0x400)
    (scalar : n < 0x360 ∨ 0x380 ≤ n) :
    String.utf8EncodeChar (Char.ofNat (n * 64 + m)) =
      [.ofNat (n / 64 + 0xe0), .ofNat (n % 64 + 0x80), .ofNat (m + 0x80)] := by
  have value := toNat_val_ofNat (n := n * 64 + m) (by unfold Nat.isValidChar; omega)
  have first : (n * 64 + m) / 4096 % 0x10 = n / 64 := by omega
  have second : (n * 64 + m) / 64 % 0x40 = n % 64 := by omega
  have third : (n * 64 + m) % 0x40 = m := by omega
  simp only [String.utf8EncodeChar, value, first, second, third]
  rw [if_neg (by omega), if_neg (by omega), if_pos (by omega)]

theorem utf8EncodeChar_four (lower : 0x400 ≤ n) (upper : n < 0x4400) :
    String.utf8EncodeChar (Char.ofNat (n * 64 + m)) =
      [.ofNat (n / 4096 + 0xf0), .ofNat (n / 64 % 64 + 0x80), .ofNat (n % 64 + 0x80),
        .ofNat (m + 0x80)] := by
  have value := toNat_val_ofNat (n := n * 64 + m) (.inr (by omega))
  have first : (n * 64 + m) / 262144 % 0x08 = n / 4096 := by omega
  have second : (n * 64 + m) / 4096 % 0x40 = n / 64 % 64 := by omega
  have third : (n * 64 + m) / 64 % 0x40 = n % 64 := by omega
  have fourth : (n * 64 + m) % 0x40 = m := by omega
  simp only [String.utf8EncodeChar, value, first, second, third, fourth]
  rw [if_neg (by omega), if_neg (by omega), if_neg (by omega)]

end Encoding

/-- The bytes of a character that have been read, for each place where reading can stop. -/
inductive Unfinished.Holds : Unfinished → List UInt8 → Prop
  | oneOfTwo {n : Nat} (lower : 2 ≤ n) (upper : n < 0x20) :
      Holds { bits := n, more := 0 } [.ofNat (n + 0xc0)]
  | oneOfThree {n : Nat} (upper : n < 0x10) : Holds (.ofThree n) [.ofNat (n + 0xe0)]
  | twoOfThree {n : Nat} (lower : 0x20 ≤ n) (upper : n < 0x400) (scalar : n < 0x360 ∨ 0x380 ≤ n) :
      Holds { bits := n, more := 0 } [.ofNat (n / 64 + 0xe0), .ofNat (n % 64 + 0x80)]
  | oneOfFour {n : Nat} (upper : n < 5) : Holds (.ofFour n) [.ofNat (n + 0xf0)]
  | twoOfFour {n : Nat} (lower : 0x10 ≤ n) (upper : n < 0x110) :
      Holds { bits := n, more := 1 } [.ofNat (n / 64 + 0xf0), .ofNat (n % 64 + 0x80)]
  | threeOfFour {n : Nat} (lower : 0x400 ≤ n) (upper : n < 0x4400) :
      Holds { bits := n, more := 0 }
        [.ofNat (n / 4096 + 0xf0), .ofNat (n / 64 % 64 + 0x80), .ofNat (n % 64 + 0x80)]

namespace Unfinished.Holds

theorem range {start : Unfinished} {front : List UInt8} (holds : start.Holds front) :
    0x80 ≤ start.low ∧ start.high ≤ 0xbf := by
  cases holds with
  | oneOfTwo | twoOfThree | twoOfFour | threeOfFour => exact ⟨Nat.le_refl _, Nat.le_refl _⟩
  | oneOfThree | oneOfFour =>
    dsimp only [ofThree, ofFour]
    constructor <;> split <;> omega

variable {n m : Nat}

theorem ofThree (upper : n < 0x10) (small : m < 0x40)
    (fits : (Unfinished.ofThree n).low ≤ m + 0x80 ∧ m + 0x80 ≤ (Unfinished.ofThree n).high) :
    Holds { bits := n * 64 + m, more := 0 } [.ofNat (n + 0xe0), .ofNat (m + 0x80)] := by
  dsimp only [Unfinished.ofThree] at fits
  have made := @twoOfThree (n * 64 + m) (by split at fits <;> omega) (by omega)
    (by split_ifs at fits <;> omega)
  have first : (n * 64 + m) / 64 = n := by omega
  have second : (n * 64 + m) % 64 = m := by omega
  rwa [first, second] at made

theorem ofFour (upper : n < 5) (small : m < 0x40)
    (fits : (Unfinished.ofFour n).low ≤ m + 0x80 ∧ m + 0x80 ≤ (Unfinished.ofFour n).high) :
    Holds { bits := n * 64 + m, more := 1 } [.ofNat (n + 0xf0), .ofNat (m + 0x80)] := by
  dsimp only [Unfinished.ofFour] at fits
  have made := @twoOfFour (n * 64 + m) (by split_ifs at fits <;> omega)
    (by split_ifs at fits <;> omega)
  have first : (n * 64 + m) / 64 = n := by omega
  have second : (n * 64 + m) % 64 = m := by omega
  rwa [first, second] at made

end Unfinished.Holds

namespace Reading

theorem ofLead_one {n : Nat} (le : n ≤ 0x7f) :
    ofLead (.ofNat n) = { found := [some (Char.ofNat n)] } := by
  have lead : (UInt8.ofNat n).toNat = n := toNat_byte (by omega)
  simp only [ofLead, lead]
  rw [if_pos (by omega)]

theorem ofLead_two {n : Nat} (lower : 2 ≤ n) (upper : n < 0x20) :
    ofLead (.ofNat (n + 0xc0)) = { pending := some { bits := n, more := 0 } } := by
  have lead : (UInt8.ofNat (n + 0xc0)).toNat = n + 0xc0 := toNat_byte (by omega)
  simp only [ofLead, lead, Nat.add_sub_cancel]
  rw [if_neg (by omega), if_neg (by omega), if_pos (by omega)]

theorem ofLead_three {n : Nat} (upper : n < 0x10) :
    ofLead (.ofNat (n + 0xe0)) = { pending := some (.ofThree n) } := by
  have lead : (UInt8.ofNat (n + 0xe0)).toNat = n + 0xe0 := toNat_byte (by omega)
  simp only [ofLead, lead, Nat.add_sub_cancel]
  rw [if_neg (by omega), if_neg (by omega), if_neg (by omega), if_pos (by omega)]

theorem ofLead_four {n : Nat} (upper : n < 5) :
    ofLead (.ofNat (n + 0xf0)) = { pending := some (.ofFour n) } := by
  have lead : (UInt8.ofNat (n + 0xf0)).toNat = n + 0xf0 := toNat_byte (by omega)
  simp only [ofLead, lead, Nat.add_sub_cancel]
  rw [if_neg (by omega), if_neg (by omega), if_neg (by omega), if_neg (by omega), if_pos (by omega)]

section Next

variable {start : Unfinished} {n : Nat} (small : n < 0x40) (low : start.low ≤ n + 0x80)
  (high : n + 0x80 ≤ start.high)
include small low high

theorem next_last (last : start.more = 0) :
    next start (.ofNat (n + 0x80)) = { found := [some (Char.ofNat (start.bits * 64 + n))] } := by
  have byte : (UInt8.ofNat (n + 0x80)).toNat = n + 0x80 := toNat_byte (by omega)
  simp only [next, byte, Nat.add_sub_cancel, last]
  rw [if_pos ⟨low, high⟩]

theorem next_inner {more : Nat} (inner : start.more = more + 1) :
    next start (.ofNat (n + 0x80)) =
      { pending := some { bits := start.bits * 64 + n, more } } := by
  have byte : (UInt8.ofNat (n + 0x80)).toNat = n + 0x80 := toNat_byte (by omega)
  simp only [next, byte, Nat.add_sub_cancel, inner]
  rw [if_pos ⟨low, high⟩]

end Next

theorem ofLead_cases (byte : UInt8) :
    (∃ c, ofLead byte = { found := [some c] } ∧ String.utf8EncodeChar c = [byte]) ∨
      (∃ start : Unfinished, ofLead byte = { pending := some start } ∧ start.Holds [byte]) ∨
      ofLead byte = { found := [none] } := by
  have bound : byte.toNat < 0x100 := byte.toNat_lt
  by_cases one : byte.toNat < 0x80
  · have same : byte = .ofNat byte.toNat := UInt8.ofNat_toNat.symm
    have value := toNat_val_ofNat (n := byte.toNat) (.inl (by omega))
    refine .inl ⟨Char.ofNat byte.toNat, ?_, ?_⟩
    · rw [same, ofLead_one (by omega), ← same]
    · rw [String.utf8EncodeChar, value, if_pos (by omega), ← same]
  by_cases two : 0xc2 ≤ byte.toNat ∧ byte.toNat < 0xe0
  · obtain ⟨n, value, same⟩ := exists_byte byte 0xc0 (by omega)
    rw [same]
    exact .inr (.inl ⟨_, ofLead_two (by omega) (by omega), .oneOfTwo (by omega) (by omega)⟩)
  by_cases three : 0xe0 ≤ byte.toNat ∧ byte.toNat < 0xf0
  · obtain ⟨n, value, same⟩ := exists_byte byte 0xe0 (by omega)
    rw [same]
    exact .inr (.inl ⟨_, ofLead_three (by omega), .oneOfThree (by omega)⟩)
  by_cases four : 0xf0 ≤ byte.toNat ∧ byte.toNat < 0xf5
  · obtain ⟨n, value, same⟩ := exists_byte byte 0xf0 (by omega)
    rw [same]
    exact .inr (.inl ⟨_, ofLead_four (by omega), .oneOfFour (by omega)⟩)
  · refine .inr (.inr ?_)
    unfold ofLead
    dsimp only
    split_ifs <;> first | rfl | omega

theorem next_cases {start : Unfinished} {front : List UInt8} (holds : start.Holds front)
    (byte : UInt8) :
    (∃ c, next start byte = { found := [some c] } ∧ String.utf8EncodeChar c = front ++ [byte]) ∨
      (∃ later : Unfinished, next start byte = { pending := some later } ∧
        later.Holds (front ++ [byte])) ∨
      ∃ found, (next start byte).found = none :: found := by
  by_cases fits : start.low ≤ byte.toNat ∧ byte.toNat ≤ start.high
  · have range := holds.range
    obtain ⟨n, value, same⟩ := exists_byte byte 0x80 (by omega)
    have small : n < 0x40 := by omega
    rw [value] at fits
    rw [same]
    cases holds with
    | oneOfTwo lower upper =>
      exact .inl ⟨_, next_last small fits.1 fits.2 rfl, utf8EncodeChar_two small lower upper⟩
    | twoOfThree lower upper scalar =>
      exact .inl ⟨_, next_last small fits.1 fits.2 rfl,
        utf8EncodeChar_three small lower upper scalar⟩
    | threeOfFour lower upper =>
      exact .inl ⟨_, next_last small fits.1 fits.2 rfl, utf8EncodeChar_four small lower upper⟩
    | oneOfThree upper =>
      exact .inr (.inl ⟨_, next_inner small fits.1 fits.2 rfl, .ofThree upper small fits⟩)
    | oneOfFour upper =>
      exact .inr (.inl ⟨_, next_inner small fits.1 fits.2 rfl, .ofFour upper small fits⟩)
    | @twoOfFour bits lower upper =>
      have made := Unfinished.Holds.threeOfFour (n := bits * 64 + n) (by omega) (by omega)
      have first : (bits * 64 + n) / 4096 = bits / 64 := by omega
      have second : (bits * 64 + n) / 64 % 64 = bits % 64 := by omega
      have third : (bits * 64 + n) % 64 = n := by omega
      rw [first, second, third] at made
      exact .inr (.inl ⟨_, next_inner small fits.1 fits.2 rfl, made⟩)
  · refine .inr (.inr ⟨(ofLead byte).found, ?_⟩)
    rw [next, if_neg fits]

/-- A byte ends a character, goes on with one, or leaves a gap. -/
theorem ofByte_cases {pending : Option Unfinished} {front : List UInt8}
    (begun : pending.elim (front = []) (·.Holds front)) (byte : UInt8) :
    (∃ c, ofByte pending byte = { found := [some c] } ∧
        String.utf8EncodeChar c = front ++ [byte]) ∨
      (∃ later : Unfinished, ofByte pending byte = { pending := some later } ∧
        later.Holds (front ++ [byte])) ∨
      ∃ found, (ofByte pending byte).found = none :: found := by
  cases pending with
  | none =>
    obtain rfl : front = [] := begun
    rcases ofLead_cases byte with whole | start | gap
    · exact .inl whole
    · exact .inr (.inl start)
    · exact .inr (.inr ⟨[], by rw [ofByte, gap]⟩)
  | some start => exact next_cases begun byte

end Reading

section Decoding

variable (pending : Option Unfinished) {start : Unfinished} {byte : UInt8} {rest : List UInt8}

theorem decodeFrom_of_found {c : Char}
    (made : Reading.ofByte pending byte = { found := [some c] }) :
    decodeFrom pending (byte :: rest) = some c :: decodeFrom none rest := by
  rw [decodeFrom, made]
  rfl

theorem decodeFrom_of_begun
    (made : Reading.ofByte pending byte = { pending := some start }) :
    decodeFrom pending (byte :: rest) = decodeFrom (some start) rest := by
  rw [decodeFrom, made]
  rfl

end Decoding

theorem decodeFrom_utf8EncodeChar (c : Char) (rest : List UInt8) :
    decodeFrom none (String.utf8EncodeChar c ++ rest) = some c :: decodeFrom none rest := by
  obtain ⟨v, rfl, valid⟩ : ∃ v, c = Char.ofNat v ∧ v.isValidChar :=
    ⟨c.toNat, (Char.ofNat_toNat c).symm, c.valid⟩
  unfold Nat.isValidChar at valid
  by_cases one : v ≤ 0x7f
  · have encoded : String.utf8EncodeChar (Char.ofNat v) = [.ofNat v] := by
      rw [String.utf8EncodeChar, toNat_val_ofNat valid, if_pos one]
    rw [encoded]
    exact decodeFrom_of_found none (Reading.ofLead_one one)
  -- the last byte holds the lowest six bits
  obtain ⟨n, m, rfl, small⟩ : ∃ n m, v = n * 64 + m ∧ m < 0x40 :=
    ⟨v / 64, v % 64, by omega, by omega⟩
  have last : decodeFrom (some { bits := n, more := 0 }) (.ofNat (m + 0x80) :: rest) =
      some (Char.ofNat (n * 64 + m)) :: decodeFrom none rest :=
    decodeFrom_of_found _ (Reading.next_last small (Nat.le_add_left ..) (by dsimp only; omega) rfl)
  by_cases two : n < 0x20
  · have first := Reading.ofLead_two (n := n) (by omega) two
    rw [utf8EncodeChar_two small (by omega) two]
    exact (decodeFrom_of_begun none first).trans last
  have middle : n / 64 * 64 + n % 64 = n := by omega
  by_cases three : n < 0x400
  · have first := Reading.ofLead_three (n := n / 64) (by omega)
    have second := @Reading.next_inner (.ofThree (n / 64)) (n % 64) (by omega)
      (by dsimp only [Unfinished.ofThree]; split <;> omega)
      (by dsimp only [Unfinished.ofThree]; split <;> omega) _ rfl
    dsimp only [Unfinished.ofThree] at second
    rw [middle] at second
    rw [utf8EncodeChar_three small (by omega) three (by omega)]
    exact (decodeFrom_of_begun none first).trans ((decodeFrom_of_begun (some _) second).trans last)
  · have first := Reading.ofLead_four (n := n / 4096) (by omega)
    have second := @Reading.next_inner (.ofFour (n / 4096)) (n / 64 % 64) (by omega)
      (by dsimp only [Unfinished.ofFour]; split <;> omega)
      (by dsimp only [Unfinished.ofFour]; split <;> omega) _ rfl
    have third := @Reading.next_inner { bits := n / 64, more := 1 } (n % 64) (by omega)
      (Nat.le_add_left ..) (by dsimp only; omega) _ rfl
    have upper : n / 4096 * 64 + n / 64 % 64 = n / 64 := by omega
    dsimp only [Unfinished.ofFour] at second
    rw [upper] at second
    dsimp only at third
    rw [middle] at third
    rw [utf8EncodeChar_four small (by omega) (by omega)]
    exact (decodeFrom_of_begun none first).trans ((decodeFrom_of_begun (some _) second).trans
      ((decodeFrom_of_begun (some _) third).trans last))

/-- Bytes that are read without a gap are the encoding of what is read, together with the bytes of
the character that was begun before. -/
theorem utf8_of_decodeFrom {text : Text} {pending : Option Unfinished} {front bytes : List UInt8}
    (begun : pending.elim (front = []) (·.Holds front))
    (read : decodeFrom pending bytes = text.map some) : utf8 text = front ++ bytes := by
  induction bytes generalizing text pending front with
  | nil =>
    cases pending with
    | none =>
      obtain rfl : front = [] := begun
      obtain rfl : text = [] := List.map_eq_nil_iff.mp read.symm
      rfl
    | some start =>
      obtain ⟨c, more, rfl, gap, -⟩ := List.map_eq_cons_iff.mp read.symm
      cases gap
  | cons byte rest ih =>
    rcases Reading.ofByte_cases begun byte with
      ⟨c, made, encodes⟩ | ⟨later, made, holds⟩ | ⟨found, gap⟩
    · rw [decodeFrom_of_found pending made] at read
      obtain ⟨d, more, rfl, same, others⟩ := List.map_eq_cons_iff.mp read.symm
      obtain rfl : d = c := Option.some.inj same
      have behind := @ih _ none [] rfl others.symm
      rw [List.nil_append] at behind
      rw [utf8_cons, encodes, behind, List.append_assoc, List.singleton_append]
    · rw [decodeFrom_of_begun pending made] at read
      have whole := @ih _ (some later) _ holds read
      rw [whole, List.append_assoc, List.singleton_append]
    · rw [decodeFrom, gap] at read
      obtain ⟨c, more, rfl, missing, -⟩ := List.map_eq_cons_iff.mp read.symm
      cases missing

theorem decode_utf8 (text : Text) : decode (utf8 text) = text.map some := by
  induction text with
  | nil => rfl
  | cons c text ih =>
    rw [utf8_cons, decode, decodeFrom_utf8EncodeChar, List.map_cons]
    exact congrArg (some c :: ·) ih

theorem decode_eq_map_some_iff {bytes : List UInt8} {text : Text} :
    decode bytes = text.map some ↔ utf8 text = bytes := by
  constructor
  · intro read
    exact @utf8_of_decodeFrom text none [] bytes rfl read
  · rintro rfl
    exact decode_utf8 text

theorem mapM_id_eq_some_iff {found : List (Option Char)} {text : Text} :
    found.mapM id = some text ↔ found = text.map some := by
  induction found generalizing text with
  | nil => cases text <;> simp
  | cons first rest ih =>
    cases first with
    | none => cases text <;> simp
    | some c => cases text <;> simp [Option.bind_eq_some_iff, ih, and_comm]

/-- A text is read off its own bytes and off no others. -/
theorem ofUtf8?_eq_some_iff {bytes : List UInt8} {text : Text} :
    ofUtf8? bytes = some text ↔ utf8 text = bytes :=
  mapM_id_eq_some_iff.trans decode_eq_map_some_iff

@[simp] theorem ofUtf8Lossy_utf8 (text : Text) : ofUtf8Lossy (utf8 text) = text := by
  rw [ofUtf8Lossy, decode_utf8, List.map_map]
  exact List.map_id text

end IspcShader.Text
