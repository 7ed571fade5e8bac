import IspcShader.Text.Basic
import IspcShader.Text.Alphanumeric
import IspcShader.Text.Blank

/-!
Word characters: the characters of which identifiers are made.
-/
namespace IspcShader.Text

/-- A letter or number of any script, or the underscore. The first branch decides ASCII
without looking into the table. -/
def isWordChar (c : Char) : Bool :=
  if c.toNat < 0x80 then c.isAlphanum || c == '_' else inRanges alphanumericRanges c

theorem isWordChar_of_isAlphanum {c : Char} (h : c.isAlphanum = true) : isWordChar c = true := by
  have ascii : c.toNat < 0x80 := by
    unfold Char.isAlphanum Char.isAlpha Char.isUpper Char.isLower Char.isDigit at h
    simp only [Bool.or_eq_true, Bool.and_eq_true, decide_eq_true_eq, ge_iff_le,
      UInt32.le_iff_toNat_le] at h
    simp only [Char.toNat]
    have bounds : 'A'.val.toNat = 65 ∧ 'Z'.val.toNat = 90 ∧ 'a'.val.toNat = 97 ∧
        'z'.val.toNat = 122 ∧ '0'.val.toNat = 48 ∧ '9'.val.toNat = 57 := by decide
    omega
  simp [isWordChar, ascii, h]

theorem isWordChar_of_isBlank {c : Char} (h : isBlank c = true) : isWordChar c = false := by
  have values :
      c.toNat ∈ blankRanges.flatMap fun range => List.range' range.1 (range.2 - range.1 + 1) := by
    simp only [isBlank, inRanges, List.any_eq_true, Bool.and_eq_true, decide_eq_true_eq] at h
    obtain ⟨range, member, low, high⟩ := h
    exact List.mem_flatMap.mpr ⟨range, member, List.mem_range'_1.mpr (by omega)⟩
  have checked : ∀ n ∈ blankRanges.flatMap fun range => List.range' range.1 (range.2 - range.1 + 1),
      isWordChar (Char.ofNat n) = false := by decide +kernel
  simpa using checked c.toNat values

/-- Whether a text may end a word that stops in front of it: it is empty or starts with a
character that is no word character. -/
def startsOffWord : Text → Bool
  | [] => true
  | c :: _ => !isWordChar c

def endsOffWord (text : Text) : Bool :=
  match text.getLast? with
  | none => true
  | some c => !isWordChar c

/-- The run of word characters at the end of a text, and what stands before it. -/
def splitLastWord (text : Text) : Text × Text :=
  ((text.reverse.dropWhile isWordChar).reverse, (text.reverse.takeWhile isWordChar).reverse)

theorem splitLastWord_append (text : Text) :
    (splitLastWord text).1 ++ (splitLastWord text).2 = text := by
  simp only [splitLastWord, ← List.reverse_append, List.takeWhile_append_dropWhile,
    List.reverse_reverse]

end IspcShader.Text
