import IspcShader.Text.Basic

/-!
Stretches of a text counted in bytes. The bytes are those of the UTF-8 encoding, and a part of a
text lies between two places that no character straddles.
-/
namespace IspcShader

open Text

theorem Text.size_utf8Encode (text : Text) : text.utf8Encode.size = byteLength text := by
  induction text with
  | nil => rfl
  | cons c text ih =>
    rw [List.utf8Encode_cons, ByteArray.size_append, ih, byteLength_cons, List.utf8Encode_singleton,
      List.size_toByteArray, String.length_utf8EncodeChar]

theorem Text.byteLength_pos {text : Text} (nonempty : text ≠ []) : 0 < byteLength text := by
  obtain ⟨c, rest, rfl⟩ := List.exists_cons_of_ne_nil nonempty
  have positive := c.utf8Size_pos
  rw [byteLength_cons]
  omega

/-- Of two beginnings of a text, the one with fewer bytes has fewer characters. -/
theorem Text.length_le_of_byteLength_le {a b x y : Text} (same : a ++ x = b ++ y)
    (le : byteLength a ≤ byteLength b) : a.length ≤ b.length := by
  rcases List.append_eq_append_iff.mp same with ⟨more, rfl, -⟩ | ⟨more, rfl, -⟩
  · rw [List.length_append]
    omega
  · by_cases empty : more = []
    · exact Nat.le_of_eq (by rw [empty, List.append_nil])
    · have positive := byteLength_pos empty
      rw [byteLength_append] at le
      omega

theorem Text.byteLength_le_of_length_le {a b x y : Text} (same : a ++ x = b ++ y)
    (le : a.length ≤ b.length) : byteLength a ≤ byteLength b := by
  obtain ⟨more, rfl⟩ : a <+: b := List.prefix_of_prefix_length_le ⟨x, same⟩ ⟨y, rfl⟩ le
  rw [byteLength_append]
  exact Nat.le_add_right _ _

/-- The span covers `part` in the text: both its ends are places between characters, and the bytes
from one to the other are those of the part. -/
structure ByteSpan.Covers (span : ByteSpan) (text part : Text) : Prop where
  starts : (String.Pos.Raw.mk span.start).IsValid (String.ofList text)
  stops : (String.Pos.Raw.mk span.stop).IsValid (String.ofList text)
  bytes : text.utf8Encode.extract span.start span.stop = part.utf8Encode

theorem Text.isValid_byteLength (before after : Text) :
    (String.Pos.Raw.mk (byteLength before)).IsValid (String.ofList (before ++ after)) := by
  rw [String.Pos.Raw.isValid_iff_exists_append]
  refine ⟨String.ofList before, String.ofList after, String.ofList_append, ?_⟩
  rw [String.Pos.Raw.ext_iff, String.byteIdx_rawEndPos, ← String.size_toByteArray,
    String.toByteArray_ofList, size_utf8Encode]

theorem ByteSpan.covers_append (before part after : Text) :
    ByteSpan.Covers ⟨byteLength before, byteLength before + byteLength part⟩
      (before ++ part ++ after) part where
  starts := by
    rw [List.append_assoc]
    exact isValid_byteLength before (part ++ after)
  stops := by
    rw [← byteLength_append]
    exact isValid_byteLength (before ++ part) after
  bytes := by
    have stop : byteLength before + byteLength part = (before ++ part).utf8Encode.size := by
      rw [size_utf8Encode, byteLength_append]
    dsimp only
    rw [stop, List.utf8Encode_append, ByteArray.extract_append_size_left, List.utf8Encode_append]
    exact ByteArray.extract_append_eq_right (size_utf8Encode before).symm ByteArray.size_append

end IspcShader
