/-!
The UTF-8 bytes of texts. A text is found again in its own bytes, and in no others.
-/
namespace PackageIndex.Text

/-- The UTF-8 bytes of a text. -/
def bytes (s : String) : List UInt8 := s.toByteArray.data.toList

theorem bytes_eq_flatMap (s : String) : bytes s = s.toList.flatMap String.utf8EncodeChar := by
  rw [bytes, ← String.utf8Encode_toList, List.utf8Encode]
  simp

theorem fromUTF8?_eq_some_iff {b : ByteArray} {s : String} :
    String.fromUTF8? b = some s ↔ b = s.toUTF8 := by
  constructor
  · intro h
    unfold String.fromUTF8? at h
    split at h
    · obtain rfl := Option.some.inj h
      rfl
    · cases h
  · rintro rfl
    rw [String.toUTF8_eq_toByteArray, String.fromUTF8?, dif_pos s.isValidUTF8]
    rfl

theorem fromUTF8?_toArray_eq_some_iff {bs : List UInt8} {s : String} :
    String.fromUTF8? ⟨bs.toArray⟩ = some s ↔ bs = bytes s := by
  rw [fromUTF8?_eq_some_iff, bytes, String.toUTF8_eq_toByteArray]
  constructor
  · intro h
    rw [← h]
  · rintro rfl
    rw [Array.toArray_toList]

theorem bytes_inj {s t : String} : bytes s = bytes t ↔ s = t := by
  refine ⟨fun h => ?_, congrArg bytes⟩
  have hs : String.fromUTF8? ⟨(bytes s).toArray⟩ = some s := fromUTF8?_toArray_eq_some_iff.mpr rfl
  have ht := fromUTF8?_toArray_eq_some_iff.mpr h
  exact Option.some.inj (hs.symm.trans ht)

end PackageIndex.Text
