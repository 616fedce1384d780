import Wallpaper.Wire.Reader

/-! Texts as bytes. -/
namespace Wallpaper.Wire

def utf8 (s : String) : Bytes := s.toByteArray.data.toList

theorem utf8_append (s t : String) : utf8 (s ++ t) = utf8 s ++ utf8 t := by
  simp [utf8]

/-- The text of well-formed bytes. -/
def ofUtf8? (bytes : Bytes) : Option String := String.fromUTF8? ⟨bytes.toArray⟩

theorem ofUtf8?_utf8 (s : String) : ofUtf8? (utf8 s) = some s := by
  simp [ofUtf8?, utf8, String.fromUTF8?, String.fromUTF8, s.isValidUTF8]

theorem utf8_of_ofUtf8? {bytes : Bytes} {s : String} (h : ofUtf8? bytes = some s) :
    utf8 s = bytes := by
  simp only [ofUtf8?, String.fromUTF8?] at h
  split at h
  · cases h; rfl
  · cases h

theorem utf8_injective {s t : String} (h : utf8 s = utf8 t) : s = t :=
  Option.some.inj (ofUtf8?_utf8 s ▸ h ▸ ofUtf8?_utf8 t)

/-- Where bytes at the front of a text are a text, the text goes on with whole characters. -/
theorem exists_eq_append_of_prefix {s t : String} (front : utf8 t <+: utf8 s) :
    ∃ tail, s = t ++ tail := by
  have bytes : s.toByteArray.extract 0 (utf8 t).length = t.toByteArray := by
    apply ByteArray.ext
    apply Array.toList_inj.1
    simpa [utf8, List.extract] using (List.prefix_iff_eq_take.1 front).symm
  have valid : String.Pos.Raw.IsValid s ⟨(utf8 t).length⟩ := by
    refine String.Pos.Raw.isValid_iff_isValidUTF8_extract_zero.2 ⟨?_, ?_⟩
    · simpa [String.Pos.Raw.le_iff, utf8] using front.length_le
    · exact bytes ▸ t.isValidUTF8
  obtain ⟨first, tail, rfl, ends⟩ := String.Pos.Raw.isValid_iff_exists_append.1 valid
  have same_length : (utf8 t).length = (utf8 first).length := by
    simpa [utf8] using congrArg String.Pos.Raw.byteIdx ends
  rw [utf8_append] at front
  have nested : utf8 t <+: utf8 first :=
    List.prefix_of_prefix_length_le front (List.prefix_append _ _) (Nat.le_of_eq same_length)
  exact ⟨tail, by rw [utf8_injective (nested.eq_of_length same_length)]⟩

end Wallpaper.Wire
