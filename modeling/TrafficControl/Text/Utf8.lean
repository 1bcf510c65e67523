import TrafficControl.Bytes.Word

/-!
# Text as bytes

Text travels as UTF-8. `Utf8.bytes` and `Utf8.text?` are inverse to each other: a byte string is
the encoding of at most one text (`text?_eq_some_iff`).
-/

namespace TrafficControl.Utf8

/-- The UTF-8 bytes of a text. -/
def bytes (s : String) : Bytes :=
  s.toByteArray.data.toList

/-- The text with these bytes, if they are valid. -/
def text? (bs : Bytes) : Option String :=
  String.fromUTF8? ⟨bs.toArray⟩

theorem text?_eq_some_iff {bs : Bytes} {s : String} : text? bs = some s ↔ bytes s = bs := by
  unfold text? String.fromUTF8? bytes
  constructor
  · intro h
    split at h
    · cases h
      simp [String.fromUTF8]
    · cases h
  · rintro rfl
    have hvalid : ByteArray.IsValidUTF8 ⟨s.toByteArray.data.toList.toArray⟩ := by
      simpa using s.isValidUTF8
    rw [dif_pos hvalid]
    simp [String.fromUTF8]

/-- A text is read back from its bytes. -/
@[simp] theorem text?_bytes (s : String) : text? (bytes s) = some s :=
  text?_eq_some_iff.mpr rfl

end TrafficControl.Utf8
