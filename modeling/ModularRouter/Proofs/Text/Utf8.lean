import ModularRouter.Text.Utf8

/-!
# Bytes of text

Text and its bytes determine each other.
-/

namespace ModularRouter.Text

/-- The bytes of a text are those it is kept in. -/
theorem toByteArray_utf8 (text : String) : (utf8 text).toByteArray = text.toByteArray :=
  String.utf8Encode_toList

/-- Different texts have different bytes. -/
theorem utf8_inj {text other : String} : utf8 text = utf8 other ↔ text = other := by
  refine ⟨fun same => ?_, congrArg utf8⟩
  have bytes : (utf8 text).toByteArray = (utf8 other).toByteArray := congrArg List.toByteArray same
  rw [toByteArray_utf8, toByteArray_utf8] at bytes
  exact String.toByteArray_inj.1 bytes

/-- Bytes are read as the text that has them. -/
theorem ofUtf8?_eq_some_iff {bytes : List UInt8} {text : String} :
    ofUtf8? bytes = some text ↔ utf8 text = bytes := by
  have array : ByteArray.mk bytes.toArray = bytes.toByteArray :=
    ByteArray.ext List.data_toByteArray.symm
  rw [ofUtf8?, array]
  unfold String.fromUTF8?
  constructor
  · intro read
    split at read
    · cases read
      have kept := congrArg ByteArray.data (toByteArray_utf8 (.fromUTF8 bytes.toByteArray ‹_›))
      rw [String.fromUTF8, List.data_toByteArray, List.data_toByteArray] at kept
      exact List.toArray_inj kept
    · cases read
  · rintro rfl
    simp only [toByteArray_utf8]
    exact dif_pos text.isValidUTF8

end ModularRouter.Text
