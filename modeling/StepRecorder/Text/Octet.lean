import StepRecorder.Text.Utf8

/-!
Bytes as a text with one character for each: a form in which what is plain ASCII can be read, while
other passages are only passed on.

Main statement: `octets_ofOctets` says that no byte is lost.
-/

namespace StepRecorder.Text

/-- The text with one character for each byte. -/
def ofOctets (bytes : Bytes) : Text := bytes.map fun b => Char.ofNat b.toNat

/-- The bytes of a text that has one character for each. -/
def octets (text : Text) : Bytes := text.map fun c => c.toNat.toUInt8

theorem toNat_ofNat_toNat (b : UInt8) : (Char.ofNat b.toNat).toNat = b.toNat := by
  have hb : b.toNat.isValidChar := Or.inl (Nat.lt_trans b.toNat_lt (by decide))
  rw [Char.ofNat, dif_pos hb]
  rfl

@[simp] theorem octets_ofOctets (bytes : Bytes) : octets (ofOctets bytes) = bytes := by
  induction bytes with
  | nil => rfl
  | cons b bytes ih =>
    have hb : (Char.ofNat b.toNat).toNat.toUInt8 = b := by simp [toNat_ofNat_toNat]
    simpa [octets, ofOctets, hb] using ih

end StepRecorder.Text
