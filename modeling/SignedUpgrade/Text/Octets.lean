import SignedUpgrade.Text.Utf8

/-!
# Texts of bytes

Where a text need not be well-formed, each of its characters stands for one byte.

* `Octets.ofBytes`, `Octets.toBytes` — the text of some bytes, and back;
* `Octets.ofText` — the text of the bytes of an ordinary text.

The main statement is `Octets.toBytes_ofBytes`: no byte is lost.
-/

namespace SignedUpgrade.Text.Octets

/-- The text of some bytes. -/
def ofBytes (bytes : Bytes) : String :=
  String.ofList (bytes.map fun b => Char.ofNat b.toNat)

/-- The bytes that the characters of a text stand for. -/
def bytesOf (cs : List Char) : Bytes :=
  cs.map fun c => c.toNat.toUInt8

/-- The bytes that a text stands for. -/
def toBytes (s : String) : Bytes :=
  bytesOf s.toList

/-- The text of the bytes of an ordinary text. -/
def ofText (s : String) : String :=
  ofBytes (Utf8.encode s)

/-- The character of a byte has the number of the byte. -/
theorem toNat_ofNat_toNat (b : UInt8) : (Char.ofNat b.toNat).toNat = b.toNat := by
  have small : b.toNat < 256 := b.toNat_lt
  have valid : b.toNat.isValidChar := Or.inl (by omega)
  rw [Char.ofNat, dif_pos valid]
  rfl

/-- The bytes of a text are those that it was made of. -/
theorem toBytes_ofBytes (bytes : Bytes) : toBytes (ofBytes bytes) = bytes := by
  simp [toBytes, bytesOf, ofBytes, Function.comp_def, toNat_ofNat_toNat]

end SignedUpgrade.Text.Octets
