/-!
# Decimal digits and whole numbers

Two notions of a digit meet when a version or a timeout is read: `isDecimal`, the Unicode category
`Nd`, decides where a run of digits begins and ends, while only ASCII digits carry a value.

* `isDecimal` — the Unicode decimal digits;
* `asciiValue?` — the value of a run of ASCII digits;
* `word64?` — a whole number below `2 ^ 64`, with at most one plus sign before it.
-/

namespace SignedUpgrade.Text

/-- The code points of the zeros of all decimal digit systems.  The nine other digits of a system
follow its zero. -/
def decimalZeros : List Nat :=
  [0x30, 0x660, 0x6F0, 0x7C0, 0x966, 0x9E6, 0xA66, 0xAE6, 0xB66, 0xBE6, 0xC66, 0xCE6, 0xD66, 0xDE6,
   0xE50, 0xED0, 0xF20, 0x1040, 0x1090, 0x17E0, 0x1810, 0x1946, 0x19D0, 0x1A80, 0x1A90, 0x1B50,
   0x1BB0, 0x1C40, 0x1C50, 0xA620, 0xA8D0, 0xA900, 0xA9D0, 0xA9F0, 0xAA50, 0xABF0, 0xFF10, 0x104A0,
   0x10D30, 0x10D40, 0x11066, 0x110F0, 0x11136, 0x111D0, 0x112F0, 0x11450, 0x114D0, 0x11650,
   0x116C0, 0x116D0, 0x116DA, 0x11730, 0x118E0, 0x11950, 0x11BF0, 0x11C50, 0x11D50, 0x11DA0,
   0x11F50, 0x16130, 0x16A60, 0x16AC0, 0x16B50, 0x16D70, 0x1CCF0, 0x1D7CE, 0x1D7D8, 0x1D7E2,
   0x1D7EC, 0x1D7F6, 0x1E140, 0x1E2F0, 0x1E4F0, 0x1E5F1, 0x1E950, 0x1FBF0]

/-- The decimal digits of all scripts: the Unicode category `Nd`. -/
def isDecimal (c : Char) : Bool :=
  decimalZeros.any fun first => first ≤ c.toNat && c.toNat ≤ first + 9

/-- Every ASCII digit is a decimal digit. -/
theorem isDecimal_of_isDigit {c : Char} (h : c.isDigit = true) : isDecimal c = true := by
  simp only [Char.isDigit, Bool.and_eq_true, decide_eq_true_eq, UInt32.le_iff_toNat_le] at h
  have low : 48 ≤ c.toNat := h.1
  have high : c.toNat ≤ 57 := h.2
  simp [isDecimal, decimalZeros, low, high]

/-- The value of an ASCII digit. -/
def digitValue (c : Char) : Nat :=
  c.toNat - '0'.toNat

/-- The value of a text of ASCII digits, read from the left onto the value of what stood before. -/
def valueOnto (before : Nat) : List Char → Option Nat
  | [] => some before
  | c :: r => if c.isDigit then valueOnto (before * 10 + digitValue c) r else none

/-- The value of a non-empty text of ASCII digits. -/
def asciiValue? : List Char → Option Nat
  | [] => none
  | cs => valueOnto 0 cs

/-- A whole number that fits sixty-four bits: ASCII digits with at most one plus sign before them. -/
def word64? (cs : List Char) : Option UInt64 :=
  let digits := match cs with
    | '+' :: r => r
    | _ => cs
  match asciiValue? digits with
  | some n => if n < UInt64.size then some n.toUInt64 else none
  | none => none

end SignedUpgrade.Text
