import SignedUpgrade.Text.Utf8

/-!
# Hexadecimal bytes

Digests are shown, and bytes are given, as two hexadecimal digits per byte.
-/

namespace SignedUpgrade.Text.Hex

/-- The lower-case digit of a value below sixteen. -/
def digit (n : Nat) : Char :=
  if n < 10 then Char.ofNat (0x30 + n) else Char.ofNat (0x57 + n)

/-- The value of a digit of either case. -/
def value? (c : Char) : Option Nat :=
  let n := c.toNat
  if 0x30 ≤ n && n ≤ 0x39 then some (n - 0x30)
  else if 0x61 ≤ n && n ≤ 0x66 then some (n - 0x57)
  else if 0x41 ≤ n && n ≤ 0x46 then some (n - 0x37)
  else none

/-- Two lower-case digits per byte. -/
def encode (bs : Bytes) : String :=
  String.ofList (bs.flatMap fun b => [digit (b.toNat / 16), digit (b.toNat % 16)])

/-- The bytes of a text of digit pairs, if it is one. -/
def decodeChars : List Char → Option Bytes
  | [] => some []
  | [_] => none
  | a :: b :: r => do
    let high ← value? a
    let low ← value? b
    let rest ← decodeChars r
    return (high * 16 + low).toUInt8 :: rest

/-- The bytes of a string of digit pairs, if it is one. -/
def decode (s : String) : Option Bytes :=
  decodeChars s.toList

end SignedUpgrade.Text.Hex
