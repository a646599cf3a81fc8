import SignedUpgrade.Text.Utf8

/-!
# Base64

Keys travel as base64: four symbols of the standard alphabet for three bytes, with padding that is
required and canonical, so that every byte string has exactly one written form.

* `encode` — the written form of a byte string;
* `decode` — the byte string of a written form, or the first `Fault` of the text;
* `Fault.message` — the wording of a fault, with the byte and the offset it was met at.

A fault is looked for in this order: a stray last byte that no group of four could hold, the groups
before the last one, and then the last group from left to right.
-/

namespace SignedUpgrade.Text.Base64

/-- The byte of the padding sign. -/
def pad : UInt8 := 0x3D

/-- The symbol of a value below sixty-four. -/
def symbol (v : Nat) : UInt8 :=
  if v < 26 then (0x41 + v).toUInt8
  else if v < 52 then (0x47 + v).toUInt8
  else if v < 62 then (v - 4).toUInt8
  else if v = 62 then 0x2B
  else 0x2F

/-- The value of a symbol. -/
def value? (b : UInt8) : Option Nat :=
  let n := b.toNat
  if 0x41 ≤ n ∧ n ≤ 0x5A then some (n - 0x41)
  else if 0x61 ≤ n ∧ n ≤ 0x7A then some (n - 0x47)
  else if 0x30 ≤ n ∧ n ≤ 0x39 then some (n + 4)
  else if n = 0x2B then some 62
  else if n = 0x2F then some 63
  else none

/-! ## Writing -/

/-- The written form of a byte string. -/
def encode : Bytes → Bytes
  | [] => []
  | [a] => [symbol (a.toNat / 4), symbol (a.toNat % 4 * 16), pad, pad]
  | [a, b] =>
    [symbol (a.toNat / 4), symbol (a.toNat % 4 * 16 + b.toNat / 16), symbol (b.toNat % 16 * 4), pad]
  | a :: b :: c :: r =>
    symbol (a.toNat / 4) :: symbol (a.toNat % 4 * 16 + b.toNat / 16)
      :: symbol (b.toNat % 16 * 4 + c.toNat / 64) :: symbol (c.toNat % 64) :: encode r

/-- The written form as a string. -/
def encodeString (bs : Bytes) : String :=
  String.ofList ((encode bs).map fun b => Char.ofNat b.toNat)

/-! ## Reading -/

/-- What is wrong with a text that is no written form. -/
inductive Fault where
  /-- A byte that may not stand where it stands. -/
  | symbol (byte : UInt8) (offset : Nat)
  /-- The last group is too short to hold a byte; the number counts the usable symbols. -/
  | length (count : Nat)
  /-- The last symbol has bits that belong to no byte. -/
  | lastSymbol (byte : UInt8) (offset : Nat)
  /-- Padding is missing or there is too much of it. -/
  | padding
  deriving DecidableEq, Repr

/-- The wording of a fault. -/
def Fault.message : Fault → String
  | .symbol byte offset => s!"Invalid symbol {byte.toNat}, offset {offset}."
  | .length count => s!"Invalid input length: {count}"
  | .lastSymbol byte offset => s!"Invalid last symbol {byte.toNat}, offset {offset}."
  | .padding => "Invalid padding"

/-- The values of symbols that stand from an offset on. -/
def values (offset : Nat) : Bytes → Except Fault (List Nat)
  | [] => .ok []
  | b :: r =>
    match value? b with
    | none => .error (.symbol b offset)
    | some v => do
      let vs ← values (offset + 1) r
      return v :: vs

/-- The bytes of groups of four values. -/
def join : List Nat → Bytes
  | a :: b :: c :: d :: r =>
    (a * 4 + b / 16).toUInt8 :: (b % 16 * 16 + c / 4).toUInt8 :: (c % 4 * 64 + d).toUInt8 :: join r
  | _ => []

/-- The last group as far as it was read: its symbols with their values, and its padding. -/
structure LastGroup where
  symbols : List (UInt8 × Nat) := []
  padding : Nat := 0
  deriving Repr

/-- Reads the last group, which starts at `offset`, from left to right. -/
def lastGroup (offset : Nat) (seen : LastGroup) : Bytes → Except Fault LastGroup
  | [] => .ok seen
  | b :: r =>
    let here := offset + seen.symbols.length + seen.padding
    if b = pad then
      if here < offset + 2 then .error (.symbol pad here)
      else lastGroup offset { seen with padding := seen.padding + 1 } r
    else if seen.padding ≠ 0 then .error (.symbol pad (offset + seen.symbols.length))
    else match value? b with
      | none => .error (.symbol b here)
      | some v => lastGroup offset { seen with symbols := seen.symbols ++ [(b, v)] } r

/-- The bytes of a last group that starts at `offset`. -/
def finish (offset : Nat) (last : LastGroup) : Except Fault Bytes :=
  let count := last.symbols.length
  if count < 2 then .error (.length (offset + count))
  else if (count + last.padding) % 4 ≠ 0 then .error .padding
  else match last.symbols with
    | [(_, a), (s, b)] =>
      if b % 16 ≠ 0 then .error (.lastSymbol s (offset + 1)) else .ok [(a * 4 + b / 16).toUInt8]
    | [(_, a), (_, b), (s, c)] =>
      if c % 4 ≠ 0 then .error (.lastSymbol s (offset + 2))
      else .ok [(a * 4 + b / 16).toUInt8, (b % 16 * 16 + c / 4).toUInt8]
    | symbols => .ok (join (symbols.map (·.2)))

/-- How many bytes stand before the last group of a text with `n` bytes. -/
def bodyLength (n : Nat) : Nat :=
  (n - 1) / 4 * 4

/-- Whether the last byte of a text stands alone in its group and is no symbol at all. -/
def strayLast? (text : Bytes) : Option UInt8 :=
  if text.length % 4 = 1 then
    text.getLast?.filter fun b => b ≠ pad && (value? b).isNone
  else none

/-- The byte string of a written form, or the first fault of the text. -/
def decode (text : Bytes) : Except Fault Bytes :=
  match text, strayLast? text with
  | [], _ => .ok []
  | _, some b => .error (.symbol b (text.length - 1))
  | _, none => do
    let offset := bodyLength text.length
    let body ← values 0 (text.take offset)
    let last ← lastGroup offset {} (text.drop offset)
    let tail ← finish offset last
    return join body ++ tail

end SignedUpgrade.Text.Base64
