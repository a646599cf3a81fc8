/-!
# UTF-8

Program output, response bodies and files are bytes.  `decode` reads them as characters and keeps a
mark, `none`, for each stretch of bytes that is no UTF-8; the two readings of a byte text are then

* `decodeLossy` — every such stretch becomes one replacement character;
* `decodeStrict` — a text with such a stretch is no text at all.

A stretch of bad bytes is as long as a beginning of a character and not longer: after `F0 9F 8E`
and no fourth byte the three bytes are one mark, while `FF FE` is two.
-/

namespace SignedUpgrade.Text

/-- A byte string. -/
abbrev Bytes := List UInt8

namespace Utf8

/-- The bytes of a text. -/
def encodeChars (cs : List Char) : Bytes :=
  cs.flatMap String.utf8EncodeChar

/-- The bytes of a string. -/
def encode (s : String) : Bytes :=
  encodeChars s.toList

/-- Whether a byte lies in a range. -/
def within (low high : Nat) (b : UInt8) : Bool :=
  low ≤ b.toNat && b.toNat ≤ high

/-- How a character goes on after its first byte: the bits the first byte gives, the range of the
second byte, and how many more bytes follow after the second one. -/
structure Lead where
  bits : Nat
  low : Nat
  high : Nat
  more : Nat

/-- What the first byte of a character of two to four bytes announces. -/
def lead? (b : UInt8) : Option Lead :=
  let n := b.toNat
  if within 0xC2 0xDF b then some ⟨n - 0xC0, 0x80, 0xBF, 0⟩
  else if n == 0xE0 then some ⟨0, 0xA0, 0xBF, 1⟩
  else if n == 0xED then some ⟨0xD, 0x80, 0x9F, 1⟩
  else if within 0xE1 0xEF b then some ⟨n - 0xE0, 0x80, 0xBF, 1⟩
  else if n == 0xF0 then some ⟨0, 0x90, 0xBF, 2⟩
  else if within 0xF1 0xF3 b then some ⟨n - 0xF0, 0x80, 0xBF, 2⟩
  else if n == 0xF4 then some ⟨4, 0x80, 0x8F, 2⟩
  else none

/-- Where reading stands between two bytes: between characters, or inside one with the bits read so
far, the range of the next byte and the number of bytes after it. -/
inductive State where
  | between
  | inside (bits low high more : Nat)

/-- The state after a byte that starts a character, and what is known by then. -/
def start (b : UInt8) : State × List (Option Char) :=
  if b.toNat < 0x80 then (.between, [some (Char.ofNat b.toNat)])
  else match lead? b with
    | some l => (.inside l.bits l.low l.high l.more, [])
    | none => (.between, [none])

/-- The state after one more byte, and the characters and marks that the byte settles. -/
def step : State → UInt8 → State × List (Option Char)
  | .between, b => start b
  | .inside bits low high more, b =>
    if within low high b then
      let bits := bits * 64 + (b.toNat - 0x80)
      match more with
      | 0 => (.between, [some (Char.ofNat bits)])
      | more + 1 => (.inside bits 0x80 0xBF more, [])
    else
      -- The byte does not go on with the character, so it starts anew after a mark.
      let (state, found) := start b
      (state, none :: found)

/-- Reads bytes from a state on.  An unfinished character at the end is one mark. -/
def decodeFrom : State → Bytes → List (Option Char)
  | .between, [] => []
  | .inside .., [] => [none]
  | state, b :: r =>
    let (state, found) := step state b
    found ++ decodeFrom state r

/-- The characters of a byte string, with a mark for each stretch that is no UTF-8. -/
def decode (bs : Bytes) : List (Option Char) :=
  decodeFrom .between bs

/-- The text of a byte string with a replacement character for each stretch that is no UTF-8. -/
def decodeLossy (bs : Bytes) : String :=
  String.ofList ((decode bs).map (·.getD '\uFFFD'))

/-- The text of a byte string, if all of it is UTF-8. -/
def decodeStrict (bs : Bytes) : Option String :=
  ((decode bs).mapM id).map String.ofList

end Utf8

end SignedUpgrade.Text
