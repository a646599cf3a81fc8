import SignedUpgrade.Text.Case
import SignedUpgrade.Text.Digit
import SignedUpgrade.Text.Hex
import SignedUpgrade.Text.Split
import SignedUpgrade.Text.Utf8

/-!
# Hosts

The host of an address is a name or a number, and each host has one written form.

* `percentEncode`, `percentDecode` — bytes as a per cent sign with two digits;
* `Punycode.encode` — a name of any script in the letters that names may have;
* `readHost` — the written form of a host, if the text is one.
-/

namespace SignedUpgrade.Net

open Text

/-! ## Per cent signs -/

/-- A byte as a per cent sign with two digits. -/
def percentByte (b : UInt8) : List Char :=
  let digit := fun (n : Nat) => if n < 10 then Char.ofNat (0x30 + n) else Char.ofNat (0x37 + n)
  ['%', digit (b.toNat / 16), digit (b.toNat % 16)]

/-- Whether a character is a control or not in ASCII, and so never stands in an address. -/
def isUnwritable (c : Char) : Bool :=
  c.toNat < 0x20 || 0x7F ≤ c.toNat

/-- A text with the bytes of some characters, and of all that are unwritable, encoded. -/
def percentEncode (also : List Char) (cs : List Char) : List Char :=
  cs.flatMap fun c =>
    if isUnwritable c || also.contains c then (Utf8.encodeChars [c]).flatMap percentByte else [c]

/-- The bytes of a text with its encoded bytes decoded. -/
def percentDecode : List Char → Bytes
  | [] => []
  | '%' :: a :: b :: r =>
    match Hex.value? a, Hex.value? b with
    | some high, some low => (high * 16 + low).toUInt8 :: percentDecode r
    | _, _ => Utf8.encodeChars ['%'] ++ percentDecode (a :: b :: r)
  | c :: r => Utf8.encodeChars [c] ++ percentDecode r

/-! ## Names of any script -/

namespace Punycode

/-- The letter or digit of a value below thirty-six. -/
def digit (n : Nat) : Char :=
  if n < 26 then Char.ofNat (0x61 + n) else Char.ofNat (0x30 + (n - 26))

/-- The threshold of the digit at a position. -/
def threshold (bias position : Nat) : Nat :=
  max 1 (min 26 (position - bias))

/-- The digits of a distance. -/
def digits (bias : Nat) : (fuel : Nat) → (position distance : Nat) → List Char
  | 0, _, _ => []
  | fuel + 1, position, distance =>
    let t := threshold bias position
    if distance < t then [digit distance]
    else digit (t + (distance - t) % (36 - t)) ::
      digits bias fuel (position + 36) ((distance - t) / (36 - t))

/-- Halves a distance down into the range of a single digit. -/
def settle : (fuel : Nat) → (distance turns : Nat) → Nat
  | 0, _, turns => turns
  | fuel + 1, distance, turns =>
    if 455 < distance then settle fuel (distance / 35) (turns + 36)
    else turns + 36 * distance / (distance + 38)

/-- The bias after a distance was written. -/
def adapt (distance points : Nat) (first : Bool) : Nat :=
  let distance := if first then distance / 700 else distance / 2
  settle 32 (distance + distance / points) 0

/-- Where the encoding of a name stands: the distance so far, the bias, and the number of characters
that are written. -/
structure State where
  distance : Nat := 0
  bias : Nat := 72
  written : Nat

/-- Goes over a name once to write the places of one code point. -/
def place (code : Nat) (first : Nat) : State → List Char → State × List Char
  | state, [] => (state, [])
  | state, c :: r =>
    if c.toNat < code then place code first { state with distance := state.distance + 1 } r
    else if c.toNat = code then
      let found := digits state.bias 64 36 state.distance
      let bias := adapt state.distance (state.written + 1) (state.written = first)
      let (state, rest) :=
        place code first { distance := 0, bias, written := state.written + 1 } r
      (state, found ++ rest)
    else place code first state r

/-- Writes the places of all code points in ascending order. -/
def places (name : List Char) (first : Nat) : State → (previous : Nat) → List Nat → List Char
  | _, _, [] => []
  | state, previous, code :: codes =>
    let moved := state.distance + (code - previous) * (state.written + 1)
    let (state, found) := place code first { state with distance := moved } name
    found ++ places name first { state with distance := state.distance + 1 } (code + 1) codes

/-- The encoded form of a name, without the mark before it. -/
def encode (name : List Char) : List Char :=
  let basic := name.filter fun c => c.toNat < 0x80
  let codes := ((name.filter fun c => 0x80 ≤ c.toNat).map Char.toNat).mergeSort.eraseDups
  let start := if basic.isEmpty then [] else basic ++ ['-']
  start ++ places name basic.length { written := basic.length } 0x80 codes

end Punycode

/-- The characters that are left out of names: they only advise on how a text is shown. -/
def isLeftOut (c : Char) : Bool :=
  [0xAD, 0x34F, 0x200B, 0x2060, 0x2064, 0xFEFF].contains c.toNat
    || (0x180B ≤ c.toNat && c.toNat ≤ 0x180D) || (0xFE00 ≤ c.toNat && c.toNat ≤ 0xFE0F)

/-- A name in the letters that names may have. -/
def asciiName (name : List Char) : List Char :=
  let name := name.filter fun c => !isLeftOut c
  let label := fun (l : List Char) =>
    let l := (lower (String.ofList l)).toList
    if l.all fun c => c.toNat < 0x80 then l else ['x', 'n', '-', '-'] ++ Punycode.encode l
  let dots := name.map fun c => if c = '\u3002' ∨ c = '\uFF0E' ∨ c = '\uFF61' then '.' else c
  joinWith '.' ((splitOn '.' dots).map label)

/-! ## Numbers -/

/-- A part of a host that is a number: decimal, octal after a zero, or hexadecimal. -/
def numberPart? (part : List Char) : Option Nat :=
  let value := fun (base : Nat) (digits : List Char) =>
    digits.foldlM (fun n c => ((Hex.value? c).filter (· < base)).map (n * base + ·)) 0
  match part with
  | [] => none
  | ['0'] => some 0
  | '0' :: 'x' :: r => value 16 r
  | '0' :: 'X' :: r => value 16 r
  | '0' :: r => value 8 r
  | _ => value 10 part

/-- The parts of a host, without an empty one at its end. -/
def hostParts (host : List Char) : List (List Char) :=
  let parts := splitOn '.' host
  if 1 < parts.length ∧ parts.getLast? = some [] then parts.dropLast else parts

/-- Whether a host ends in a number, which makes all of it a number. -/
def endsInNumber (host : List Char) : Bool :=
  match (hostParts host).getLast? with
  | some [] => false
  | some last => last.all Char.isDigit || (numberPart? last).isSome
  | none => false

/-- The value of a host that is a number of up to four parts. -/
def fourPartNumber? (host : List Char) : Option Nat := do
  let parts := hostParts host
  if 4 < parts.length then none
  let values ← parts.mapM numberPart?
  let last ← values.getLast?
  let before := values.dropLast
  if before.all (· < 256) ∧ last < Nat.pow 256 (5 - parts.length) then
    let high := ((List.range before.length).zip before).map fun (i, v) => v * Nat.pow 256 (3 - i)
    return high.foldl (· + ·) last
  else none

/-- The four parts of a number. -/
def fourParts (n : Nat) : String :=
  s!"{n / 256 / 256 / 256}.{n / 256 / 256 % 256}.{n / 256 % 256}.{n % 256}"

/-- The groups between colons, of which the last one may be a number of four parts. -/
def colonGroups? (text : List Char) : Option (List Nat) :=
  if text.isEmpty then some []
  else
    let groups := splitOn ':' text
    let group := fun (g : List Char) =>
      if g.isEmpty ∨ 4 < g.length then none
      else g.foldlM (fun n c => (Hex.value? c).map (n * 16 + ·)) 0
    match groups.getLast? with
    | some last =>
      if last.contains '.' then do
        let before ← groups.dropLast.mapM group
        let parts := splitOn '.' last
        let plain := parts.all fun p => p.all Char.isDigit && (p.head? ≠ some '0' || p.length = 1)
        let values ← parts.mapM asciiValue?
        match values with
        | [a, b, c, d] =>
          if plain && values.all (· < 256) then some (before ++ [a * 256 + b, c * 256 + d]) else none
        | _ => none
      else groups.mapM group
    | none => none

/-- The text before the first double colon, and the text after it. -/
def splitDouble : List Char → Option (List Char × List Char)
  | ':' :: ':' :: r => some ([], r)
  | c :: r => (splitDouble r).map fun (before, after) => (c :: before, after)
  | [] => none

/-- The eight groups of a number between brackets. -/
def eightGroups? (text : List Char) : Option (List Nat) :=
  match splitDouble text with
  | none => (colonGroups? text).filter (·.length = 8)
  | some (before, after) => do
    let before ← colonGroups? before
    let after ← colonGroups? after
    let count := before.length + after.length
    if 7 < count then none else some (before ++ List.replicate (8 - count) 0 ++ after)

/-- The length of the run of zeros at the start of some groups. -/
def zeroRun (groups : List Nat) : Nat :=
  (groups.takeWhile (· = 0)).length

/-- The first of the longest runs of at least two zeros: its place and its length. -/
def longestZeros (groups : List Nat) : Nat × Nat :=
  (List.range groups.length).foldl
    (fun best i =>
      let run := zeroRun (groups.drop i)
      if 2 ≤ run ∧ best.2 < run then (i, run) else best) (0, 0)

/-- Eight groups between brackets, the longest run of zeros left out. -/
def bracketed (groups : List Nat) : String :=
  let shown := fun (gs : List Nat) =>
    ":".intercalate (gs.map fun n => String.ofList (Nat.toDigits 16 n))
  let (place, run) := longestZeros groups
  if run = 0 then "[" ++ shown groups ++ "]"
  else "[" ++ shown (groups.take place) ++ "::" ++ shown (groups.drop (place + run)) ++ "]"

/-! ## Hosts -/

/-- The characters that no host holds. -/
def isForbidden (c : Char) : Bool :=
  c == '\x00' || c == '\t' || c == '\n' || c == '\r' || " #/:<>?@[\\]^|".toList.contains c

/-- The characters that no name holds. -/
def isForbiddenInName (c : Char) : Bool :=
  isForbidden c || isUnwritable c || c == '%'

/-- A host between brackets. -/
def readBracketed (text : List Char) : Option String :=
  match text.getLast? with
  | some ']' => (eightGroups? text.dropLast).map bracketed
  | _ => none

/-- The written form of a host.  In the special schemes a host is a name or a number; in the others
it is any text. -/
def readHost (special : Bool) (text : List Char) : Option String :=
  match text with
  | '[' :: r => readBracketed r
  | _ =>
    if special then do
      let decoded := (Utf8.decodeLossy (percentDecode text)).toList
      let name := asciiName decoded
      if name.isEmpty || name.any isForbiddenInName then none
      else if endsInNumber name then (fourPartNumber? name).map fourParts
      else some (String.ofList name)
    else if text.any isForbidden then none
    else some (String.ofList (percentEncode [] text))

end SignedUpgrade.Net
