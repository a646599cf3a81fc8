import SignedUpgrade.Json.Letter
import SignedUpgrade.Text.Digit

/-!
# Numbers of a document

A number without point and exponent is a whole number as long as it fits a word of sixty-four bits;
every other number is a floating-point number.  Its digits are gathered into a word for as long as
they fit, and the rest only moves the point.

* `Number` — a number that was read;
* `readNumber` — the number that starts at a letter.
-/

namespace SignedUpgrade.Json

open Text

/-- A number. -/
inductive Number where
  | whole (n : Int)
  | decimal (f : Float)

/-- A number that was met where another value was wanted. -/
def Number.found : Number → Found
  | .whole n => .integer n
  | .decimal f => .float (shortestText f)

/-- The character of a letter, if it is an ASCII digit. -/
def digitOf? (letter : Option Char) : Option Char :=
  letter.filter Char.isDigit

/-- The digits at the start of a document, and the letters after them. -/
def digitRun : Letters → List Char × Letters
  | [] => ([], [])
  | letter :: r =>
    match digitOf? letter with
    | some c => let (digits, rest) := digitRun r; (c :: digits, rest)
    | none => ([], letter :: r)

/-- A word with digits gathered onto it for as long as it fits sixty-four bits, and the number of
digits that were left. -/
def gather (word : Nat) : List Char → Nat × Nat
  | [] => (word, 0)
  | c :: r =>
    let wider := word * 10 + digitValue c
    if wider < UInt64.size then gather wider r else (word, r.length + 1)

/-- The power of ten nearest to `10 ^ n`. -/
def tenTo (n : Nat) : Float :=
  Float.ofScientific 1 false n

/-- The greatest power of ten of a floating-point number. -/
def greatestPower : Nat := 308

/-- A word times a power of ten, or nothing where that is too large.  A power far below zero is
taken in steps. -/
def scaled (f : Float) (exponent : Int) : Nat → Option Float
  | 0 => some f
  | fuel + 1 =>
    if exponent.natAbs ≤ greatestPower then
      if 0 ≤ exponent then
        let g := f * tenTo exponent.toNat
        if g.isInf then none else some g
      else some (f / tenTo exponent.natAbs)
    else if f == 0 then some f
    else if 0 ≤ exponent then none
    else scaled (f / tenTo greatestPower) (exponent + greatestPower) fuel

/-- A floating-point number from its sign, its word and its exponent, with the letters after it. -/
def decimalOf (negative : Bool) (word : Nat) (exponent : Int) (rest : Letters) :
    Except Fault (Number × Letters) :=
  match scaled word.toUInt64.toFloat exponent 8 with
  | some f => .ok (.decimal (if negative then -f else f), rest)
  | none => .error .malformed

/-- The largest exponent that is told from larger ones. -/
def greatestExponent : Int := 2147483647

/-- The number after its exponent mark.  An exponent too large to be held makes the number zero, or
too large. -/
def readExponent (negative : Bool) (word : Nat) (exponent : Int) (letters : Letters) :
    Except Fault (Number × Letters) :=
  let (down, letters) := match letters with
    | some '+' :: r => (false, r)
    | some '-' :: r => (true, r)
    | _ => (false, letters)
  match digitRun letters with
  | ([], _) => .error .malformed
  | (digits, rest) =>
    let size : Int := (valueOnto 0 digits).getD 0
    if greatestExponent < size then
      if word ≠ 0 ∧ !down then .error .malformed
      else .ok (.decimal (if negative then -0.0 else 0.0), rest)
    else
      let moved := if down then exponent - size else exponent + size
      decimalOf negative word (max (-greatestExponent - 1) (min greatestExponent moved)) rest

/-- The number from the place where an exponent may follow. -/
def finishNumber (negative : Bool) (word : Nat) (exponent : Int) (letters : Letters) :
    Except Fault (Number × Letters) :=
  match letters with
  | some 'e' :: r | some 'E' :: r => readExponent negative word exponent r
  | _ => decimalOf negative word exponent letters

/-- The number after its point. -/
def readDecimals (negative : Bool) (word exponent : Nat) (letters : Letters) :
    Except Fault (Number × Letters) :=
  match digitRun letters with
  | ([], _) => .error .malformed
  | (digits, rest) =>
    let (word, left) := gather word digits
    finishNumber negative word ((exponent : Int) - (digits.length - left : Nat)) rest

/-- The number after its whole part. -/
def afterWhole (negative : Bool) (digits : List Char) (letters : Letters) :
    Except Fault (Number × Letters) :=
  let (word, left) := gather 0 digits
  match letters with
  | some '.' :: r => readDecimals negative word left r
  | some 'e' :: r | some 'E' :: r => readExponent negative word left r
  | _ =>
    if left = 0 ∧ !negative then .ok (.whole word, letters)
    else if left = 0 ∧ 0 < word ∧ word ≤ UInt64.size / 2 then .ok (.whole (-(word : Int)), letters)
    else decimalOf negative word left letters

/-- The number without its sign that starts at a letter. -/
def readUnsigned (negative : Bool) (letters : Letters) : Except Fault (Number × Letters) :=
  match digitRun letters with
  | ([], _) => .error .malformed
  | ('0' :: _ :: _, _) => .error .malformed
  | (digits, rest) => afterWhole negative digits rest

/-- The number that starts at a letter. -/
def readNumber (letters : Letters) : Except Fault (Number × Letters) :=
  match letters with
  | some '-' :: r => readUnsigned true r
  | _ => readUnsigned false letters

end SignedUpgrade.Json
