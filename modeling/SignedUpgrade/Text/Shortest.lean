/-!
# The shortest text of a floating-point number

A number of sixty-four bits stands for an interval of reals, all of which round to it.  Its text has
as few digits as a decimal in this interval can have, and of those decimals the one nearest to the
number.

* `Binary` — a positive number as a whole number times a power of two, with its interval;
* `Decimal` — a whole number times a power of ten;
* `Binary.shortest` — the shortest decimal of a number;
* `Decimal.text` — how a decimal is written.
-/

namespace SignedUpgrade.Text

/-- The number `mantissa * 2 ^ exponent`.  Where the number below is only half as far away as the
number above, the interval is shorter on that side. -/
structure Binary where
  mantissa : Nat
  exponent : Int
  closeBelow : Bool
  deriving Repr

/-- The number `digits * 10 ^ exponent`. -/
structure Decimal where
  digits : Nat
  exponent : Int
  deriving DecidableEq, Repr, Inhabited

namespace Binary

/-- The positive number with the given bits, the sign left out; nothing for zero. -/
def ofBits? (bits : Nat) : Option Binary :=
  let fraction : Nat := bits % Nat.pow 2 52
  let power : Nat := bits / Nat.pow 2 52 % Nat.pow 2 11
  if power = 0 then if fraction = 0 then none else some ⟨fraction, -1074, false⟩
  else some ⟨Nat.pow 2 52 + fraction, (power : Int) - 1075, fraction = 0 && 1 < power⟩

/-- Compares `digits * 10 ^ e` with `quarters / 4 * 2 ^ q`. -/
def compareTo (d : Decimal) (quarters : Nat) (q : Int) : Ordering :=
  let left := d.digits * Nat.pow 10 d.exponent.toNat * Nat.pow 2 (2 - q).toNat
  let right := quarters * Nat.pow 2 (q - 2).toNat * Nat.pow 10 (-d.exponent).toNat
  compare left right

/-- Whether a decimal rounds to the number.  The two ends do so if the mantissa is even. -/
def holds (b : Binary) (d : Decimal) : Bool :=
  let low := compareTo d (4 * b.mantissa - (if b.closeBelow then 1 else 2)) b.exponent
  let high := compareTo d (4 * b.mantissa + 2) b.exponent
  let even := b.mantissa % 2 == 0
  (low == .gt || (even && low == .eq)) && (high == .lt || (even && high == .eq))

/-- The whole part of the number over a power of ten. -/
def wholeOver (b : Binary) (power : Int) : Nat :=
  b.mantissa * Nat.pow 2 b.exponent.toNat * Nat.pow 10 (-power).toNat
    / (Nat.pow 2 (-b.exponent).toNat * Nat.pow 10 power.toNat)

/-- The greatest power of ten that is not above the number, searched from a guess down. -/
def magnitudeFrom (b : Binary) : Nat → Int → Int
  | 0, power => power
  | fuel + 1, power => if 1 ≤ wholeOver b power then power else magnitudeFrom b fuel (power - 1)

/-- The exponent of the greatest power of ten that is not above the number. -/
def magnitude (b : Binary) : Int :=
  magnitudeFrom b 640 310

/-- The nearer one of the two decimals around the number on the grid of a power of ten, if one of
them rounds to the number.  Of two at the same distance it is the even one. -/
def onGrid? (b : Binary) (power : Int) : Option Decimal :=
  let below : Decimal := ⟨wholeOver b power, power⟩
  let above : Decimal := ⟨below.digits + 1, power⟩
  match b.holds below, b.holds above with
  | false, false => none
  | true, false => some below
  | false, true => some above
  | true, true =>
    -- The number lies above the middle of the two iff twice the middle is below twice the number.
    match compareTo ⟨2 * below.digits + 1, power⟩ (8 * b.mantissa) b.exponent with
    | .lt => some above
    | .gt => some below
    | .eq => some (if below.digits % 2 = 0 then below else above)

/-- The first decimal found on ever finer grids. -/
def shortestFrom (b : Binary) (start : Int) : Nat → Nat → Decimal
  | 0, _ => ⟨0, 0⟩
  | fuel + 1, finer =>
    match b.onGrid? (start - finer) with
    | some d => d
    | none => shortestFrom b start fuel (finer + 1)

/-- The shortest decimal that rounds to the number; seventeen digits are always enough. -/
def shortest (b : Binary) : Decimal :=
  b.shortestFrom b.magnitude 18 0

end Binary

namespace Decimal

/-- A decimal without zeros at its end. -/
def trimZeros (d : Decimal) : Nat → Decimal
  | 0 => d
  | fuel + 1 =>
    if d.digits ≠ 0 ∧ d.digits % 10 = 0 then trimZeros ⟨d.digits / 10, d.exponent + 1⟩ fuel else d

/-- The text of a decimal: positional where the point stands within sixteen digits or at most four
zeros before them, and with an exponent otherwise. -/
def text (d : Decimal) : String :=
  let d := d.trimZeros 20
  let digits := Nat.toDigits 10 d.digits
  let point := digits.length + d.exponent
  if 0 ≤ d.exponent ∧ point ≤ 16 then
    String.ofList (digits ++ List.replicate d.exponent.toNat '0') ++ ".0"
  else if 0 < point ∧ point ≤ 16 then
    String.ofList (digits.take point.toNat) ++ "." ++ String.ofList (digits.drop point.toNat)
  else if -5 < point ∧ point ≤ 0 then
    "0." ++ String.ofList (List.replicate (-point).toNat '0' ++ digits)
  else
    String.ofList (digits.take 1)
      ++ (if digits.length = 1 then "" else "." ++ String.ofList (digits.drop 1))
      ++ "e" ++ toString (point - 1)

end Decimal

/-- The shortest text of a finite number. -/
def shortestText (f : Float) : String :=
  let bits := f.toBits.toNat
  let sign := if bits / Nat.pow 2 63 = 0 then "" else "-"
  match Binary.ofBits? bits with
  | none => sign ++ "0.0"
  | some b => sign ++ b.shortest.text

end SignedUpgrade.Text
