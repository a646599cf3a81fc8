import SignedUpgrade.Text.Blank
import SignedUpgrade.Text.Digit
import SignedUpgrade.Time.Timestamp

/-!
# Reading points in time

A point in time is read from the common internet form, `2024-05-06T07:08:09.5+02:00`, with some
freedom: numbers may lack leading zeros, blanks may stand around the separators, a blank may stand
for the `T`, and the offset may be written without its colon.

* `Timestamp.read?` — the point that a text stands for, if all of it is one.
-/

namespace SignedUpgrade

open Text

namespace Timestamp

/-- The value of up to `most` digits at the start of a text, of which there must be one. -/
def number? (most : Nat) (cs : List Char) : Option (Nat × List Char) :=
  let digits := (cs.take most).takeWhile Char.isDigit
  (asciiValue? digits).map fun n => (n, cs.drop digits.length)

/-- A number that may have blanks before it. -/
def spacedNumber? (most : Nat) (cs : List Char) : Option (Nat × List Char) :=
  number? most (trimStart cs)

/-- A year: up to four digits, or a sign and any number of digits. -/
def year? (cs : List Char) : Option (Int × List Char) :=
  match trimStart cs with
  | '-' :: r => (number? r.length r).map fun (n, r) => (-(n : Int), r)
  | '+' :: r => (number? r.length r).map fun (n, r) => ((n : Int), r)
  | r => (number? 4 r).map fun (n, r) => ((n : Int), r)

/-- A separator that may have blanks before it. -/
def separator? (c : Char) (cs : List Char) : Option (List Char) :=
  match trimStart cs with
  | d :: r => if d = c then some r else none
  | [] => none

/-- The decimals of a second, in nanoseconds.  Digits after the ninth one are dropped. -/
def fraction? (cs : List Char) : Option (Nat × List Char) :=
  match cs with
  | '.' :: r =>
    match number? 9 r with
    | none => none
    | some (n, rest) =>
      some (n * Nat.pow 10 (9 - (r.length - rest.length)), rest.dropWhile Char.isDigit)
  | _ => some (0, cs)

/-- Whether a text begins with the three letters of universal time, in any case. -/
def universal? (cs : List Char) : Option (List Char) :=
  if (cs.take 3).map Char.toUpper = ['U', 'T', 'C'] then some (cs.drop 3) else none

/-- The sign of an offset; the mathematical minus counts as one. -/
def offsetSign? : List Char → Option (Int × List Char)
  | '+' :: r => some (1, r)
  | '-' :: r => some (-1, r)
  | '\u2212' :: r => some (-1, r)
  | _ => none

/-- A number of exactly two digits. -/
def twoDigits? : List Char → Option (Nat × List Char)
  | a :: b :: r =>
    if a.isDigit && b.isDigit then some (digitValue a * 10 + digitValue b, r) else none
  | _ => none

/-- An offset from universal time in minutes. -/
def offset? (cs : List Char) : Option (Int × List Char) :=
  match universal? cs, cs with
  | some r, _ => some (0, r)
  | none, 'Z' :: r => some (0, r)
  | none, 'z' :: r => some (0, r)
  | none, _ => do
    let (sign, r) ← offsetSign? cs
    let (hours, r) ← twoDigits? r
    let (minutes, r) ← twoDigits? (r.dropWhile fun c => c == ':' || isBlank c)
    if minutes < 60 then some (sign * (hours * 60 + minutes), r) else none

/-- The letter between date and time. -/
def timeMark? : List Char → Option (List Char)
  | 'T' :: r => some r
  | 't' :: r => some r
  | ' ' :: r => some r
  | _ => none

/-- The point in time that a text stands for. -/
def read? (text : String) : Option Timestamp := do
  let (year, r) ← year? text.toList
  let r ← separator? '-' r
  let (month, r) ← spacedNumber? 2 r
  let r ← separator? '-' r
  let (day, r) ← spacedNumber? 2 r
  let r ← timeMark? r
  let (hour, r) ← spacedNumber? 2 r
  let r ← separator? ':' r
  let (minute, r) ← spacedNumber? 2 r
  let r ← separator? ':' r
  let (second, r) ← spacedNumber? 2 r
  let (nanosecond, r) ← fraction? r
  let (offset, r) ← offset? (trimStart r)
  let date : CalendarDay := ⟨year, month, day⟩
  let atOffset : CivilTime :=
    if second = 60 then ⟨date, hour, minute, 59, oneSecond + nanosecond⟩
    else ⟨date, hour, minute, second, nanosecond⟩
  if (trimStart r).isEmpty && decide (offset.natAbs < 1440) then
    (← atOffset.point?).earlier offset
  else none

end Timestamp

end SignedUpgrade
