/-!
# Points in time

An audit record says when it was written.  A point in time is kept as its civil date and time in
UTC, to the nanosecond.

* `CivilTime` — a date and a time of day, which need not exist;
* `Timestamp` — those that exist, which `CivilTime.point?` checks;
* `Timestamp.afterEpoch?` — the point that a clock shows by the seconds it has counted;
* `Timestamp.earlier` — the point some minutes before another one, which takes an offset away;
* `Timestamp.text` — the written form, which ends in `Z` and has as few decimals as lose nothing.
-/

namespace SignedUpgrade

/-- Whether a year has a twenty-ninth of February. -/
def isLeapYear (year : Int) : Bool :=
  year % 4 == 0 && (year % 100 != 0 || year % 400 == 0)

/-- The number of days of a month. -/
def daysInMonth (year : Int) (month : Nat) : Nat :=
  if month = 2 then (if isLeapYear year then 29 else 28)
  else if month = 4 ∨ month = 6 ∨ month = 9 ∨ month = 11 then 30
  else 31

/-- A day of the calendar. -/
structure CalendarDay where
  year : Int
  month : Nat
  day : Nat
  deriving DecidableEq, Repr, Inhabited

namespace CalendarDay

/-- The first year of the calendar. -/
def firstYear : Int := -262143

/-- The last year of the calendar. -/
def lastYear : Int := 262142

/-- Whether a date exists and lies in the calendar. -/
def isValid (d : CalendarDay) : Bool :=
  decide (firstYear ≤ d.year) && decide (d.year ≤ lastYear) && decide (1 ≤ d.month)
    && decide (d.month ≤ 12) && decide (1 ≤ d.day) && decide (d.day ≤ daysInMonth d.year d.month)

/-- The day after a day. -/
def next (d : CalendarDay) : CalendarDay :=
  if d.day < daysInMonth d.year d.month then { d with day := d.day + 1 }
  else if d.month < 12 then { d with month := d.month + 1, day := 1 }
  else ⟨d.year + 1, 1, 1⟩

/-- The day before a day. -/
def previous (d : CalendarDay) : CalendarDay :=
  if 1 < d.day then { d with day := d.day - 1 }
  else if 1 < d.month then ⟨d.year, d.month - 1, daysInMonth d.year (d.month - 1)⟩
  else ⟨d.year - 1, 12, 31⟩

end CalendarDay

/-- One second in nanoseconds. -/
def oneSecond : Nat := 1000000000

/-- A date and a time of day in numbers, whether they exist or not. -/
structure CivilTime where
  date : CalendarDay
  hour : Nat
  minute : Nat
  second : Nat
  nanosecond : Nat
  deriving DecidableEq, Repr

/-- A date and a time of day that exist.  The nanoseconds go on beyond the second in a leap second
only, which stands at the end of a minute. -/
structure CivilTime.IsValid (t : CivilTime) : Prop where
  date : t.date.isValid = true
  hour : t.hour ≤ 23
  minute : t.minute ≤ 59
  second : t.second ≤ 59
  nanosecond : t.nanosecond < oneSecond ∨ t.second = 59 ∧ t.nanosecond < 2 * oneSecond

instance (t : CivilTime) : Decidable t.IsValid :=
  decidable_of_iff (t.date.isValid = true ∧ t.hour ≤ 23 ∧ t.minute ≤ 59 ∧ t.second ≤ 59
      ∧ (t.nanosecond < oneSecond ∨ t.second = 59 ∧ t.nanosecond < 2 * oneSecond))
    ⟨fun ⟨date, hour, minute, second, nanosecond⟩ => ⟨date, hour, minute, second, nanosecond⟩,
      fun valid => ⟨valid.date, valid.hour, valid.minute, valid.second, valid.nanosecond⟩⟩

/-- A point in time. -/
structure Timestamp extends CivilTime where
  valid : toCivilTime.IsValid
  deriving DecidableEq, Repr

/-- The point in time that a date and a time of day tell, if they exist. -/
def CivilTime.point? (t : CivilTime) : Option Timestamp :=
  if valid : t.IsValid then some { t with valid } else none

namespace Timestamp

/-- The start of the year 1970. -/
def epoch : Timestamp where
  date := ⟨1970, 1, 1⟩
  hour := 0
  minute := 0
  second := 0
  nanosecond := 0
  valid := by decide

instance : Inhabited Timestamp :=
  ⟨epoch⟩

/-- The point some seconds and nanoseconds after the start of the year 1970, if the calendar reaches
that far. -/
def afterEpoch? (seconds nanosecond : Nat) : Option Timestamp :=
  CivilTime.point? {
    date := Nat.repeat CalendarDay.next (seconds / 86400) epoch.date
    hour := seconds % 86400 / 3600
    minute := seconds % 3600 / 60
    second := seconds % 60
    nanosecond }

/-- The point some minutes, less than a day, before another one.  There is none before the first or
after the last day of the calendar. -/
def earlier (t : Timestamp) (minutes : Int) : Option Timestamp :=
  let ofDay : Int := t.hour * 60 + t.minute - minutes
  let (date, ofDay) :=
    if ofDay < 0 then (t.date.previous, ofDay + 1440)
    else if 1440 ≤ ofDay then (t.date.next, ofDay - 1440)
    else (t.date, ofDay)
  { t.toCivilTime with date, hour := ofDay.toNat / 60, minute := ofDay.toNat % 60 }.point?

/-! ## Writing -/

/-- A number with zeros before it up to a width. -/
def padded (width n : Nat) : String :=
  let digits := Nat.toDigits 10 n
  String.ofList (List.replicate (width - digits.length) '0' ++ digits)

/-- A year: four digits, and with a sign where four digits are not enough. -/
def yearText (year : Int) : String :=
  if 0 ≤ year ∧ year ≤ 9999 then padded 4 year.toNat
  else (if year < 0 then "-" else "+") ++ padded 4 year.natAbs

/-- The decimals of a second: none, three, six or nine. -/
def decimals (nanosecond : Nat) : String :=
  if nanosecond = 0 then ""
  else if nanosecond % 1000000 = 0 then "." ++ padded 3 (nanosecond / 1000000)
  else if nanosecond % 1000 = 0 then "." ++ padded 6 (nanosecond / 1000)
  else "." ++ padded 9 nanosecond

/-- The written form of a point in time. -/
def text (t : Timestamp) : String :=
  yearText t.date.year ++ "-" ++ padded 2 t.date.month ++ "-" ++ padded 2 t.date.day ++ "T"
    ++ padded 2 t.hour ++ ":" ++ padded 2 t.minute ++ ":"
    ++ padded 2 (t.second + t.nanosecond / oneSecond) ++ decimals (t.nanosecond % oneSecond) ++ "Z"

end Timestamp

end SignedUpgrade
