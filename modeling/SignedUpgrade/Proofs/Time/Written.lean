import Mathlib.Algebra.Group.Nat.Defs
import Mathlib.Data.List.TakeWhile
import Mathlib.Tactic.SplitIfs
import SignedUpgrade.Proofs.Text.Number
import SignedUpgrade.Time.Reader

/-!
# Reading a point in time that was written

A point in time is read back from its written form: no two of them are written alike, and every one
is written in a form that can be read.

* `number?_append` — digits are read up to what follows them;
* `Timestamp.read_text` — **what was written is read back**.
-/

namespace SignedUpgrade

open Text

namespace Timestamp

/-! ## Digits -/

lemma isBlank_of_isDigit {c : Char} (h : c.isDigit = true) : isBlank c = false := by
  simp only [Char.isDigit, Bool.and_eq_true, decide_eq_true_eq, UInt32.le_iff_toNat_le] at h
  have low : 48 ≤ c.toNat := h.1
  have high : c.toNat ≤ 57 := h.2
  simp [isBlank]
  omega

/-- What starts with no blank is not trimmed at its start. -/
lemma trimStart_cons {c : Char} (dense : isBlank c = false) (r : List Char) :
    trimStart (c :: r) = c :: r := by
  rw [trimStart, List.dropWhile_cons_of_neg (by simp [dense])]

/-- Digits are read as a number, if they are all that may be read or no digit follows them. -/
lemma number?_append {digits rest : List Char} {most : Nat} (some_ : digits ≠ [])
    (all : ∀ c ∈ digits, c.isDigit = true) (fits : digits.length ≤ most)
    (ends : digits.length = most ∨ ∀ c ∈ rest.head?, c.isDigit = false) :
    number? most (digits ++ rest) = some (Nat.ofDigitChars 10 digits 0, rest) := by
  have taken : ((digits ++ rest).take most).takeWhile Char.isDigit = digits := by
    rw [List.take_append, List.take_of_length_le fits, List.takeWhile_append_of_pos all]
    have nothing : (rest.take (most - digits.length)).takeWhile Char.isDigit = [] := by
      rcases ends with full | other
      · rw [full, Nat.sub_self, List.take_zero, List.takeWhile_nil]
      · cases rest with
        | nil => simp
        | cons c rest =>
          have here : c.isDigit = false := other c rfl
          cases most - digits.length with
          | zero => rfl
          | succ n => simp [here]
    rw [nothing, List.append_nil]
  have value : asciiValue? digits = some (Nat.ofDigitChars 10 digits 0) :=
    asciiValue?_eq_some_iff.2 ⟨some_, all, rfl⟩
  simp [number?, taken, value]

/-- A number is written in ASCII digits. -/
lemma isDigit_of_mem_padded {width n : Nat} {c : Char} (mem : c ∈ (padded width n).toList) :
    c.isDigit = true := by
  rw [padded, String.toList_ofList, List.mem_append] at mem
  rcases mem with zero | digit
  · rw [List.eq_of_mem_replicate zero]
    rfl
  · exact Nat.isDigit_of_mem_toDigits (by decide) (by decide) digit

lemma padded_ne_nil (width n : Nat) : (padded width n).toList ≠ [] := by
  rw [padded, String.toList_ofList]
  simp [Nat.toDigits_ne_nil]

lemma ofDigitChars_padded (width n : Nat) : Nat.ofDigitChars 10 (padded width n).toList 0 = n := by
  rw [padded, String.toList_ofList, Nat.ofDigitChars_append, Nat.ofDigitChars_replicate_zero,
    Nat.mul_zero, Nat.ofDigitChars_ten_toDigits]

/-- A number that fits a width is written in that width. -/
lemma length_padded {width n : Nat} (wide : 0 < width) (fits : n < 10 ^ width) :
    (padded width n).toList.length = width := by
  have short := (Nat.length_toDigits_le_iff (b := 10) (by decide) wide).2 fits
  rw [padded, String.toList_ofList, List.length_append, List.length_replicate]
  omega

/-- A number that fits its width is read back. -/
lemma number?_padded {width n : Nat} (wide : 0 < width) (fits : n < 10 ^ width) (rest : List Char) :
    number? width ((padded width n).toList ++ rest) = some (n, rest) := by
  have length := length_padded wide fits
  rw [number?_append (padded_ne_nil _ _) (fun _ => isDigit_of_mem_padded) (Nat.le_of_eq length)
    (.inl length), ofDigitChars_padded]

lemma spacedNumber?_padded {width n : Nat} (wide : 0 < width) (fits : n < 10 ^ width)
    (rest : List Char) :
    spacedNumber? width ((padded width n).toList ++ rest) = some (n, rest) := by
  obtain ⟨c, digits, written⟩ := List.exists_cons_of_ne_nil (padded_ne_nil width n)
  have dense : isBlank c = false :=
    isBlank_of_isDigit (isDigit_of_mem_padded (by rw [written]; exact List.mem_cons_self))
  rw [spacedNumber?, ← number?_padded wide fits rest, written, List.cons_append,
    trimStart_cons dense]

/-! ## Years, separators and decimals -/

lemma separator?_cons {c : Char} (dense : isBlank c = false) (r : List Char) :
    separator? c (c :: r) = some r := by
  rw [separator?, trimStart_cons dense]
  simp

/-- A year with a sign is written in as many digits as it has, and at least in four. -/
lemma number?_signed (n : Nat) (r : List Char) :
    number? ((padded 4 n).toList ++ '-' :: r).length ((padded 4 n).toList ++ '-' :: r)
      = some (n, '-' :: r) := by
  rw [number?_append (padded_ne_nil _ _) (fun _ => isDigit_of_mem_padded)
    (by rw [List.length_append]; omega) (.inr (by simp)), ofDigitChars_padded]

lemma year?_append (year : Int) (r : List Char) :
    year? ((yearText year).toList ++ '-' :: r) = some (year, '-' :: r) := by
  by_cases plain : 0 ≤ year ∧ year ≤ 9999
  · rw [yearText, if_pos plain]
    obtain ⟨c, digits, written⟩ := List.exists_cons_of_ne_nil (padded_ne_nil 4 year.toNat)
    have digit : c.isDigit = true :=
      isDigit_of_mem_padded (by rw [written]; exact List.mem_cons_self)
    have read := number?_padded (n := year.toNat) (Nat.succ_pos 3) (by omega) ('-' :: r)
    rw [written, List.cons_append] at read ⊢
    rw [year?, trimStart_cons (isBlank_of_isDigit digit)]
    -- a digit is no sign
    split
    · rename_i same
      rw [(List.cons.inj same).1] at digit
      cases digit
    · rename_i same
      rw [(List.cons.inj same).1] at digit
      cases digit
    · rw [read]
      simp
      omega
  · rw [yearText, if_neg plain]
    by_cases negative : year < 0
    · have minus : "-".toList = ['-'] := rfl
      have back : -(year.natAbs : Int) = year := by omega
      rw [if_pos negative, String.toList_append, minus, List.append_assoc, List.singleton_append,
        year?, trimStart_cons (by decide)]
      simp only [number?_signed, Option.map_some, back]
    · have plus : "+".toList = ['+'] := rfl
      have back : (year.natAbs : Int) = year := by omega
      rw [if_neg negative, String.toList_append, plus, List.append_assoc, List.singleton_append,
        year?, trimStart_cons (by decide)]
      simp only [number?_signed, Option.map_some, back]

/-- Decimals stand for nanoseconds, however few of them there are. -/
lemma fraction?_padded {width n : Nat} (wide : 0 < width) (short : width ≤ 9)
    (fits : n < 10 ^ width) : fraction? ('.' :: ((padded width n).toList ++ ['Z']))
      = some (n * 10 ^ (9 - width), ['Z']) := by
  have length := length_padded wide fits
  have read : number? 9 ((padded width n).toList ++ ['Z']) = some (n, ['Z']) := by
    rw [number?_append (padded_ne_nil _ _) (fun _ => isDigit_of_mem_padded) (by omega)
      (.inr (by simp)), ofDigitChars_padded]
  have rest : ['Z'].dropWhile Char.isDigit = ['Z'] := rfl
  simp [fraction?, read, length, rest]

lemma fraction?_decimals {n : Nat} (small : n < oneSecond) :
    fraction? ((decimals n).toList ++ ['Z']) = some (n, ['Z']) := by
  have small : n < 1000000000 := small
  have point : ".".toList = ['.'] := rfl
  unfold decimals
  split_ifs with none three six
  · subst none
    rfl
  · rw [String.toList_append, point, List.append_assoc, List.singleton_append,
      fraction?_padded (by decide) (by decide) (by omega)]
    have value : n / 1000000 * 10 ^ (9 - 3) = n := by omega
    rw [value]
  · rw [String.toList_append, point, List.append_assoc, List.singleton_append,
      fraction?_padded (by decide) (by decide) (by omega)]
    have value : n / 1000 * 10 ^ (9 - 6) = n := by omega
    rw [value]
  · rw [String.toList_append, point, List.append_assoc, List.singleton_append,
      fraction?_padded (by decide) (by decide) (by omega)]
    simp

/-! ## Points in time -/

/-- A date and a time of day that exist tell the point in time that they are. -/
@[simp] lemma toCivilTime_point? (t : Timestamp) : t.toCivilTime.point? = some t := by
  rw [CivilTime.point?, dif_pos t.valid]

/-- Universal time is no other time. -/
lemma earlier_zero (t : Timestamp) : t.earlier 0 = some t := by
  have hour := t.valid.hour
  have minute := t.valid.minute
  have early : ¬ ((t.hour : Int) * 60 + t.minute - 0 < 0) := by omega
  have late : ¬ (1440 ≤ (t.hour : Int) * 60 + t.minute - 0) := by omega
  have hours : ((t.hour : Int) * 60 + t.minute - 0).toNat / 60 = t.hour := by omega
  have minutes : ((t.hour : Int) * 60 + t.minute - 0).toNat % 60 = t.minute := by omega
  simp only [earlier, if_neg early, if_neg late, hours, minutes]
  exact t.toCivilTime_point?

lemma toList_text (t : Timestamp) : t.text.toList
    = (yearText t.date.year).toList ++ '-' :: ((padded 2 t.date.month).toList ++ '-' ::
      ((padded 2 t.date.day).toList ++ 'T' :: ((padded 2 t.hour).toList ++ ':' ::
        ((padded 2 t.minute).toList ++ ':' ::
          ((padded 2 (t.second + t.nanosecond / oneSecond)).toList
            ++ ((decimals (t.nanosecond % oneSecond)).toList ++ ['Z'])))))) := by
  have dash : "-".toList = ['-'] := rfl
  have mark : "T".toList = ['T'] := rfl
  have colon : ":".toList = [':'] := rfl
  have zone : "Z".toList = ['Z'] := rfl
  simp only [text, String.toList_append, dash, mark, colon, zone, List.append_assoc,
    List.cons_append, List.nil_append]

/-- Every month has at most thirty-one days. -/
lemma daysInMonth_le (year : Int) (month : Nat) : daysInMonth year month ≤ 31 := by
  unfold daysInMonth
  split_ifs <;> omega

/-- The second that is written is the own one, or the sixtieth in a leap second. -/
lemma second_cases (t : Timestamp) :
    (t.nanosecond / oneSecond = 0 ∧ t.nanosecond % oneSecond = t.nanosecond)
      ∨ (t.second = 59 ∧ t.nanosecond / oneSecond = 1
        ∧ oneSecond + t.nanosecond % oneSecond = t.nanosecond) := by
  have one : oneSecond = 1000000000 := rfl
  have nanosecond := t.valid.nanosecond
  rw [one] at nanosecond ⊢
  omega

/-- **A point in time is read back as it was written.** -/
theorem read_text (t : Timestamp) : read? t.text = some t := by
  have dated := t.valid.date
  have hour := t.valid.hour
  have minute := t.valid.minute
  have second := t.valid.second
  have days := daysInMonth_le t.date.year t.date.month
  simp only [CalendarDay.isValid, Bool.and_eq_true, decide_eq_true_eq] at dated
  have within : t.nanosecond % oneSecond < oneSecond := Nat.mod_lt _ (by decide)
  have upTo : t.second + t.nanosecond / oneSecond ≤ 60 := by
    rcases t.second_cases with ⟨none, -⟩ | ⟨last, one, -⟩ <;> omega
  have number : ∀ {n : Nat}, n < 100 → ∀ rest,
      spacedNumber? 2 ((padded 2 n).toList ++ rest) = some (n, rest) :=
    fun fits rest => spacedNumber?_padded (by decide) fits rest
  have dash : ∀ r, separator? '-' ('-' :: r) = some r := separator?_cons (by decide)
  have colon : ∀ r, separator? ':' (':' :: r) = some r := separator?_cons (by decide)
  have mark : ∀ r, timeMark? ('T' :: r) = some r := fun _ => rfl
  have zone : offset? (trimStart ['Z']) = some (0, []) := by decide
  have end_ : (trimStart []).isEmpty = true := rfl
  simp only [read?, toList_text, year?_append, bind, Option.bind, dash, colon, mark, zone,
    number (n := t.date.month) (by omega), number (n := t.date.day) (by omega),
    number (n := t.hour) (by omega), number (n := t.minute) (by omega),
    number (n := t.second + t.nanosecond / oneSecond) (by omega), fraction?_decimals within,
    end_, Int.natAbs_zero, Bool.true_and, decide_true, Nat.zero_lt_succ, if_true]
  have own : ∀ {u : CivilTime}, u = t.toCivilTime →
      (u.point?.bind fun t => t.earlier 0) = some t := by
    rintro _ rfl
    rw [toCivilTime_point?, Option.bind_some, earlier_zero]
  apply own
  rcases t.second_cases with ⟨none, rest⟩ | ⟨last, one, rest⟩
  · rw [none, rest, Nat.add_zero]
    have other : t.second ≠ 60 := by omega
    simp [other]
  · rw [last, one, rest]
    simp [← last]

end Timestamp

end SignedUpgrade
