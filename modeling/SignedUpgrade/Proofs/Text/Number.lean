import Mathlib.Tactic.Lemma
import SignedUpgrade.Text.Digit

/-!
# Whole numbers in decimal

A whole number is read from ASCII digits, with at most one plus sign before them, and only if it
fits sixty-four bits.

* `valueOnto_eq_some_iff` — a text has a value if and only if it consists of digits;
* `word64?_eq_some_iff` — the texts that are read as a number, and the number that they are read as.
-/

namespace SignedUpgrade.Text

/-- A text of digits is read as the number that the digits write, behind the digits before it. -/
lemma valueOnto_eq_some_iff {before n : Nat} {cs : List Char} : valueOnto before cs = some n
    ↔ (∀ c ∈ cs, c.isDigit = true) ∧ Nat.ofDigitChars 10 cs before = n := by
  induction cs generalizing before with
  | nil => simp [valueOnto]
  | cons c cs ih =>
    by_cases digit : c.isDigit = true
    · simp [valueOnto, digit, ih, Nat.ofDigitChars_cons, digitValue, Nat.mul_comm]
    · simp [valueOnto, digit]

lemma asciiValue?_eq_some_iff {n : Nat} {cs : List Char} : asciiValue? cs = some n
    ↔ cs ≠ [] ∧ (∀ c ∈ cs, c.isDigit = true) ∧ Nat.ofDigitChars 10 cs 0 = n := by
  cases cs with
  | nil => simp [asciiValue?]
  | cons c cs => simp [asciiValue?, valueOnto_eq_some_iff]

/-- A number is kept if it fits, and it is kept as it is. -/
lemma fitting_eq_some_iff {value : Option Nat} {word : UInt64} :
    (match value with
      | some n => if n < UInt64.size then some n.toUInt64 else none
      | none => none) = some word ↔ value = some word.toNat := by
  cases value with
  | none => simp
  | some n =>
    constructor
    · intro kept
      obtain ⟨fits, same⟩ := Option.ite_none_right_eq_some.1 kept
      rw [← Option.some.inj same, Nat.toUInt64_eq, UInt64.toNat_ofNat_of_lt' fits]
    · rintro ⟨⟩
      have fits : word.toNat < UInt64.size := word.toNat_lt
      simp [fits]

/-- A text is read as a number if it consists of ASCII digits, at least one of them, with at most
one plus sign before them, and in no other case. -/
lemma word64?_eq_some_iff {cs : List Char} {word : UInt64} : word64? cs = some word
    ↔ ∃ digits, (cs = digits ∨ cs = '+' :: digits) ∧ digits ≠ []
      ∧ (∀ c ∈ digits, c.isDigit = true) ∧ Nat.ofDigitChars 10 digits 0 = word.toNat := by
  refine fitting_eq_some_iff.trans ?_
  rw [asciiValue?_eq_some_iff]
  -- a plus sign is no digit, so a text with one is read in one way only
  split
  · rename_i digits
    refine ⟨fun reads => ⟨digits, .inr rfl, reads⟩, ?_⟩
    rintro ⟨_, rfl | same, some, all, reads⟩
    · exact absurd (all '+' List.mem_cons_self) (by decide)
    · cases same
      exact ⟨some, all, reads⟩
  · rename_i bare
    refine ⟨fun reads => ⟨cs, .inl rfl, reads⟩, ?_⟩
    rintro ⟨digits, rfl | rfl, reads⟩
    · exact reads
    · exact absurd rfl (bare digits)

end SignedUpgrade.Text
