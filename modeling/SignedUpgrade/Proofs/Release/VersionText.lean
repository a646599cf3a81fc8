import SignedUpgrade.Version
import Mathlib.Tactic.Lemma

/-!
# The text of a version

A version is written as three numbers with dots between them.  So the text shows which version it
is, and it ends where the first blank stands behind it.

* `Version.text_injective` — different versions have different texts;
* `Version.blank_notMem_text` — no blank stands in them, so what follows the first blank behind a
  version is not part of it.
-/

namespace SignedUpgrade

/-! ## Texts up to a separator -/

/-- Two texts that a separator ends are equal if they are equal up to what follows it. -/
lemma append_separator_inj {c : Char} {as bs xs ys : List Char} (ha : c ∉ as) (hb : c ∉ bs)
    (h : as ++ c :: xs = bs ++ c :: ys) : as = bs ∧ xs = ys := by
  induction as generalizing bs with
  | nil =>
    cases bs with
    | nil => simpa using h
    | cons b bs =>
      simp only [List.nil_append, List.cons_append, List.cons.injEq] at h
      exact absurd (h.1 ▸ List.mem_cons_self) hb
  | cons a as ih =>
    cases bs with
    | nil =>
      simp only [List.nil_append, List.cons_append, List.cons.injEq] at h
      exact absurd (h.1 ▸ List.mem_cons_self) ha
    | cons b bs =>
      simp only [List.cons_append, List.cons.injEq] at h
      obtain ⟨rfl, rest⟩ := h
      have tails := ih (fun mem => ha (List.mem_cons_of_mem _ mem))
        (fun mem => hb (List.mem_cons_of_mem _ mem)) rest
      exact ⟨by rw [tails.1], tails.2⟩

/-! ## Decimal numbers -/

/-- The decimal digits of a number. -/
def decimal (n : UInt64) : List Char :=
  Nat.toDigits 10 n.toNat

lemma isDigit_of_mem_decimal {n : UInt64} {c : Char} (h : c ∈ decimal n) : c.isDigit = true :=
  Nat.isDigit_of_mem_toDigits (by decide) (by decide) h

/-- A character that is no digit stands in no number. -/
lemma notMem_decimal {n : UInt64} {c : Char} (h : c.isDigit = false) : c ∉ decimal n := by
  intro mem
  rw [isDigit_of_mem_decimal mem] at h
  cases h

lemma decimal_injective {n m : UInt64} (h : decimal n = decimal m) : n = m := by
  have values := congrArg (fun digits => Nat.ofDigitChars 10 digits 0) h
  simp only [decimal, Nat.ofDigitChars_ten_toDigits] at values
  exact UInt64.toNat_inj.1 values

/-! ## Versions -/

namespace Version

lemma toList_text (v : Version) :
    v.text.toList = decimal v.major ++ '.' :: (decimal v.minor ++ '.' :: decimal v.patch) := by
  have number : ∀ n : UInt64, (toString n).toList = decimal n := fun n => Nat.toList_repr
  have dot : (toString ".").toList = ['.'] := rfl
  simp [text, number, dot]

/-- There is no blank in the text of a version. -/
lemma blank_notMem_text (v : Version) : ' ' ∉ v.text.toList := by
  have digits : ∀ n, ' ' ∉ decimal n := fun n => notMem_decimal (by decide)
  rw [toList_text]
  simp [digits]

/-- **A version is known by its text.** -/
lemma text_injective {v w : Version} (h : v.text = w.text) : v = w := by
  have dot : ∀ n, '.' ∉ decimal n := fun n => notMem_decimal (by decide)
  have lists : v.text.toList = w.text.toList := by rw [h]
  rw [toList_text, toList_text] at lists
  obtain ⟨major, rest⟩ := append_separator_inj (dot _) (dot _) lists
  obtain ⟨minor, patch⟩ := append_separator_inj (dot _) (dot _) rest
  have parts : v.major = w.major ∧ v.minor = w.minor ∧ v.patch = w.patch :=
    ⟨decimal_injective major, decimal_injective minor, decimal_injective patch⟩
  cases v
  cases w
  simpa using parts

end Version

end SignedUpgrade
