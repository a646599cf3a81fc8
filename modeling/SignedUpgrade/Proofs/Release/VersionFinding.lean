import SignedUpgrade.Proofs.Release.VersionText
import SignedUpgrade.Proofs.Text.Number

/-!
# Finding a version

A version that was written is found again in whatever is printed around it, as long as no digit
stands before it and none directly behind it.

* `EndsRun` — a run of digits is over where a text goes on;
* `IsRun` — a run of digits of any script;
* `tripleHere?_of_runs`, `firstTriple_append` — where the first triple of a text is;
* `Version.extract_around` — the main statement.
-/

namespace SignedUpgrade

open Text

/-! ## Runs of digits -/

/-- No run of digits goes on at the beginning of a text. -/
def EndsRun (cs : List Char) : Prop :=
  ∀ c ∈ cs.head?, isDecimal c = false

/-- A run of digits. -/
structure IsRun (cs : List Char) : Prop where
  filled : cs ≠ []
  digits : ∀ c ∈ cs, isDecimal c = true

lemma endsRun_dot (cs : List Char) : EndsRun ('.' :: cs) := by
  rintro _ ⟨⟩
  decide

/-- Of the characters below U+0660 only the ASCII digits are digits. -/
lemma isDecimal_of_lt {c : Char} (low : c.toNat < 0x660) : isDecimal c = c.isDigit := by
  have digit : c.isDigit = true ↔ 48 ≤ c.toNat ∧ c.toNat ≤ 57 := by
    simp only [Char.isDigit, Bool.and_eq_true, decide_eq_true_eq, UInt32.le_iff_toNat_le]
    rfl
  rw [Bool.eq_iff_iff, digit]
  simp only [isDecimal, decimalZeros, List.any_cons, List.any_nil, Bool.or_false,
    Bool.or_eq_true, Bool.and_eq_true, decide_eq_true_eq]
  omega

variable {run rest : List Char}

lemma EndsRun.takeWhile (ends : EndsRun rest) : rest.takeWhile isDecimal = [] := by
  cases rest with
  | nil => rfl
  | cons c cs => exact List.takeWhile_cons_of_neg (by simp [ends c rfl])

lemma EndsRun.dropWhile (ends : EndsRun rest) : rest.dropWhile isDecimal = rest := by
  cases rest with
  | nil => rfl
  | cons c cs => exact List.dropWhile_cons_of_neg (by simp [ends c rfl])

/-- A run of digits is taken as a whole, and no more than it. -/
lemma IsRun.takeWhile (h : IsRun run) (ends : EndsRun rest) :
    (run ++ rest).takeWhile isDecimal = run := by
  rw [List.takeWhile_append_of_pos h.digits, ends.takeWhile, List.append_nil]

lemma IsRun.dropWhile (h : IsRun run) (ends : EndsRun rest) :
    (run ++ rest).dropWhile isDecimal = rest := by
  rw [List.dropWhile_append_of_pos h.digits, ends.dropWhile]

/-! ## The first triple of a text -/

variable {a b c : List Char}

/-- Three runs of digits with dots between them are a triple. -/
lemma tripleHere?_of_runs (ha : IsRun a) (hb : IsRun b) (hc : IsRun c) (ends : EndsRun rest) :
    tripleHere? (a ++ '.' :: (b ++ '.' :: (c ++ rest))) = some (a, b, c) := by
  obtain ⟨_, _, rfl⟩ := List.exists_cons_of_ne_nil ha.filled
  obtain ⟨_, _, rfl⟩ := List.exists_cons_of_ne_nil hb.filled
  obtain ⟨_, _, rfl⟩ := List.exists_cons_of_ne_nil hc.filled
  simp only [tripleHere?, ha.takeWhile (endsRun_dot _), ha.dropWhile (endsRun_dot _),
    hb.takeWhile (endsRun_dot _), hb.dropWhile (endsRun_dot _), hc.takeWhile ends]

/-- Where no digit stands, no triple starts. -/
lemma tripleHere?_of_endsRun (ends : EndsRun rest) : tripleHere? rest = none := by
  simp [tripleHere?, ends.takeWhile]

/-- A text without digits before it does not matter to what is found. -/
lemma firstTriple_append {before : List Char} (bare : ∀ c ∈ before, isDecimal c = false)
    (cs : List Char) : firstTriple (before ++ cs) = firstTriple cs := by
  induction before with
  | nil => rfl
  | cons c before ih =>
    have ends : EndsRun (c :: (before ++ cs)) := by
      rintro _ ⟨⟩
      exact bare c List.mem_cons_self
    rw [List.cons_append, firstTriple, tripleHere?_of_endsRun ends]
    exact ih fun c mem => bare c (List.mem_cons_of_mem _ mem)

/-- What starts a text is found first. -/
lemma firstTriple_of_tripleHere? {cs : List Char} {triple : List Char × List Char × List Char}
    (here : tripleHere? cs = some triple) : firstTriple cs = some triple := by
  cases cs with
  | nil => cases here
  | cons c cs => rw [firstTriple, here]

/-! ## Numbers that were written -/

lemma isRun_decimal (n : UInt64) : IsRun (decimal n) :=
  ⟨Nat.toDigits_ne_nil, fun _ mem => isDecimal_of_isDigit (isDigit_of_mem_decimal mem)⟩

/-- A number is read back from its digits. -/
lemma word64?_decimal (n : UInt64) : word64? (decimal n) = some n :=
  word64?_eq_some_iff.2 ⟨decimal n, .inl rfl, Nat.toDigits_ne_nil,
    fun _ mem => isDigit_of_mem_decimal mem, Nat.ofDigitChars_ten_toDigits⟩

/-! ## Versions -/

/-- What stands around a version leaves it to be found: no digit of any script stands before it, and
none directly behind it. -/
structure Surrounds (before after : String) : Prop where
  before : ∀ c ∈ before.toList, isDecimal c = false
  after : EndsRun after.toList

namespace Version

/-- **A version is found in what is printed around it**, whatever its numbers are. -/
lemma extract_around {before after : String} (around : Surrounds before after) (v : Version) :
    extract (before ++ v.text ++ after) = .ok v := by
  have triple : tripleHere? (v.text.toList ++ after.toList)
      = some (decimal v.major, decimal v.minor, decimal v.patch) := by
    rw [toList_text]
    simpa using tripleHere?_of_runs (isRun_decimal v.major) (isRun_decimal v.minor)
      (isRun_decimal v.patch) around.after
  have first : firstTriple (before ++ v.text ++ after).toList
      = some (decimal v.major, decimal v.minor, decimal v.patch) := by
    rw [String.toList_append, String.toList_append, List.append_assoc,
      firstTriple_append around.before]
    exact firstTriple_of_tripleHere? triple
  have found : find? (before ++ v.text ++ after) = some v := by
    rw [find?, first, Option.bind_some]
    simp [ofDigits?, word64?_decimal]
  rw [extract, found]

end Version

end SignedUpgrade
