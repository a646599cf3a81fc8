import Mathlib.Data.Prod.Lex
import Mathlib.Tactic.Lemma
import SignedUpgrade.Release.Decision

/-!
# The order of versions

Versions are compared by their numbers, from left to right: the first number that differs decides.
A release is installed only if it comes behind the installed version in this order.

* `Version.numbers` — the numbers of a version, in the lexicographic order of triples;
* `Version.lt_iff_numbers` — the comparison of versions is this order;
* `Release.decide_of_not_newer`, `Release.decide_of_newer` — what the order says about a decision;
* `Release.decide_upgradeTo`, `Release.decide_of_same` — what a decision says about the order.
-/

namespace SignedUpgrade

namespace Version

/-- The numbers of a version.  Triples of numbers are ordered lexicographically. -/
def numbers (v : Version) : ℕ ×ₗ ℕ ×ₗ ℕ :=
  toLex (v.major.toNat, toLex (v.minor.toNat, v.patch.toNat))

/-- Versions are ordered as their numbers are. -/
lemma lt_iff_numbers {v w : Version} : v < w ↔ v.numbers < w.numbers := by
  change v.before w = true ↔ _
  simp [before, numbers, Prod.Lex.toLex_lt_toLex, UInt64.lt_iff_toNat_lt, ← UInt64.toNat_inj]

/-- The lowest version comes behind no other one. -/
lemma ne_unknown_of_lt {v w : Version} (h : v.numbers < w.numbers) : w ≠ unknown := by
  rintro rfl
  simp [numbers, unknown, Prod.Lex.toLex_lt_toLex] at h

lemma extractOrUnknown_of_extract {text : String} {v : Version} (h : extract text = .ok v) :
    extractOrUnknown text = v := by
  unfold extract at h
  unfold extractOrUnknown
  cases found : find? text with
  | none =>
    rw [found] at h
    cases h
  | some w =>
    rw [found] at h
    cases h
    rfl

end Version

namespace Release

variable {r : Release} {pattern : Pattern} {current : Version}

/-- Nothing is to be done about a release that does not come behind the current version. -/
lemma decide_of_not_newer (old : (Version.extractOrUnknown r.tag).numbers ≤ current.numbers) :
    r.decide pattern current
      = .ok (.noActionNeeded current (Version.extractOrUnknown r.tag)) := by
  have same : Version.extractOrUnknown r.tag ≤ current :=
    fun less => not_lt_of_ge old (Version.lt_iff_numbers.1 less)
  rw [decide]
  exact if_pos same

/-- Which assets are selected decides about a release that comes behind the current version. -/
lemma decide_of_newer (newer : current.numbers < (Version.extractOrUnknown r.tag).numbers) :
    r.decide pattern current = match r.matching pattern with
      | [installer] => .ok (.upgradeTo current (Version.extractOrUnknown r.tag) installer)
      | [] => .error (.noInstallerAsset r.tag pattern.text)
      | several => .error (.ambiguousInstallerAsset r.tag pattern.text several.length) := by
  have later : ¬ Version.extractOrUnknown r.tag ≤ current :=
    not_not_intro (Version.lt_iff_numbers.2 newer)
  rw [decide]
  exact if_neg later

/-- A release is installed over the current version only if it comes behind it. -/
lemma decide_upgradeTo {previous version : Version} {installer : Asset}
    (h : r.decide pattern current = .ok (.upgradeTo previous version installer)) :
    previous = current ∧ version = Version.extractOrUnknown r.tag
      ∧ previous.numbers < version.numbers := by
  rcases le_or_gt (Version.extractOrUnknown r.tag).numbers current.numbers with old | newer
  · rw [decide_of_not_newer old] at h
    cases h
  · rw [decide_of_newer newer] at h
    split at h
    · cases h
      exact ⟨rfl, rfl, newer⟩
    · cases h
    · cases h

/-- Nothing is to be done about a release of the current version. -/
lemma decide_of_same (h : Version.extract r.tag = .ok current) :
    r.decide pattern current = .ok (.noActionNeeded current current) := by
  have latest := Version.extractOrUnknown_of_extract h
  have old : (Version.extractOrUnknown r.tag).numbers ≤ current.numbers := by rw [latest]
  rw [decide_of_not_newer old, latest]

end Release

end SignedUpgrade
