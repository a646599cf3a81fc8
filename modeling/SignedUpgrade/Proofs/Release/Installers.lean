import Mathlib.Data.Fintype.Fin
import Mathlib.Data.List.Perm.Basic
import SignedUpgrade.Proofs.Release.FirstTriple
import SignedUpgrade.Proofs.Release.VersionOrder

/-!
# Which asset is the installer

A release that comes behind the installed version is installed only if it is clear which of its
assets is the installer: exactly one position of its list has to hold an asset that the pattern
selects.  Assets that it does not select have no say.

* `Release.installerPositions` — the positions with assets that a pattern selects;
* `length_filter`, `filter_eq_singleton_iff` — a filtered list, told by the positions that are kept;
* `Release.decide_perm` — only which assets are selected, and how often, matters for the decision;
* `Release.Decides`, `Release.decides_completely` — **what is decided, case by case**.
-/

namespace SignedUpgrade

/-! ## Positions in a list -/

section Positions

variable {α : Type} (p : α → Bool)

/-- The positions of a list at which something holds. -/
def positionsOf (l : List α) : Finset (Fin l.length) :=
  Finset.univ.filter fun i => p l[i] = true

variable {p} {l : List α}

lemma mem_positionsOf {i : Fin l.length} : i ∈ positionsOf p l ↔ p l[i] = true := by
  simp [positionsOf]

/-- As many elements are kept as there are positions to keep. -/
lemma length_filter : (l.filter p).length = (positionsOf p l).card := by
  induction l with
  | nil => rfl
  | cons a l ih =>
    have first := Fin.card_filter_univ_succ (n := l.length) fun i => p (a :: l)[i] = true
    have rest : (positionsOf p l).card
        = (Finset.univ.filter fun i : Fin l.length => p (a :: l)[i.succ] = true).card := rfl
    rw [← ih] at rest
    refine Eq.trans ?_ first.symm
    rw [List.filter_cons]
    by_cases kept : p a = true
    · simp [kept, rest]
    · simp [kept, rest]

lemma filter_eq_nil : l.filter p = [] ↔ positionsOf p l = ∅ := by
  rw [← List.length_eq_zero_iff, length_filter, Finset.card_eq_zero]

/-- A single element is kept if there is a single position to keep, and it is the one there. -/
lemma filter_eq_singleton_iff {a : α} :
    l.filter p = [a] ↔ ∃ i, positionsOf p l = {i} ∧ a = l[i] := by
  have kept : ∀ {b i}, l.filter p = [b] → positionsOf p l = {i} → b = l[i] := by
    intro b i single only
    have mem : l[i] ∈ l.filter p :=
      List.mem_filter.2 ⟨List.getElem_mem _, mem_positionsOf.1 (only ▸ Finset.mem_singleton_self i)⟩
    rw [single] at mem
    exact (List.mem_singleton.1 mem).symm
  constructor
  · intro single
    obtain ⟨i, only⟩ := Finset.card_eq_one.1 (length_filter.symm.trans (congrArg List.length single))
    exact ⟨i, only, kept single only⟩
  · rintro ⟨i, only, rfl⟩
    obtain ⟨b, single⟩ := List.length_eq_one_iff.1
      (length_filter.trans (Finset.card_eq_one.2 ⟨i, only⟩))
    rw [single, kept single only]

end Positions

namespace Release

variable {r r' : Release} {pattern : Pattern} {current : Version}

/-- The positions at which the assets of a release are selected by a pattern. -/
def installerPositions (r : Release) (pattern : Pattern) : Finset (Fin r.assets.length) :=
  positionsOf (fun a => pattern.selects a.name) r.assets

/-! ## What matters for a decision -/

/-- The decision on a newer release is made on the assets that are selected, in whatever order they
are listed. -/
lemma decide_perm (tag : r'.tag = r.tag) (same : (r'.matching pattern).Perm (r.matching pattern)) :
    r'.decide pattern current = r.decide pattern current := by
  rcases le_or_gt (Version.extractOrUnknown r.tag).numbers current.numbers with old | newer
  · rw [decide_of_not_newer old, decide_of_not_newer (tag ▸ old), tag]
  · rw [decide_of_newer newer, decide_of_newer (tag ▸ newer), tag]
    match found : r.matching pattern with
    | [] =>
      rw [found] at same
      rw [same.eq_nil]
    | [a] =>
      rw [found] at same
      rw [List.perm_singleton.1 same]
    | a :: b :: more =>
      rw [found] at same
      match found' : r'.matching pattern with
      | [] | [_] => simpa [found'] using same.length_eq
      | _ :: _ :: _ =>
        rw [found'] at same
        simp only [same.length_eq]

/-- Assets that are not selected have no say, wherever they stand and however many they are. -/
lemma matching_perm (counts : ∀ a, pattern.selects a.name = true →
      r'.assets.count a = r.assets.count a) : (r'.matching pattern).Perm (r.matching pattern) := by
  refine List.perm_iff_count.2 fun a => ?_
  by_cases selected : pattern.selects a.name = true
  · rw [matching, matching, List.count_filter (by simpa using selected),
      List.count_filter (by simpa using selected)]
    exact counts a selected
  · have out : ∀ r : Release, a ∉ r.matching pattern :=
      fun r mem => selected (List.mem_filter.1 mem).2
    rw [List.count_eq_zero.2 (out r'), List.count_eq_zero.2 (out r)]

/-! ## Decisions, case by case -/

/-- What is decided on a release, and which version counts as the latest one. -/
structure Decides (r : Release) (pattern : Pattern) (current latest : Version) : Prop where
  /-- The latest version is the one that the tag holds, or the lowest one where it holds none. -/
  tagged : Version.Holds r.tag latest ∨ (¬ ∃ v, Version.Holds r.tag v) ∧ latest = ⟨0, 0, 0⟩
  /-- Nothing is to be done if the latest version does not come behind the current one, whatever the
  assets are. -/
  noAction : ∀ c l, r.decide pattern current = .ok (.noActionNeeded c l)
    ↔ c = current ∧ l = latest ∧ latest.numbers ≤ current.numbers
  /-- A newer release is installed from the asset at the only position that is selected. -/
  upgrade : ∀ c l a, r.decide pattern current = .ok (.upgradeTo c l a)
    ↔ c = current ∧ l = latest ∧ current.numbers < latest.numbers
      ∧ ∃ i, r.installerPositions pattern = {i} ∧ a = r.assets[i]
  /-- Where no position is selected, or several are, the decision on a newer release fails. -/
  failure : ∀ f, r.decide pattern current = .error f
    ↔ current.numbers < latest.numbers
      ∧ (r.installerPositions pattern = ∅ ∧ f = .noInstallerAsset r.tag pattern.text
        ∨ 2 ≤ (r.installerPositions pattern).card
          ∧ f = .ambiguousInstallerAsset r.tag pattern.text (r.installerPositions pattern).card)
  /-- A tag that holds no version leads neither to an upgrade nor to a failure. -/
  untagged : (¬ ∃ v, Version.Holds r.tag v) →
    r.decide pattern current = .ok (.noActionNeeded current ⟨0, 0, 0⟩)
  /-- Only which assets are selected matters, and how often: not their order, and not the others. -/
  others : ∀ r' : Release, r'.tag = r.tag →
    (∀ a, pattern.selects a.name = true → r'.assets.count a = r.assets.count a) →
    r'.decide pattern current = r.decide pattern current

/-- The lowest version does not come behind any other one. -/
lemma unknown_numbers_le (v : Version) : Version.unknown.numbers ≤ v.numbers :=
  le_of_not_gt fun less => Version.ne_unknown_of_lt less rfl

/-- **Every release is decided on, and no doubtful installer is picked.** -/
theorem decides_completely (r : Release) (pattern : Pattern) (current : Version) :
    Decides r pattern current (Version.extractOrUnknown r.tag) := by
  have tells : ∀ a, r.matching pattern = [a]
      ↔ ∃ i, r.installerPositions pattern = {i} ∧ a = r.assets[i] :=
    fun a => filter_eq_singleton_iff
  have none : r.matching pattern = [] ↔ r.installerPositions pattern = ∅ := filter_eq_nil
  have count : (r.matching pattern).length = (r.installerPositions pattern).card := length_filter
  have tagged := Version.extractOrUnknown_eq_iff.1 (rfl : _ = Version.extractOrUnknown r.tag)
  refine ⟨tagged, ?_, ?_, ?_, ?_, fun r' tag counts => decide_perm tag (matching_perm counts)⟩
  · intro c l
    rcases le_or_gt (Version.extractOrUnknown r.tag).numbers current.numbers with old | newer
    · rw [decide_of_not_newer old, Except.ok.injEq, Decision.noActionNeeded.injEq]
      constructor
      · rintro ⟨rfl, rfl⟩
        exact ⟨rfl, rfl, old⟩
      · rintro ⟨rfl, rfl, _⟩
        exact ⟨rfl, rfl⟩
    · rw [decide_of_newer newer]
      have late : ¬ (c = current ∧ l = Version.extractOrUnknown r.tag ∧ _) :=
        fun same => not_le_of_gt newer same.2.2
      split <;> simpa using late
  · intro c l a
    rw [← tells]
    rcases le_or_gt (Version.extractOrUnknown r.tag).numbers current.numbers with old | newer
    · simp [decide_of_not_newer old, not_lt_of_ge old]
    · rw [decide_of_newer newer]
      match r.matching pattern with
      | [] | [_] | _ :: _ :: _ => simp [newer, eq_comm]
  · intro f
    rw [← none, ← count]
    rcases le_or_gt (Version.extractOrUnknown r.tag).numbers current.numbers with old | newer
    · simp [decide_of_not_newer old, not_lt_of_ge old]
    · rw [decide_of_newer newer]
      match r.matching pattern with
      | [] | [_] | _ :: _ :: _ => simp [newer, eq_comm]
  · intro unread
    have unknown : Version.extractOrUnknown r.tag = .unknown :=
      Version.extractOrUnknown_eq_iff.2 (.inr ⟨unread, rfl⟩)
    rw [decide_of_not_newer (unknown ▸ unknown_numbers_le current), unknown]
    rfl

end Release

end SignedUpgrade
