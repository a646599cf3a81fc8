import Mathlib.Data.Nat.Find
import SignedUpgrade.Pattern.Reader
import SignedUpgrade.Proofs.Pattern.Anchored
import SignedUpgrade.Proofs.Pattern.Ways
import SignedUpgrade.Proofs.Release.FirstTriple

/-!
# The pattern of triples

A triple is what a pattern with three groups says, and a search with this pattern gives the groups
of its first match: the leftmost place at which the pattern matches, and there the first of the ways
to match it.  A scan that takes the digits as they come finds the same.

* `writtenTriple`, `tripleForm` — the pattern as it is written, and as it is read;
* `starts_tripleForm` — it matches where triples start;
* `tripleWays` — the ways to match it, with its groups, in the order in which they are tried;
* `tripleHere?_eq_head?` — at the beginning of a text, the first way is what the scan takes;
* `firstTriple_written` — **the scan gives the groups of the first match;**
* `exists_firstTriple_iff` — a triple is found where the search finds the pattern.
-/

namespace SignedUpgrade

open Pattern Text

/-- The pattern as it is written. -/
def writtenTriple : String := "(\\d+)\\.(\\d+)\\.(\\d+)"

/-- The form of triples. -/
def tripleForm : Form :=
  .andThen (.run .decimal 1) <| .word ['.'] <|
    .andThen (.run .decimal 1) <| .word ['.'] <| .run .decimal 1

lemma read_writtenTriple : Pattern.read? writtenTriple = some ⟨writtenTriple, tripleForm⟩ := by
  decide +kernel

variable {cs a b c rest : List Char} {triple : List Char × List Char × List Char}

/-! ## Where the pattern matches -/

lemma isRun_iff : IsRun a ↔ (∀ c ∈ a, CharSet.decimal.holds c = true) ∧ 1 ≤ a.length :=
  ⟨fun run => ⟨run.digits, List.length_pos_iff.2 run.filled⟩,
    fun ⟨digits, filled⟩ => ⟨List.length_pos_iff.1 filled, digits⟩⟩

/-- **The pattern matches where triples start,** whatever stands before. -/
lemma starts_tripleForm (before : Option Char) :
    tripleForm.Starts ⟨before, cs⟩ ↔ StartsTriple cs := by
  simp only [tripleForm, Form.starts_run, Form.starts_word, Form.starts_lastRun, StartsTriple,
    isRun_iff]
  constructor
  · rintro ⟨a, _, rfl, digits, filled, _, rfl, b, _, rfl, digits', filled', _, rfl, c, rest, rfl,
      digits'', filled''⟩
    exact ⟨a, b, c, rest, ⟨digits, filled⟩, ⟨digits', filled'⟩, ⟨digits'', filled''⟩, rfl⟩
  · rintro ⟨a, b, c, rest, ⟨digits, filled⟩, ⟨digits', filled'⟩, ⟨digits'', filled''⟩, rfl⟩
    exact ⟨a, _, rfl, digits, filled, _, rfl, b, _, rfl, digits', filled', _, rfl, c, rest, rfl,
      digits'', filled''⟩

/-! ## Groups -/

/-- What stands behind a dot, taken further. -/
def behindDot {α : Type} (ways : List Char → List α) : List Char → List α
  | '.' :: r => ways r
  | _ => []

/-- The ways to match the pattern at the beginning of a text, in the order in which they are tried:
what its three groups take. -/
def tripleWays (cs : List Char) : List (List Char × List Char × List Char) :=
  (runs .longestFirst .decimal 1 cs).flatMap fun major =>
    behindDot (fun r => (runs .longestFirst .decimal 1 r).flatMap fun minor =>
      behindDot (fun r => (runs .longestFirst .decimal 1 r).map fun patch =>
        (major.1, minor.1, patch.1)) minor.2) major.2

lemma behindDot_dot {α : Type} (ways : List Char → List α) (r : List Char) :
    behindDot ways ('.' :: r) = ways r :=
  rfl

/-- A digit is no dot. -/
lemma behindDot_of_digit {α : Type} {ways : List Char → List α} {d : Char} {r : List Char}
    (digit : CharSet.decimal.holds d = true) : behindDot ways (d :: r) = [] := by
  unfold behindDot
  split
  · rename_i same
    rw [(List.cons.inj same).1] at digit
    cases digit
  · rfl

/-- The first groups end at the dots; the last one is tried at its full length first. -/
lemma head?_tripleWays (ha : IsRun a) (hb : IsRun b) (hc : IsRun c) (ends : EndsRun rest) :
    (tripleWays (a ++ '.' :: (b ++ '.' :: (c ++ rest)))).head? = some (a, b, c) := by
  have dot (r : List Char) : ∀ d ∈ ('.' :: r).head?, CharSet.decimal.holds d = false :=
    endsRun_dot r
  have last : (runs .longestFirst .decimal 1 (c ++ rest)).head? = some (c, rest) :=
    head?_runs_longestFirst hc.digits (isRun_iff.1 hc).2 ends
  rw [tripleWays, flatMap_runs ha.digits (isRun_iff.1 ha).2 (dot _)
      fun _ _ _ digit => behindDot_of_digit digit, behindDot_dot,
    flatMap_runs hb.digits (isRun_iff.1 hb).2 (dot _)
      fun _ _ _ digit => behindDot_of_digit digit, behindDot_dot, List.head?_map, last]
  rfl

lemma mem_behindDot {α : Type} {ways : List Char → List α} {x : α} :
    x ∈ behindDot ways cs ↔ ∃ r, cs = '.' :: r ∧ x ∈ ways r := by
  constructor
  · intro mem
    unfold behindDot at mem
    split at mem
    · exact ⟨_, rfl, mem⟩
    · cases mem
  · rintro ⟨r, rfl, mem⟩
    exact mem

/-- Every way goes through a triple. -/
lemma startsTriple_of_mem_tripleWays (mem : triple ∈ tripleWays cs) : StartsTriple cs := by
  simp only [tripleWays, List.mem_flatMap, List.mem_map, mem_behindDot, Prod.exists, mem_runs,
    and_assoc] at mem
  obtain ⟨a, _, rfl, digits, filled, _, rfl, b, _, rfl, digits', filled', _, rfl, c, rest, rfl,
    digits'', filled'', _⟩ := mem
  exact ⟨a, b, c, rest, isRun_iff.2 ⟨digits, filled⟩, isRun_iff.2 ⟨digits', filled'⟩,
    isRun_iff.2 ⟨digits'', filled''⟩, rfl⟩

/-- **What the scan takes at the beginning of a text is the first way to match the pattern.** -/
lemma tripleHere?_eq_head? (cs : List Char) : tripleHere? cs = (tripleWays cs).head? := by
  cases here : tripleHere? cs with
  | some triple =>
    obtain ⟨a, b, c⟩ := triple
    obtain ⟨ha, hb, hc, rest, ends, rfl⟩ := tripleHere?_eq_some_iff.1 here
    exact (head?_tripleWays ha hb hc ends).symm
  | none =>
    have nothing : tripleWays cs = [] := List.eq_nil_iff_forall_not_mem.2 fun triple mem =>
      not_startsTriple_iff.2 here (startsTriple_of_mem_tripleWays mem)
    rw [nothing]
    rfl

/-! ## The first match -/

/-- The places of a text at which the pattern matches, counted from the start. -/
def matchesAt (cs : List Char) : Set Nat :=
  {i | tripleForm.Starts ⟨(cs.take i).getLast?, cs.drop i⟩}

lemma matchesAt_eq (cs : List Char) : matchesAt cs = {i | StartsTriple (cs.drop i)} :=
  Set.ext fun _ => starts_tripleForm _

/-- **The scan gives the groups of the first match:** those of the first way to match the pattern at
the leftmost place. -/
theorem firstTriple_written : firstTriple cs = some triple
    ↔ ∃ i, IsLeast (matchesAt cs) i ∧ (tripleWays (cs.drop i)).head? = some triple := by
  obtain ⟨a, b, c⟩ := triple
  simp only [firstTriple_eq_some_iff, matchesAt_eq, ← tripleHere?_eq_head?, tripleHere?_eq_some_iff]
  constructor
  · rintro ⟨i, least, ha, hb, hc, text⟩
    exact ⟨i, least, ha, hb, hc, text⟩
  · rintro ⟨i, least, ha, hb, hc, text⟩
    exact ⟨i, least, ha, hb, hc, text⟩

/-- A triple is found exactly in the texts in which the pattern is found. -/
lemma exists_firstTriple_iff :
    (∃ triple, firstTriple cs = some triple) ↔ tripleForm.isIn cs = true := by
  rw [Form.isIn_iff (by decide +kernel)]
  constructor
  · rintro ⟨triple, found⟩
    obtain ⟨i, ⟨⟨q, spans⟩, _⟩, _⟩ := firstTriple_written.1 found
    exact ⟨_, q, Reaches.start_iff.2 ⟨cs.take i, (List.take_append_drop i cs).symm,
      (Option.or_none).symm⟩, spans⟩
  · rintro ⟨p, q, later, spans⟩
    obtain ⟨front, cut, _⟩ := Reaches.start_iff.1 later
    have there : ∃ i, StartsTriple (cs.drop i) := by
      refine ⟨front.length, ?_⟩
      rw [cut, List.drop_left]
      exact (starts_tripleForm p.before).1 ⟨q, spans⟩
    classical
    obtain ⟨triple, here⟩ := startsTriple_iff.1 (Nat.find_spec there)
    refine ⟨triple, firstTriple_written.2 ⟨Nat.find there, ?_, ?_⟩⟩
    · rw [matchesAt_eq]
      exact ⟨Nat.find_spec there, fun i => Nat.find_min' there⟩
    · rw [← tripleHere?_eq_head?, here]

end SignedUpgrade
