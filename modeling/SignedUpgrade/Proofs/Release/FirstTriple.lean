import Mathlib.Data.List.TakeWhile
import Mathlib.Order.Bounds.Defs
import SignedUpgrade.Proofs.Release.VersionFinding

/-!
# The first triple of a text

A text holds the version that its first triple writes.  What stands around the triple is ignored,
and so is every later triple, even where nothing can be read from the first one.

* `StartsTriple`, `IsFirstTriple` — where triples start, and the first of them with its three runs;
* `RunWrites`, `Version.Holds` — the number that a run writes, and the version that a text holds;
* `firstTriple_eq_some_iff` — the scan from the left finds the first triple and nothing else;
* `Version.extract_first_triple` — **extraction gives the version that a text holds**, and fails with
  the trimmed text where it holds none.
-/

namespace SignedUpgrade

open Text

/-! ## Where triples start -/

/-- Three runs of digits with single dots between them start a text. -/
def StartsTriple (cs : List Char) : Prop :=
  ∃ a b c rest, IsRun a ∧ IsRun b ∧ IsRun c ∧ cs = a ++ '.' :: (b ++ '.' :: (c ++ rest))

/-- The least position of a text at which a triple starts, and the runs of digits from there on.  The
first two are over at their dots, and the third is as long as the digits go. -/
structure IsFirstTriple (cs : List Char) (i : Nat) (a b c : List Char) : Prop where
  least : IsLeast {j | StartsTriple (cs.drop j)} i
  major : IsRun a
  minor : IsRun b
  patch : IsRun c
  text : ∃ rest, EndsRun rest ∧ cs.drop i = a ++ '.' :: (b ++ '.' :: (c ++ rest))

variable {cs a b c : List Char}

/-- Digits at the start of a text are a run, and the run is over behind them. -/
lemma isRun_takeWhile (some : cs.takeWhile isDecimal ≠ []) : IsRun (cs.takeWhile isDecimal) :=
  ⟨some, fun _ mem => List.mem_takeWhile_imp mem⟩

lemma endsRun_dropWhile (cs : List Char) : EndsRun (cs.dropWhile isDecimal) := by
  intro c head
  have stops := List.head?_dropWhile_not isDecimal cs
  rw [head] at stops
  exact stops

/-- What is found at the beginning of a text is three runs, the last of which is over. -/
lemma tripleHere?_eq_some_iff : tripleHere? cs = some (a, b, c)
    ↔ IsRun a ∧ IsRun b ∧ IsRun c
      ∧ ∃ rest, EndsRun rest ∧ cs = a ++ '.' :: (b ++ '.' :: (c ++ rest)) := by
  constructor
  · intro found
    unfold tripleHere? at found
    dsimp only at found
    split at found
    · rename_i r first dot
      split at found
      · rename_i r' second dot'
        split at found
        · rename_i third
          cases found
          refine ⟨isRun_takeWhile (by simp [first]), isRun_takeWhile (by simp [second]),
            isRun_takeWhile (by simp [third]), _, endsRun_dropWhile r', ?_⟩
          rw [List.takeWhile_append_dropWhile, ← dot', List.takeWhile_append_dropWhile, ← dot,
            List.takeWhile_append_dropWhile]
        · cases found
      · cases found
    · cases found
  · rintro ⟨ha, hb, hc, rest, ends, rfl⟩
    exact tripleHere?_of_runs ha hb hc ends

/-- Where a triple starts, one is found: its third run goes on as long as there are digits. -/
lemma startsTriple_iff : StartsTriple cs ↔ ∃ triple, tripleHere? cs = some triple := by
  constructor
  · rintro ⟨a, b, c, rest, ha, hb, hc, rfl⟩
    have longer : IsRun (c ++ rest.takeWhile isDecimal) :=
      ⟨by simp [hc.filled], List.forall_mem_append.2 ⟨hc.digits, fun _ => List.mem_takeWhile_imp⟩⟩
    refine ⟨(a, b, c ++ rest.takeWhile isDecimal), tripleHere?_eq_some_iff.2
      ⟨ha, hb, longer, _, endsRun_dropWhile rest, ?_⟩⟩
    rw [List.append_assoc, List.takeWhile_append_dropWhile]
  · rintro ⟨⟨a, b, c⟩, found⟩
    obtain ⟨ha, hb, hc, rest, _, same⟩ := tripleHere?_eq_some_iff.1 found
    exact ⟨a, b, c, rest, ha, hb, hc, same⟩

lemma not_startsTriple_iff : ¬ StartsTriple cs ↔ tripleHere? cs = none := by
  rw [startsTriple_iff, ← Option.isSome_iff_exists, Bool.not_eq_true, Option.isSome_eq_false_iff,
    Option.isNone_iff_eq_none]

/-! ## The scan from the left -/

namespace IsFirstTriple

/-- The first triple is at the beginning of a text if there is one at the beginning. -/
lemma zero_iff : IsFirstTriple cs 0 a b c ↔ tripleHere? cs = some (a, b, c) := by
  rw [tripleHere?_eq_some_iff]
  constructor
  · rintro ⟨_, ha, hb, hc, text⟩
    exact ⟨ha, hb, hc, text⟩
  · rintro ⟨ha, hb, hc, rest, ends, same⟩
    exact ⟨⟨⟨a, b, c, rest, ha, hb, hc, same⟩, fun _ _ => Nat.zero_le _⟩, ha, hb, hc, rest, ends, same⟩

/-- Behind a character at which no triple starts, the first triple is the one of the rest. -/
lemma succ_iff {d : Char} {i : Nat} : IsFirstTriple (d :: cs) (i + 1) a b c
    ↔ tripleHere? (d :: cs) = none ∧ IsFirstTriple cs i a b c := by
  rw [← not_startsTriple_iff]
  constructor
  · rintro ⟨⟨starts, least⟩, ha, hb, hc, text⟩
    refine ⟨fun here => Nat.not_succ_le_zero i (least here), ⟨starts, fun j there => ?_⟩, ha, hb, hc,
      text⟩
    exact Nat.le_of_succ_le_succ (least (a := j + 1) there)
  · rintro ⟨nothing, ⟨starts, least⟩, ha, hb, hc, text⟩
    refine ⟨⟨starts, fun j there => ?_⟩, ha, hb, hc, text⟩
    cases j with
    | zero => exact absurd there nothing
    | succ j => exact Nat.succ_le_succ (least there)

end IsFirstTriple

/-- **The scan finds the first triple,** with its third run as long as it goes, and nothing else. -/
lemma firstTriple_eq_some_iff :
    firstTriple cs = some (a, b, c) ↔ ∃ i, IsFirstTriple cs i a b c := by
  induction cs with
  | nil =>
    refine ⟨nofun, ?_⟩
    rintro ⟨i, _, _, _, _, rest, _, text⟩
    simp at text
  | cons d cs ih =>
    rw [firstTriple]
    cases here : tripleHere? (d :: cs) with
    | some triple =>
      constructor
      · rintro ⟨⟩
        exact ⟨0, IsFirstTriple.zero_iff.2 here⟩
      · rintro ⟨_ | i, first⟩
        · exact here.symm.trans (IsFirstTriple.zero_iff.1 first)
        · rw [(IsFirstTriple.succ_iff.1 first).1] at here
          cases here
    | none =>
      refine ih.trans ⟨?_, ?_⟩
      · rintro ⟨i, first⟩
        exact ⟨i + 1, IsFirstTriple.succ_iff.2 ⟨here, first⟩⟩
      · rintro ⟨_ | i, first⟩
        · rw [IsFirstTriple.zero_iff.1 first] at here
          cases here
        · exact ⟨i, (IsFirstTriple.succ_iff.1 first).2⟩

/-! ## The version that a text holds -/

/-- A run writes a number of sixty-four bits: it consists of ASCII digits, and the number is their
value. -/
structure RunWrites (run : List Char) (n : UInt64) : Prop where
  ascii : ∀ c ∈ run, c.isDigit = true
  value : Nat.ofDigitChars 10 run 0 = n.toNat

/-- A run is read as the number that it writes.  There is no sign in it. -/
lemma IsRun.word64?_eq_some_iff {run : List Char} (h : IsRun run) {n : UInt64} :
    word64? run = some n ↔ RunWrites run n := by
  rw [Text.word64?_eq_some_iff]
  constructor
  · rintro ⟨digits, rfl | rfl, _, ascii, value⟩
    · exact ⟨ascii, value⟩
    · exact absurd (h.digits '+' List.mem_cons_self) (by decide)
  · rintro ⟨ascii, value⟩
    exact ⟨run, .inl rfl, h.filled, ascii, value⟩

namespace Version

/-- A text holds a version: its first triple writes the numbers of the version. -/
def Holds (text : String) (v : Version) : Prop :=
  ∃ i a b c, IsFirstTriple text.toList i a b c
    ∧ RunWrites a v.major ∧ RunWrites b v.minor ∧ RunWrites c v.patch

variable {text : String} {v : Version}

lemma ofDigits?_eq_some_iff (ha : IsRun a) (hb : IsRun b) (hc : IsRun c) :
    ofDigits? (a, b, c) = some v
      ↔ RunWrites a v.major ∧ RunWrites b v.minor ∧ RunWrites c v.patch := by
  rw [← ha.word64?_eq_some_iff, ← hb.word64?_eq_some_iff, ← hc.word64?_eq_some_iff]
  rcases v with ⟨major, minor, patch⟩
  simp only [ofDigits?, Option.pure_def, Option.bind_eq_bind, Option.bind_eq_some_iff,
    Option.some.injEq, mk.injEq]
  constructor
  · rintro ⟨_, first, _, second, _, third, rfl, rfl, rfl⟩
    exact ⟨first, second, third⟩
  · rintro ⟨first, second, third⟩
    exact ⟨_, first, _, second, _, third, rfl, rfl, rfl⟩

/-- The version that is found is the one that the text holds. -/
lemma find?_eq_some_iff : find? text = some v ↔ Holds text v := by
  rw [find?, Option.bind_eq_some_iff]
  constructor
  · rintro ⟨⟨a, b, c⟩, found, numbers⟩
    obtain ⟨i, first⟩ := firstTriple_eq_some_iff.1 found
    exact ⟨i, a, b, c, first, (ofDigits?_eq_some_iff first.major first.minor first.patch).1 numbers⟩
  · rintro ⟨i, a, b, c, first, numbers⟩
    exact ⟨(a, b, c), firstTriple_eq_some_iff.2 ⟨i, first⟩,
      (ofDigits?_eq_some_iff first.major first.minor first.patch).2 numbers⟩

lemma find?_eq_none_iff : find? text = none ↔ ¬ ∃ v, Holds text v := by
  rw [Option.eq_none_iff_forall_ne_some, not_exists]
  exact forall_congr' fun v => not_congr find?_eq_some_iff

/-- Where a text holds no version, the lowest one stands for it. -/
lemma extractOrUnknown_eq_iff : extractOrUnknown text = v
    ↔ Holds text v ∨ (¬ ∃ w, Holds text w) ∧ v = ⟨0, 0, 0⟩ := by
  rw [← find?_eq_none_iff, ← find?_eq_some_iff, extractOrUnknown]
  cases find? text with
  | some w => simp
  | none => simp [unknown, eq_comm]

/-- **Extraction gives the version that a text holds.**  Where it holds none, be it that there is no
triple or that the first one cannot be read, the failure carries the trimmed text, and the lowest
version stands for it. -/
theorem extract_first_triple (text : String) :
    (∀ v, extract text = .ok v ↔ Holds text v)
    ∧ (∀ f, extract text = .error f ↔ (¬ ∃ v, Holds text v) ∧ f = .versionParse (trimmed text))
    ∧ ∀ v, extractOrUnknown text = v
        ↔ Holds text v ∨ (¬ ∃ w, Holds text w) ∧ v = ⟨0, 0, 0⟩ := by
  refine ⟨?_, ?_, fun v => extractOrUnknown_eq_iff⟩
  · intro v
    rw [← find?_eq_some_iff, extract]
    cases find? text with
    | some w => simp
    | none => simp
  · intro f
    rw [← find?_eq_none_iff, extract]
    cases find? text with
    | some w => simp
    | none => simp [eq_comm]

/-- Candidates that break off late are left out, and digits that carry no value end the search. -/
example : find? "build 1.2a.3.4.5.6" = some ⟨3, 4, 5⟩ ∧ find? "1.٢.3 or 1.2.3" = none := by
  decide +kernel

end Version

end SignedUpgrade
