import Mathlib.Data.List.Basic
import Mathlib.Data.List.TakeWhile
import Mathlib.Tactic.Lemma
import SignedUpgrade.Text.Blank

/-!
# Trimming and lines

Blanks around a text are no part of it, and neither is what ends a line.

* `trim_between`, `eq_between_trim` — what trimming takes away;
* `trimmed_eq_empty_iff` — when nothing is left;
* `segments_of_notMem`, `segments_append` — where lines end;
* `segments_append_of_ended` — lines that are ended, and others behind them.
-/

namespace SignedUpgrade.Text

/-! ## Trimming -/

/-- A text between blanks is trimmed like the text alone. -/
lemma trim_between {front back : List Char} (hf : ∀ c ∈ front, isBlank c = true)
    (hb : ∀ c ∈ back, isBlank c = true) (cs : List Char) :
    trim (front ++ cs ++ back) = trim cs := by
  have dropped : ∀ {blanks : List Char}, (∀ c ∈ blanks, isBlank c = true) → ∀ cs : List Char,
      (blanks ++ cs).dropWhile isBlank = cs.dropWhile isBlank := by
    intro blanks all cs
    rw [List.dropWhile_append, List.dropWhile_eq_nil_iff.2 all]
    rfl
  have ends : ∀ cs : List Char, trimEnd (cs ++ back) = trimEnd cs := by
    intro cs
    rw [trimEnd, trimEnd, List.reverse_append, dropped (by simpa using hb)]
  rw [trim, trim, trimStart, List.append_assoc, dropped hf, List.dropWhile_append]
  split
  · rename_i nothing
    have start : trimStart cs = [] := List.isEmpty_iff.1 nothing
    rw [start, List.dropWhile_eq_nil_iff.2 hb]
  · exact ends _

/-- A text is what is left of it by trimming, between blanks. -/
lemma eq_between_trim (cs : List Char) : ∃ front back, cs = front ++ trim cs ++ back
    ∧ (∀ c ∈ front, isBlank c = true) ∧ (∀ c ∈ back, isBlank c = true) := by
  refine ⟨cs.takeWhile isBlank, ((trimStart cs).reverse.takeWhile isBlank).reverse, ?_, ?_, ?_⟩
  · have late : trimStart cs = trim cs ++ ((trimStart cs).reverse.takeWhile isBlank).reverse := by
      rw [trim, trimEnd, ← List.reverse_append, List.takeWhile_append_dropWhile,
        List.reverse_reverse]
    rw [List.append_assoc, ← late]
    exact List.takeWhile_append_dropWhile.symm
  · exact fun c mem => List.mem_takeWhile_imp mem
  · exact fun c mem => List.mem_takeWhile_imp (List.mem_reverse.1 mem)

/-- Nothing is left of a text of blanks, and of no other. -/
lemma trim_eq_nil_iff {cs : List Char} : trim cs = [] ↔ ∀ c ∈ cs, isBlank c = true := by
  constructor
  · intro nothing
    obtain ⟨front, back, cut, hf, hb⟩ := eq_between_trim cs
    rw [nothing, List.append_nil] at cut
    rw [cut]
    exact List.forall_mem_append.2 ⟨hf, hb⟩
  · intro blank
    simpa [trim, trimStart, trimEnd] using trim_between blank (List.forall_mem_nil _) []

lemma trimmed_eq_empty_iff {s : String} : trimmed s = "" ↔ allBlank s = true := by
  rw [trimmed, allBlank, List.all_eq_true, ← trim_eq_nil_iff, ← String.toList_inj]
  simp

/-- A text of blanks in which no blank stands is empty. -/
lemma eq_nil_of_blank {cs : List Char} (blank : ∀ c ∈ cs, isBlank c = true)
    (dense : ∀ c ∈ cs, isBlank c = false) : cs = [] := by
  refine List.eq_nil_iff_forall_not_mem.2 fun c mem => ?_
  have := blank c mem
  rw [dense c mem] at this
  cases this

lemma trim_of_dense {cs : List Char} (dense : ∀ c ∈ cs, isBlank c = false) : trim cs = cs := by
  obtain ⟨front, back, cut, hf, hb⟩ := eq_between_trim cs
  have nothing : front = [] := eq_nil_of_blank hf fun c mem => dense c (by rw [cut]; simp [mem])
  have nothing' : back = [] := eq_nil_of_blank hb fun c mem => dense c (by rw [cut]; simp [mem])
  rw [nothing, nothing', List.nil_append, List.append_nil] at cut
  exact cut.symm

/-- What stands at the start of a text is not trimmed, whatever follows it. -/
lemma prefix_trim {c : Char} {cs : List Char} (dense : ∀ d ∈ c :: cs, isBlank d = false)
    (rest : List Char) : c :: cs <+: trim (c :: cs ++ rest) := by
  obtain ⟨front, back, cut, hf, hb⟩ := eq_between_trim (c :: cs ++ rest)
  have nothing : front = [] := by
    cases front with
    | nil => rfl
    | cons d front =>
      obtain ⟨rfl, _⟩ := List.cons.inj cut
      have := hf c List.mem_cons_self
      rw [dense c List.mem_cons_self] at this
      cases this
  rw [nothing, List.nil_append] at cut
  rcases List.append_eq_append_iff.1 cut with ⟨more, trimmed, _⟩ | ⟨more, whole, blanks⟩
  · exact ⟨more, trimmed.symm⟩
  · have none : more = [] := by
      refine eq_nil_of_blank (fun c mem => hb c ?_) fun c mem => dense c ?_
      · rw [blanks]
        exact List.mem_append_left _ mem
      · rw [whole]
        exact List.mem_append_right _ mem
    rw [none, List.append_nil] at whole
    exact ⟨[], by rw [List.append_nil, ← whole]⟩

/-! ## Lines -/

/-- A carriage return at the end of a line is blank. -/
lemma trim_dropCarriageReturn (line : List Char) : trim (dropCarriageReturn line) = trim line := by
  unfold dropCarriageReturn
  split
  · rename_i last
    obtain ⟨_, rfl⟩ := List.getLast?_eq_some_iff.1 last
    have blank : ∀ c ∈ ['\r'], isBlank c = true := List.forall_mem_singleton.2 (by decide)
    simpa using (trim_between (List.forall_mem_nil _) blank _).symm
  · rfl

/-- A text without a line feed is one unfinished line. -/
lemma segments_of_notMem {line : List Char} (h : '\n' ∉ line) : segments line = ([], line) := by
  induction line with
  | nil => rfl
  | cons c line ih =>
    obtain ⟨first, others⟩ := List.ne_and_not_mem_of_not_mem_cons h
    simp only [segments, ih others, if_neg first.symm]

/-- A line feed ends the line before it. -/
lemma segments_append {line : List Char} (h : '\n' ∉ line) (rest : List Char) :
    segments (line ++ '\n' :: rest) = (line :: (segments rest).1, (segments rest).2) := by
  induction line with
  | nil => simp [segments]
  | cons c line ih =>
    obtain ⟨first, others⟩ := List.ne_and_not_mem_of_not_mem_cons h
    simp only [List.cons_append, segments, ih others, if_neg first.symm]

/-- Lines that are ended stay as they are, whatever follows them. -/
lemma segments_append_of_ended {front : List Char} (ended : (segments front).2 = [])
    (more : List Char) : segments (front ++ more)
      = ((segments front).1 ++ (segments more).1, (segments more).2) := by
  induction front with
  | nil => rfl
  | cons c r ih =>
    rw [segments] at ended
    rw [List.cons_append, segments, segments]
    rcases found : segments r with ⟨lines, rest⟩
    rw [found] at ended ih
    by_cases feed : c = '\n'
    · simp only [if_pos feed] at ended
      rw [ih ended]
      simp [feed]
    · simp only [if_neg feed] at ended
      cases lines with
      | nil => simp at ended
      | cons line lines =>
        rw [ih ended]
        simp [feed]

/-- A text that is empty or ends with a line feed consists of lines that are ended. -/
lemma segments_ended {cs : List Char} (ended : cs = [] ∨ cs.getLast? = some '\n') :
    (segments cs).2 = [] := by
  rcases ended with rfl | last
  · rfl
  · obtain ⟨front, rfl⟩ := List.getLast?_eq_some_iff.1 last
    -- there is a line, so what stands before it belongs to that line or to one before
    obtain ⟨line, lines, found⟩ : ∃ line lines, segments (front ++ ['\n']) = (line :: lines, []) := by
      induction front with
      | nil => exact ⟨[], [], rfl⟩
      | cons c r ih =>
        obtain ⟨line, lines, found⟩ := ih (by simp)
        rw [List.cons_append, segments, found]
        by_cases feed : c = '\n'
        · exact ⟨[], line :: lines, by simp [feed]⟩
        · exact ⟨c :: line, lines, by simp [feed]⟩
    rw [found]

end SignedUpgrade.Text
