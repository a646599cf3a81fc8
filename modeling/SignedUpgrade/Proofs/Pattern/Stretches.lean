import Mathlib.Data.List.Basic
import Mathlib.Tactic.Lemma
import SignedUpgrade.Pattern.Basic

/-!
# Stretches of a form

A form says which stretches of a text have it, and a search goes through the text only once: it
keeps the forms that are left over of the stretches which have begun.  Both tell the same.

* `Place`, `Reaches` — places in a text, and which of them come later;
* `Form.Spans` — **what a form says:** the stretch from one place to another one has it;
* `Form.canEnd_iff` — a form is met by the empty stretch at a place;
* `Form.spans_step_iff` — what is left over after one character;
* `Form.isIn_iff` — **the search finds a stretch if there is one.**

Repetitions have to be ordered, which means that their least number does not exceed the greatest
one.
-/

namespace SignedUpgrade.Pattern

/-- The last character of a text behind its first one. -/
lemma getLast?_cons_or (c : Char) (cs : List Char) (before : Option Char) :
    (c :: cs).getLast?.or before = cs.getLast?.or (some c) := by
  rw [List.getLast?_cons]
  cases cs.getLast? <;> rfl

/-! ## Places -/

/-- A place in a text: the character in front of it, if there is one, and the text behind it. -/
structure Place where
  before : Option Char
  rest : List Char
  deriving DecidableEq, Repr

/-- The second place is the first one, or comes later. -/
inductive Reaches : Place → Place → Prop where
  | here (p : Place) : Reaches p p
  | behind {before : Option Char} {c : Char} {r : List Char} {q : Place}
      (more : Reaches ⟨some c, r⟩ q) : Reaches ⟨before, c :: r⟩ q

namespace Reaches

variable {p q m : Place} {before : Option Char} {c : Char} {r : List Char}

lemma trans (h : Reaches p m) (h' : Reaches m q) : Reaches p q := by
  induction h with
  | here => exact h'
  | behind _ ih => exact .behind (ih h')

/-- A later place has less text behind it. -/
lemma length_le (h : Reaches p q) : q.rest.length ≤ p.rest.length := by
  induction h with
  | here => exact Nat.le_refl _
  | behind _ ih => exact Nat.le_succ_of_le ih

lemma cons_iff : Reaches ⟨before, c :: r⟩ q ↔ q = ⟨before, c :: r⟩ ∨ Reaches ⟨some c, r⟩ q := by
  constructor
  · rintro (_ | more)
    · exact .inl rfl
    · exact .inr more
  · rintro (rfl | more)
    · exact .here _
    · exact .behind more

lemma nil_iff : Reaches ⟨before, []⟩ q ↔ q = ⟨before, []⟩ := by
  constructor
  · rintro ⟨⟩
    rfl
  · rintro rfl
    exact .here _

/-- Behind a character, the place in front of it is not reached any more. -/
lemma ne_of_behind (h : Reaches ⟨some c, r⟩ q) : q ≠ ⟨before, c :: r⟩ := by
  rintro rfl
  exact absurd h.length_le (Nat.not_succ_le_self r.length)

lemma antisymm (h : Reaches p q) (h' : Reaches q p) : q = p := by
  cases h with
  | here => rfl
  | behind more => exact absurd rfl (ne_of_behind (more.trans h'))

/-- The places of a text are those behind its beginnings. -/
lemma start_iff {text : List Char} : Reaches ⟨before, text⟩ q
    ↔ ∃ front, text = front ++ q.rest ∧ q.before = front.getLast?.or before := by
  constructor
  · intro h
    generalize start : (⟨before, text⟩ : Place) = p at h
    induction h generalizing before text with
    | here =>
      subst start
      exact ⟨[], rfl, rfl⟩
    | @behind b c r q more ih =>
      cases start
      obtain ⟨front, cut, last⟩ := ih rfl
      exact ⟨c :: front, by rw [cut]; rfl, last.trans (getLast?_cons_or c front _).symm⟩
  · rintro ⟨front, rfl, last⟩
    induction front generalizing before with
    | nil =>
      obtain ⟨b, rest⟩ := q
      cases last
      exact .here _
    | cons c front ih =>
      exact .behind (ih (last.trans (getLast?_cons_or c front _)))

end Reaches

/-! ## What forms say -/

/-- A number of steps in a row. -/
def Repeated (R : Place → Place → Prop) : Nat → Place → Place → Prop
  | 0, p, q => q = p
  | n + 1, p, q => ∃ m, R p m ∧ Repeated R n m q

namespace Form

/-- The stretch from one place to another one has a form. -/
def Spans : Form → Place → Place → Prop
  | .nothing => fun p q => q = p
  | .one set => fun p q => ∃ c r, p.rest = c :: r ∧ set.holds c = true ∧ q = ⟨some c, r⟩
  | .look l => fun p q => q = p ∧ l.holds p.before p.rest.head? = true
  | .andThen a b => fun p q => ∃ m, a.Spans p m ∧ b.Spans m q
  | .orElse a b => fun p q => a.Spans p q ∨ b.Spans p q
  | .times a least most => fun p q =>
    ∃ n, least ≤ n ∧ (∀ bound ∈ most, n ≤ bound) ∧ Repeated a.Spans n p q

/-- The least number of each repetition does not exceed the greatest one. -/
def ordered : Form → Bool
  | .andThen a b => a.ordered && b.ordered
  | .orElse a b => a.ordered && b.ordered
  | .times a least most => a.ordered && most.all (least ≤ ·)
  | _ => true

variable {a b f rest first : Form} {p q : Place} {before : Option Char} {c : Char} {r : List Char}
  {least n : Nat} {most : Option Nat}

lemma ordered_andThen : (andThen a b).ordered = true ↔ a.ordered = true ∧ b.ordered = true :=
  Bool.and_eq_true_iff

lemma ordered_orElse : (orElse a b).ordered = true ↔ a.ordered = true ∧ b.ordered = true :=
  Bool.and_eq_true_iff

lemma ordered_times : (times a least most).ordered = true
    ↔ a.ordered = true ∧ ∀ bound ∈ most, least ≤ bound := by
  rw [ordered, Bool.and_eq_true_iff, Option.all_eq_true]
  simp only [decide_eq_true_eq]
  rfl

end Form

/-! ## Repetitions -/

section Repetitions

variable {R : Place → Place → Prop} {p q : Place} {n : Nat}

lemma Repeated.reaches (later : ∀ {p q}, R p q → Reaches p q) (h : Repeated R n p q) :
    Reaches p q := by
  induction n generalizing p with
  | zero =>
    rw [Repeated] at h
    exact h ▸ .here p
  | succ n ih =>
    obtain ⟨m, step, more⟩ := h
    exact (later step).trans (ih more)

/-- A step that leads nowhere can be made as often as one likes. -/
lemma Repeated.stay (here : R p p) (n : Nat) (h : Repeated R n p q) (k : Nat) :
    Repeated R (k + n) p q := by
  induction k with
  | zero => rwa [Nat.zero_add]
  | succ k ih =>
    rw [Nat.succ_add]
    exact ⟨p, here, ih⟩

/-- Steps that lead on have a first one that leads on, and all steps before it lead nowhere. -/
lemma Repeated.first_on (h : Repeated R n p q) (on : q ≠ p) :
    ∃ k m, k < n ∧ (k = 0 ∨ R p p) ∧ R p m ∧ m ≠ p ∧ Repeated R (n - (k + 1)) m q := by
  induction n with
  | zero => exact absurd h on
  | succ n ih =>
    obtain ⟨m, step, more⟩ := h
    by_cases here : m = p
    · subst here
      obtain ⟨k, m', less, _, step', on', more'⟩ := ih more
      refine ⟨k + 1, m', Nat.succ_lt_succ less, .inr step, step', on', ?_⟩
      rwa [Nat.succ_sub_succ]
    · exact ⟨0, m, Nat.succ_pos n, .inl rfl, step, here, more⟩

end Repetitions

namespace Form

variable {a b f rest first : Form} {p q : Place} {before : Option Char} {c : Char} {r : List Char}
  {least n : Nat} {most : Option Nat}

/-- A stretch ends at its beginning or later. -/
lemma Spans.reaches (h : f.Spans p q) : Reaches p q := by
  induction f generalizing p q with
  | nothing => exact h ▸ .here p
  | one set =>
    obtain ⟨before, text⟩ := p
    obtain ⟨c, r, same, _, rfl⟩ := h
    cases same
    exact .behind (.here _)
  | look l => exact h.1 ▸ .here p
  | andThen a b iha ihb =>
    obtain ⟨m, first, last⟩ := h
    exact (iha first).trans (ihb last)
  | orElse a b iha ihb => exact h.elim iha ihb
  | times a least most ih =>
    obtain ⟨n, _, _, steps⟩ := h
    exact steps.reaches ih

/-! ## The empty stretch -/

lemma spans_andThen_self : (andThen a b).Spans p p ↔ a.Spans p p ∧ b.Spans p p := by
  constructor
  · rintro ⟨m, first, last⟩
    cases first.reaches.antisymm last.reaches
    exact ⟨first, last⟩
  · rintro ⟨first, last⟩
    exact ⟨p, first, last⟩

lemma spans_times_self (ordered : ∀ bound ∈ most, least ≤ bound) :
    (times a least most).Spans p p ↔ least = 0 ∨ a.Spans p p := by
  constructor
  · rintro ⟨n, enough, _, steps⟩
    cases n with
    | zero => exact .inl (Nat.le_zero.1 enough)
    | succ n =>
      obtain ⟨m, step, more⟩ := steps
      cases step.reaches.antisymm (more.reaches Spans.reaches)
      exact .inr step
  · rintro (none | here)
    · exact ⟨0, Nat.le_of_eq none, fun _ _ => Nat.zero_le _, rfl⟩
    · exact ⟨least, Nat.le_refl _, ordered, Repeated.stay here 0 rfl least⟩

/-- **A form is met by the empty stretch at a place.** -/
lemma canEnd_iff (ordered : f.ordered = true) :
    f.canEnd p.before p.rest.head? = true ↔ f.Spans p p := by
  induction f with
  | nothing => simp [canEnd, Spans]
  | one set =>
    refine iff_of_false (by simp [canEnd]) ?_
    rintro ⟨c, r, same, _, back⟩
    obtain ⟨before, text⟩ := p
    cases same
    cases back
  | look l => simp [canEnd, Spans]
  | andThen a b iha ihb =>
    obtain ⟨ha, hb⟩ := ordered_andThen.1 ordered
    rw [canEnd, Bool.and_eq_true_iff, iha ha, ihb hb, spans_andThen_self]
  | orElse a b iha ihb =>
    obtain ⟨ha, hb⟩ := ordered_orElse.1 ordered
    rw [canEnd, Bool.or_eq_true_iff, iha ha, ihb hb, Spans]
  | times a least most ih =>
    obtain ⟨ha, bounds⟩ := ordered_times.1 ordered
    rw [canEnd, Bool.or_eq_true_iff, ih ha, beq_iff_eq, spans_times_self bounds]

lemma canEnd_nil (ordered : f.ordered = true) :
    f.canEnd before none = true ↔ f.Spans ⟨before, []⟩ ⟨before, []⟩ :=
  canEnd_iff (p := ⟨before, []⟩) ordered

lemma canEnd_cons (ordered : f.ordered = true) :
    f.canEnd before (some c) = true ↔ f.Spans ⟨before, c :: r⟩ ⟨before, c :: r⟩ :=
  canEnd_iff (p := ⟨before, c :: r⟩) ordered

/-! ## What is left over after a character -/

lemma spans_followedBy :
    (followedBy rest first).Spans p q ↔ ∃ m, first.Spans p m ∧ rest.Spans m q := by
  unfold followedBy
  split
  · rename_i nothing
    subst nothing
    simp [Spans]
  · rfl

lemma ordered_followedBy (hr : rest.ordered = true) (hf : first.ordered = true) :
    (followedBy rest first).ordered = true := by
  unfold followedBy
  split
  · exact hr
  · exact ordered_andThen.2 ⟨hf, hr⟩

/-- What is left of repetitions after some of them: as many fewer have to follow and may follow. -/
lemma mem_timesAfter : f ∈ timesAfter a least most n
    ↔ (∀ bound ∈ most, n ≤ bound) ∧ f = times a (least - n) (most.map (· - n)) := by
  cases most with
  | none => simp [timesAfter]
  | some bound =>
    unfold timesAfter
    dsimp only
    split
    · rename_i enough
      simp [enough]
    · rename_i short
      simp [short]

/-- How many of the repetitions before the first one with a character count. -/
def empties (a : Form) (least : Nat) (before : Option Char) (c : Char) : Nat :=
  if a.canEnd before (some c) then least - 1 else 0

/-- The forms left over of repetitions: empty ones, one that the character begins, and others. -/
lemma mem_step_times : f ∈ (times a least most).step before c
    ↔ ∃ k ≤ empties a least before c, (∀ bound ∈ most, k + 1 ≤ bound)
      ∧ ∃ g ∈ a.step before c,
        f = followedBy (times a (least - (k + 1)) (most.map (· - (k + 1)))) g := by
  rw [step]
  simp only [List.mem_flatMap, List.mem_range, Nat.lt_succ_iff, mem_timesAfter, List.mem_map]
  constructor
  · rintro ⟨k, few, _, ⟨bounds, rfl⟩, g, mem, rfl⟩
    exact ⟨k, few, bounds, g, mem, rfl⟩
  · rintro ⟨k, few, bounds, g, mem, rfl⟩
    exact ⟨k, few, _, ⟨bounds, rfl⟩, g, mem, rfl⟩

/-- A stretch goes on behind a character. -/
def SpansOn (f : Form) (before : Option Char) (c : Char) (r : List Char) (q : Place) : Prop :=
  f.Spans ⟨before, c :: r⟩ q ∧ q ≠ ⟨before, c :: r⟩

lemma spansOn_one {set : CharSet} :
    (one set).SpansOn before c r q ↔ set.holds c = true ∧ q = ⟨some c, r⟩ := by
  constructor
  · rintro ⟨⟨d, r', same, holds, rfl⟩, _⟩
    cases same
    exact ⟨holds, rfl⟩
  · rintro ⟨holds, rfl⟩
    exact ⟨⟨c, r, rfl, holds, rfl⟩, Reaches.ne_of_behind (.here _)⟩

lemma spansOn_orElse : (orElse a b).SpansOn before c r q
    ↔ a.SpansOn before c r q ∨ b.SpansOn before c r q :=
  or_and_right

/-- The first part of a stretch goes on behind the character, or it is empty and the second one goes
on. -/
lemma spansOn_andThen : (andThen a b).SpansOn before c r q
    ↔ (∃ m, a.SpansOn before c r m ∧ b.Spans m q)
      ∨ a.Spans ⟨before, c :: r⟩ ⟨before, c :: r⟩ ∧ b.SpansOn before c r q := by
  constructor
  · rintro ⟨⟨m, first, last⟩, on⟩
    by_cases here : m = ⟨before, c :: r⟩
    · subst here
      exact .inr ⟨first, last, on⟩
    · exact .inl ⟨m, ⟨first, here⟩, last⟩
  · rintro (⟨m, ⟨first, on⟩, last⟩ | ⟨first, last, on⟩)
    · refine ⟨⟨m, first, last⟩, ?_⟩
      rintro rfl
      exact on (first.reaches.antisymm last.reaches)
    · exact ⟨⟨_, first, last⟩, on⟩

/-- The first repetition that goes on behind the character comes after empty ones.  Of these, only
as many matter as have to be there. -/
lemma spansOn_times (ordered : a.ordered = true) : (times a least most).SpansOn before c r q
    ↔ ∃ k ≤ empties a least before c, (∀ bound ∈ most, k + 1 ≤ bound)
      ∧ ∃ m, a.SpansOn before c r m
        ∧ (times a (least - (k + 1)) (most.map (· - (k + 1)))).Spans m q := by
  constructor
  · rintro ⟨⟨n, enough, bounds, steps⟩, on⟩
    obtain ⟨k, m, less, stay, step, on', more⟩ := steps.first_on on
    have few : min k (least - 1) ≤ empties a least before c := by
      rcases stay with rfl | here
      · rw [Nat.zero_min]
        exact Nat.zero_le _
      · rw [empties, if_pos ((canEnd_cons ordered).2 here)]
        exact Nat.min_le_right _ _
    refine ⟨min k (least - 1), few, fun bound mem => ?_, m, ⟨step, on'⟩, n - (k + 1), ?_, ?_, more⟩
    · have := bounds bound mem
      omega
    · omega
    · intro bound mem
      obtain ⟨bound', mem', rfl⟩ := Option.map_eq_some_iff.1 mem
      have := bounds bound' mem'
      omega
  · rintro ⟨k, few, bounds, m, ⟨step, on⟩, n, enough, bounds', steps⟩
    refine ⟨⟨k + (n + 1), by omega, fun bound mem => ?_, ?_⟩, ?_⟩
    · have := bounds bound mem
      have := bounds' (bound - (k + 1)) (Option.map_eq_some_iff.2 ⟨bound, mem, rfl⟩)
      omega
    · have one : Repeated a.Spans (n + 1) ⟨before, c :: r⟩ q := ⟨m, step, steps⟩
      by_cases here : a.canEnd before (some c) = true
      · exact one.stay ((canEnd_cons ordered).1 here) _ k
      · rw [empties, if_neg here] at few
        rw [Nat.le_zero.1 few, Nat.zero_add]
        exact one
    · rintro rfl
      exact on (step.reaches.antisymm (steps.reaches Spans.reaches))

/-- **What is left over after a character** are the forms of what follows it in the stretches that
go on. -/
theorem spans_step_iff (ordered : f.ordered = true) :
    (∃ g ∈ f.step before c, g.Spans ⟨some c, r⟩ q) ↔ f.SpansOn before c r q := by
  induction f generalizing q with
  | nothing => simp [step, SpansOn, Spans]
  | one set =>
    rw [step, spansOn_one]
    split
    · rename_i holds
      simp [Spans, holds]
    · rename_i other
      simp [other]
  | look l =>
    refine iff_of_false (by simp [step]) ?_
    rintro ⟨⟨back, _⟩, on⟩
    exact on back
  | andThen a b iha ihb =>
    obtain ⟨ha, hb⟩ := ordered_andThen.1 ordered
    rw [spansOn_andThen, ← canEnd_cons ha, ← ihb hb, step]
    simp only [← iha ha, List.mem_append, List.mem_map]
    constructor
    · rintro ⟨_, ⟨g, mem, rfl⟩ | mem, spans⟩
      · obtain ⟨m, first, last⟩ := spans_followedBy.1 spans
        exact .inl ⟨m, ⟨g, mem, first⟩, last⟩
      · split at mem
        · rename_i ends
          exact .inr ⟨ends, _, mem, spans⟩
        · cases mem
    · rintro (⟨m, ⟨g, mem, first⟩, last⟩ | ⟨ends, g, mem, spans⟩)
      · exact ⟨_, .inl ⟨g, mem, rfl⟩, spans_followedBy.2 ⟨m, first, last⟩⟩
      · exact ⟨g, .inr (by rwa [if_pos ends]), spans⟩
  | orElse a b iha ihb =>
    obtain ⟨ha, hb⟩ := ordered_orElse.1 ordered
    rw [spansOn_orElse, ← iha ha, ← ihb hb, step]
    simp only [List.mem_append, or_and_right, exists_or]
  | times a least most ih =>
    obtain ⟨ha, _⟩ := ordered_times.1 ordered
    rw [spansOn_times ha]
    simp only [mem_step_times, ← ih ha]
    constructor
    · rintro ⟨_, ⟨k, few, bounds, g, mem, rfl⟩, spans⟩
      obtain ⟨m, first, last⟩ := spans_followedBy.1 spans
      exact ⟨k, few, bounds, m, ⟨g, mem, first⟩, last⟩
    · rintro ⟨k, few, bounds, m, ⟨g, mem, first⟩, last⟩
      exact ⟨_, ⟨k, few, bounds, g, mem, rfl⟩, spans_followedBy.2 ⟨m, first, last⟩⟩

/-- What is left over is ordered, too. -/
lemma ordered_step (ordered : f.ordered = true) (mem : a ∈ f.step before c) :
    a.ordered = true := by
  induction f generalizing a with
  | nothing => cases mem
  | one set =>
    rw [step] at mem
    split at mem
    · rw [List.mem_singleton.1 mem]
      rfl
    · cases mem
  | look l => cases mem
  | andThen d e ihd ihe =>
    obtain ⟨hd, he⟩ := ordered_andThen.1 ordered
    rw [step, List.mem_append, List.mem_map] at mem
    rcases mem with ⟨g, mem, rfl⟩ | mem
    · exact ordered_followedBy he (ihd hd mem)
    · split at mem
      · exact ihe he mem
      · cases mem
  | orElse d e ihd ihe =>
    obtain ⟨hd, he⟩ := ordered_orElse.1 ordered
    rw [step, List.mem_append] at mem
    exact mem.elim (ihd hd) (ihe he)
  | times d least most ih =>
    obtain ⟨hd, bounds⟩ := ordered_times.1 ordered
    obtain ⟨k, _, _, g, begun, rfl⟩ := mem_step_times.1 mem
    refine ordered_followedBy (ordered_times.2 ⟨hd, fun bound left => ?_⟩) (ih hd begun)
    obtain ⟨bound, given, rfl⟩ := Option.map_eq_some_iff.1 left
    exact Nat.sub_le_sub_right (bounds bound given) _

/-! ## The search -/

/-- Some stretch that starts at a place has a form. -/
def Starts (f : Form) (p : Place) : Prop :=
  ∃ q, f.Spans p q

/-- At the end of a text, only empty stretches start. -/
lemma starts_nil (ordered : f.ordered = true) :
    f.Starts ⟨before, []⟩ ↔ f.canEnd before none = true := by
  rw [canEnd_nil ordered]
  constructor
  · rintro ⟨q, spans⟩
    rwa [Reaches.nil_iff.1 spans.reaches] at spans
  · exact fun spans => ⟨_, spans⟩

/-- In front of a character, a stretch is empty or goes on behind the character. -/
lemma starts_cons (ordered : f.ordered = true) : f.Starts ⟨before, c :: r⟩
    ↔ f.canEnd before (some c) = true ∨ ∃ g ∈ f.step before c, g.Starts ⟨some c, r⟩ := by
  rw [canEnd_cons ordered]
  constructor
  · rintro ⟨q, spans⟩
    by_cases here : q = ⟨before, c :: r⟩
    · subst here
      exact .inl spans
    · obtain ⟨g, mem, on⟩ := (spans_step_iff ordered).2 ⟨spans, here⟩
      exact .inr ⟨g, mem, q, on⟩
  · rintro (spans | ⟨g, mem, q, on⟩)
    · exact ⟨_, spans⟩
    · exact ⟨q, ((spans_step_iff ordered).1 ⟨g, mem, on⟩).1⟩

/-- The same of several forms: what is left over of them is kept only once. -/
lemma exists_starts_cons {forms : List Form} (all : ∀ f ∈ forms, f.ordered = true) :
    (∃ f ∈ forms, f.Starts ⟨before, c :: r⟩)
      ↔ forms.any (canEnd before (some c)) = true
        ∨ ∃ g ∈ (forms.flatMap (step before c)).eraseDups, g.Starts ⟨some c, r⟩ := by
  simp only [List.any_eq_true, List.mem_eraseDups, List.mem_flatMap]
  constructor
  · rintro ⟨f, mem, starts⟩
    rcases (starts_cons (all f mem)).1 starts with ends | ⟨g, left, on⟩
    · exact .inl ⟨f, mem, ends⟩
    · exact .inr ⟨g, ⟨f, mem, left⟩, on⟩
  · rintro (⟨f, mem, ends⟩ | ⟨g, ⟨f, mem, left⟩, on⟩)
    · exact ⟨f, mem, (starts_cons (all f mem)).2 (.inl ends)⟩
    · exact ⟨f, mem, (starts_cons (all f mem)).2 (.inr ⟨g, left, on⟩)⟩

/-- The search goes on with all forms that have begun, and starts the given one at each place. -/
lemma isInFrom_iff {form : Form} (ordered : form.ordered = true) {pending : List Form}
    (all : ∀ f ∈ pending, f.ordered = true) {text : List Char} :
    isInFrom form pending before text = true
      ↔ (∃ f ∈ pending, f.Starts ⟨before, text⟩)
        ∨ ∃ p, Reaches ⟨before, text⟩ p ∧ form.Starts p := by
  induction text generalizing pending before with
  | nil =>
    rw [isInFrom, List.any_eq_true]
    simp only [Reaches.nil_iff, exists_eq_left, starts_nil ordered, List.exists_mem_cons_iff]
    rw [or_comm]
    refine or_congr_left (exists_congr fun f => and_congr_right fun mem => ?_)
    rw [starts_nil (all f mem)]
  | cons c r ih =>
    have all' : ∀ f ∈ form :: pending, f.ordered = true := List.forall_mem_cons.2 ⟨ordered, all⟩
    rw [isInFrom, Bool.or_eq_true_iff, ih]
    · rw [← or_assoc, ← exists_starts_cons all', List.exists_mem_cons_iff]
      simp only [Reaches.cons_iff, or_and_right, exists_or, exists_eq_left]
      rw [or_assoc, or_left_comm]
    · intro g mem
      obtain ⟨f, mem, left⟩ := List.mem_flatMap.1 (List.mem_eraseDups.1 mem)
      exact ordered_step (all' f mem) left

/-- **The search finds a stretch if there is one.** -/
theorem isIn_iff {form : Form} (ordered : form.ordered = true) {text : List Char} :
    form.isIn text = true ↔ ∃ p q, Reaches ⟨none, text⟩ p ∧ form.Spans p q := by
  rw [isIn, isInFrom_iff ordered (List.forall_mem_nil _)]
  simp [Starts]

end Form

end SignedUpgrade.Pattern
