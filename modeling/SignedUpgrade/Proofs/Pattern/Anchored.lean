import SignedUpgrade.Proofs.Pattern.Stretches

/-!
# Patterns of whole texts

A pattern that begins with a start sign and ends with an end sign asks what a whole text looks like.
If words and runs stand between the signs, the text is cut into these, from left to right.

* `Form.word`, `Form.run` — a word, and characters of a set in a row;
* `Form.isIn_anchored` — a pattern with a start sign is looked for only at the start of a text;
* `Form.starts_word`, `Form.starts_run`, `Form.starts_lastRun`, `Form.starts_end` — how a text is
  cut.
-/

namespace SignedUpgrade.Pattern

variable {before : Option Char} {text cs : List Char} {p q : Place} {set : CharSet} {least : Nat}

/-- Behind a character, a place has a character in front of it. -/
lemma Reaches.before_ne_none {c : Char} {r : List Char} (h : Reaches ⟨some c, r⟩ q) :
    q.before ≠ none := by
  obtain ⟨front, _, last⟩ := Reaches.start_iff.1 h
  rw [last]
  cases front.getLast? <;> simp

/-- Nothing stands in front of the start of a text, and of no later place. -/
lemma Reaches.eq_start (h : Reaches ⟨none, text⟩ p) (start : p.before = none) :
    p = ⟨none, text⟩ := by
  cases h with
  | here => rfl
  | behind more => exact absurd start more.before_ne_none

namespace Form

variable {a f : Form}

/-- The form of a word in front of another form. -/
def word (cs : List Char) (f : Form) : Form :=
  cs.foldr (fun c f => .andThen (.one (.only c)) f) f

/-- The form of at least so many characters of a set in a row. -/
def run (set : CharSet) (least : Nat) : Form :=
  .times (.one set) least none

lemma word_cons {c : Char} : word (c :: cs) f = .andThen (.one (.only c)) (word cs f) :=
  rfl

lemma holds_only {c d : Char} : (CharSet.only c).holds d = true ↔ d = c := by
  rw [CharSet.only, CharSet.holds, Bool.and_eq_true_iff, decide_eq_true_eq, decide_eq_true_eq,
    ← Char.toNat_inj]
  omega

lemma holds_complement_only {c d : Char} :
    (CharSet.complement (.only c)).holds d = true ↔ d ≠ c := by
  rw [CharSet.holds, Bool.not_eq_true', ← Bool.not_eq_true, holds_only]

lemma starts_andThen : (andThen a f).Starts p ↔ ∃ m, a.Spans p m ∧ f.Starts m := by
  constructor
  · rintro ⟨q, m, first, last⟩
    exact ⟨m, first, q, last⟩
  · rintro ⟨m, first, q, last⟩
    exact ⟨q, m, first, last⟩

/-- **A pattern with a start sign is looked for only at the start of a text.** -/
lemma isIn_anchored (ordered : f.ordered = true) :
    (andThen (.look .textStart) f).isIn text = true ↔ f.Starts ⟨none, text⟩ := by
  rw [isIn_iff (ordered_andThen.2 ⟨rfl, ordered⟩)]
  constructor
  · rintro ⟨p, q, later, m, ⟨rfl, start⟩, spans⟩
    have same := later.eq_start (Option.isNone_iff_eq_none.1 start)
    subst same
    exact ⟨q, spans⟩
  · rintro ⟨q, spans⟩
    exact ⟨_, q, .here _, _, ⟨rfl, rfl⟩, spans⟩

/-- An end sign asks for the end of the text. -/
lemma starts_end : (look .textEnd).Starts ⟨before, text⟩ ↔ text = [] := by
  constructor
  · rintro ⟨q, rfl, ends⟩
    exact List.head?_eq_none_iff.1 (Option.isNone_iff_eq_none.1 ends)
  · rintro rfl
    exact ⟨_, rfl, rfl⟩

/-- A word asks for its characters. -/
lemma starts_word : (word cs f).Starts ⟨before, text⟩
    ↔ ∃ rest, text = cs ++ rest ∧ f.Starts ⟨cs.getLast?.or before, rest⟩ := by
  induction cs generalizing before text with
  | nil => simp [word]
  | cons c cs ih =>
    rw [getLast?_cons_or, word_cons, starts_andThen]
    constructor
    · rintro ⟨m, ⟨d, r, rfl, holds, rfl⟩, starts⟩
      obtain rfl := holds_only.1 holds
      obtain ⟨rest, rfl, behind⟩ := ih.1 starts
      exact ⟨rest, rfl, behind⟩
    · rintro ⟨rest, rfl, starts⟩
      exact ⟨_, ⟨c, _, rfl, holds_only.2 rfl, rfl⟩, ih.2 ⟨rest, rfl, starts⟩⟩

lemma starts_andThen_assoc {b : Form} :
    (andThen (andThen a b) f).Starts p ↔ (andThen a (andThen b f)).Starts p := by
  simp only [starts_andThen, Spans]
  constructor
  · rintro ⟨m, ⟨m', first, second⟩, starts⟩
    exact ⟨m', first, m, second, starts⟩
  · rintro ⟨m', first, m, second, starts⟩
    exact ⟨m, ⟨m', first, second⟩, starts⟩

/-- A word at the start of a part is a word at the start of the whole. -/
lemma starts_word_andThen :
    (andThen (word cs a) f).Starts p ↔ (word cs (andThen a f)).Starts p := by
  induction cs generalizing p with
  | nil => rfl
  | cons c cs ih =>
    rw [word_cons, word_cons, starts_andThen_assoc, starts_andThen, starts_andThen]
    exact exists_congr fun m => and_congr_right fun _ => ih

/-- Characters of a set in a row lead to the place behind them. -/
lemma repeated_one {n : Nat} : Repeated (one set).Spans n ⟨before, text⟩ q
    ↔ ∃ front, text = front ++ q.rest ∧ (∀ c ∈ front, set.holds c = true) ∧ front.length = n
      ∧ q.before = front.getLast?.or before := by
  induction n generalizing before text with
  | zero =>
    constructor
    · rintro rfl
      exact ⟨[], rfl, List.forall_mem_nil _, rfl, rfl⟩
    · rintro ⟨front, rfl, _, none, last⟩
      rw [List.eq_nil_of_length_eq_zero none] at last ⊢
      obtain ⟨b, rest⟩ := q
      cases last
      rfl
  | succ n ih =>
    constructor
    · rintro ⟨m, ⟨c, r, rfl, holds, rfl⟩, more⟩
      obtain ⟨front, rfl, all, count, last⟩ := ih.1 more
      exact ⟨c :: front, rfl, List.forall_mem_cons.2 ⟨holds, all⟩, congrArg _ count,
        last.trans (getLast?_cons_or c front _).symm⟩
    · rintro ⟨front, rfl, all, count, last⟩
      obtain ⟨c, front, rfl⟩ := List.exists_cons_of_length_eq_add_one count
      obtain ⟨holds, all⟩ := List.forall_mem_cons.1 all
      exact ⟨_, ⟨c, _, rfl, holds, rfl⟩, ih.2 ⟨front, rfl, all, Nat.succ.inj count,
        last.trans (getLast?_cons_or c front _)⟩⟩

/-- A run asks for any number of characters, if there are enough of them. -/
lemma starts_run : (andThen (run set least) f).Starts ⟨before, text⟩
    ↔ ∃ front rest, text = front ++ rest ∧ (∀ c ∈ front, set.holds c = true)
      ∧ least ≤ front.length ∧ f.Starts ⟨front.getLast?.or before, rest⟩ := by
  rw [starts_andThen]
  constructor
  · rintro ⟨⟨b, rest⟩, ⟨n, enough, _, steps⟩, starts⟩
    obtain ⟨front, rfl, all, rfl, rfl⟩ := repeated_one.1 steps
    exact ⟨front, rest, rfl, all, enough, starts⟩
  · rintro ⟨front, rest, rfl, all, enough, starts⟩
    exact ⟨_, ⟨front.length, enough, nofun, repeated_one.2 ⟨front, rfl, all, rfl, rfl⟩⟩, starts⟩

/-- At the end of a pattern, a run asks for enough characters. -/
lemma starts_lastRun : (run set least).Starts ⟨before, text⟩
    ↔ ∃ front rest, text = front ++ rest ∧ (∀ c ∈ front, set.holds c = true)
      ∧ least ≤ front.length := by
  constructor
  · rintro ⟨⟨b, rest⟩, n, enough, _, steps⟩
    obtain ⟨front, rfl, all, rfl, rfl⟩ := repeated_one.1 steps
    exact ⟨front, rest, rfl, all, enough⟩
  · rintro ⟨front, rest, rfl, all, enough⟩
    exact ⟨⟨front.getLast?.or before, rest⟩, front.length, enough, nofun,
      repeated_one.2 ⟨front, rfl, all, rfl, rfl⟩⟩

end Form

end SignedUpgrade.Pattern
