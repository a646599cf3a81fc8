import SignedUpgrade.Text.Quoted
import Mathlib.Tactic.Lemma

/-!
# What a shell reads in a literal

A literal is written with apostrophes, and apostrophes inside it are doubled.  The shell takes four
more characters for quotes, which are written as they are.  So what it reads is what was written
only as long as a text has none of these, and it finds the end of the literal only as long as they
come in pairs.

* `Straight` — texts in which the apostrophe is the only quote;
* `Settled` — texts in which quotes that are read two by two leave none over;
* `readLiteral_quoteChars_iff` — **exactly straight texts are read as they were written**;
* `readLiteral_ends_iff` — **exactly the literals of settled texts end where they were closed**.
-/

namespace SignedUpgrade.Text.Quoted

/-! ## Texts and their quotes -/

/-- The apostrophe is the only quote of a text. -/
def Straight (cs : List Char) : Prop :=
  ∀ c ∈ cs, isQuote c = true → c = apostrophe

instance (cs : List Char) : Decidable (Straight cs) :=
  List.decidableBAll _ cs

/-- Whether quotes that are read two by two leave none over in any run of quotes.  An apostrophe
is written twice and changes nothing; `waiting` tells whether a quote waits for its second one. -/
def settles (waiting : Bool) : List Char → Bool
  | [] => !waiting
  | c :: cs =>
    if c = apostrophe then settles waiting cs
    else if isQuote c then settles (!waiting) cs
    else !waiting && settles false cs

/-- In every run of quotes, the number of those that are no apostrophes is even. -/
def Settled (cs : List Char) : Prop :=
  settles false cs = true

/-- A text that does not go on with a quote. -/
def Unquoted (rest : List Char) : Prop :=
  ∀ c ∈ rest.head?, isQuote c = false

instance (rest : List Char) : Decidable (Unquoted rest) :=
  Option.decidableForallMem rest.head?

lemma unquoted_cons {c : Char} {cs : List Char} : Unquoted (c :: cs) ↔ isQuote c = false := by
  simp [Unquoted]

lemma isQuote_apostrophe : isQuote apostrophe = true := rfl

/-- A straight text is settled. -/
theorem Straight.settled {cs : List Char} (h : Straight cs) : Settled cs := by
  induction cs with
  | nil => rfl
  | cons c cs ih =>
    have rest := ih fun d mem => h d (List.mem_cons_of_mem _ mem)
    unfold Settled settles
    by_cases straight : c = apostrophe
    · rw [if_pos straight]
      exact rest
    · have plain : isQuote c = false := by
        rw [Bool.eq_false_iff]
        exact fun quote => straight (h c List.mem_cons_self quote)
      rw [if_neg straight, plain]
      exact rest

/-! ## Steps of the reader -/

lemma readBody_plain {c : Char} (plain : isQuote c = false) (cs : List Char) :
    readBody (c :: cs) = (readBody cs).map fun (text, rest) => (c :: text, rest) := by
  cases cs with
  | nil => simp [readBody, plain]
  | cons d r => rw [readBody, plain, if_neg (by simp)]

/-- Two quotes stand for the first of them. -/
lemma readBody_pair {c d : Char} (first : isQuote c = true) (second : isQuote d = true)
    (r : List Char) :
    readBody (c :: d :: r) = (readBody r).map fun (text, rest) => (c :: text, rest) := by
  rw [readBody, first, second, if_pos rfl, if_pos rfl]

/-- A quote that stands alone ends a literal. -/
lemma readBody_end {c : Char} (quote : isQuote c = true) {rest : List Char}
    (unquoted : Unquoted rest) : readBody (c :: rest) = some ([], rest) := by
  cases rest with
  | nil => rw [readBody, quote, if_pos rfl]
  | cons d r => rw [readBody, quote, unquoted_cons.1 unquoted, if_pos rfl, if_neg (by simp)]

/-- What is read accounts for what is gone: a quote costs two characters, any other character one,
and the end of the literal one. -/
lemma readBody_length {cs text rest : List Char} (h : readBody cs = some (text, rest)) :
    cs.length = text.length + text.countP isQuote + 1 + rest.length ∧ rest <:+ cs := by
  induction cs using readBody.induct generalizing text rest with
  | case1 => cases h
  | case2 c quote =>
    rw [readBody, if_pos quote] at h
    cases h
    exact ⟨by simp, List.suffix_cons _ _⟩
  | case3 c plain =>
    rw [readBody, if_neg plain] at h
    cases h
  | case4 c d r first second ih =>
    rw [readBody_pair first second, Option.map_eq_some_iff] at h
    obtain ⟨⟨text', rest'⟩, read, ⟨⟩⟩ := h
    obtain ⟨count, suffix⟩ := ih read
    refine ⟨?_, suffix.trans ((List.suffix_cons _ _).trans (List.suffix_cons _ _))⟩
    simp only [List.length_cons, List.countP_cons_of_pos first]
    omega
  | case5 c d r quote plain =>
    rw [readBody_end quote (unquoted_cons.2 (by simpa using plain))] at h
    cases h
    exact ⟨by simp [Nat.add_comm], List.suffix_cons _ _⟩
  | case6 c d r plain ih =>
    have plain' : isQuote c = false := by simpa using plain
    rw [readBody_plain plain', Option.map_eq_some_iff] at h
    obtain ⟨⟨text', rest'⟩, read, ⟨⟩⟩ := h
    obtain ⟨count, suffix⟩ := ih read
    refine ⟨?_, suffix.trans (List.suffix_cons _ _)⟩
    rw [List.countP_cons_of_neg plain]
    simp only [List.length_cons] at count ⊢
    omega

/-! ## Straight texts -/

lemma double_apostrophe (cs : List Char) :
    double (apostrophe :: cs) = apostrophe :: apostrophe :: double cs := by
  rw [double, if_pos rfl]

lemma double_other {c : Char} (other : c ≠ apostrophe) (cs : List Char) :
    double (c :: cs) = c :: double cs := by
  rw [double, if_neg other]

lemma length_double (cs : List Char) : (double cs).length = cs.length + cs.count apostrophe := by
  induction cs with
  | nil => rfl
  | cons c cs ih =>
    by_cases straight : c = apostrophe
    · subst straight
      rw [double_apostrophe, List.count_cons_self]
      simp only [List.length_cons, ih]
      omega
    · rw [double_other straight, List.count_cons_of_ne straight]
      simp only [List.length_cons, ih]
      omega

/-- A straight text is read as it was written. -/
lemma readBody_double {cs rest : List Char} (straight : Straight cs) (unquoted : Unquoted rest) :
    readBody (double cs ++ apostrophe :: rest) = some (cs, rest) := by
  induction cs with
  | nil => exact readBody_end isQuote_apostrophe unquoted
  | cons c cs ih =>
    have read := ih fun d mem => straight d (List.mem_cons_of_mem _ mem)
    by_cases same : c = apostrophe
    · subst same
      rw [double_apostrophe, List.cons_append, List.cons_append,
        readBody_pair isQuote_apostrophe isQuote_apostrophe, read]
      rfl
    · have plain : isQuote c = false := by
        rw [Bool.eq_false_iff]
        exact fun quote => same (straight c List.mem_cons_self quote)
      rw [double_other same, List.cons_append, readBody_plain plain, read]
      rfl

/-- A text that has no more quotes than apostrophes is straight. -/
lemma straight_of_countP_le {cs : List Char} (h : cs.countP isQuote ≤ cs.count apostrophe) :
    Straight cs := by
  have fewer : ∀ ds : List Char, ds.count apostrophe ≤ ds.countP isQuote := fun ds => by
    refine List.countP_mono_left fun c _ same => ?_
    rw [beq_iff_eq.1 same]
    exact isQuote_apostrophe
  induction cs with
  | nil => simp [Straight]
  | cons c cs ih =>
    have le := fewer cs
    by_cases same : c = apostrophe
    · subst same
      rw [List.countP_cons_of_pos isQuote_apostrophe, List.count_cons_self] at h
      intro d mem quote
      rcases List.mem_cons.1 mem with rfl | mem
      · rfl
      · exact ih (by omega) d mem quote
    · rw [List.count_cons_of_ne same] at h
      have plain : ¬ isQuote c = true := by
        intro quote
        rw [List.countP_cons_of_pos quote] at h
        omega
      rw [List.countP_cons_of_neg plain] at h
      intro d mem quote
      rcases List.mem_cons.1 mem with rfl | mem
      · exact absurd quote plain
      · exact ih h d mem quote

lemma readLiteral_quoteChars (cs rest : List Char) :
    readLiteral (quoteChars cs ++ rest) = readBody (double cs ++ apostrophe :: rest) := by
  simp [quoteChars, readLiteral, isQuote_apostrophe]

/-- **Exactly straight texts are read as they were written.**  What stands behind the literal does
not matter, unless it goes on with a quote. -/
theorem readLiteral_quoteChars_iff {cs rest : List Char} (unquoted : Unquoted rest) :
    readLiteral (quoteChars cs ++ rest) = some (cs, rest) ↔ Straight cs := by
  rw [readLiteral_quoteChars]
  refine ⟨fun read => ?_, fun straight => readBody_double straight unquoted⟩
  -- the literal has as many characters as its text costs, so the text has no quote to spare
  obtain ⟨count, _⟩ := readBody_length read
  refine straight_of_countP_le ?_
  simp only [List.length_append, List.length_cons, length_double] at count
  omega

/-! ## Settled texts

Quotes are read two by two.  So the reader of a doubled text is in one of two states: between two
pairs, or with a quote that waits for its second one.  A quote that waits takes the one behind it,
whatever that one was written for.
-/

/-- What is left behind a body is shorter than the body. -/
lemma readBody_shorter {cs text rest : List Char} (h : readBody cs = some (text, rest)) :
    rest.length < cs.length := by
  have count := (readBody_length h).1
  omega

lemma map_readBody_ends {c : Char} {cs rest : List Char} :
    (∃ text, ((readBody cs).map fun (text, rest) => (c :: text, rest)) = some (text, rest))
      ↔ ∃ text, readBody cs = some (text, rest) := by
  constructor
  · rintro ⟨text, h⟩
    rw [Option.map_eq_some_iff] at h
    obtain ⟨⟨text', rest'⟩, read, ⟨⟩⟩ := h
    exact ⟨text', read⟩
  · rintro ⟨text, read⟩
    exact ⟨c :: text, by rw [read]; rfl⟩

/-- A doubled text is read up to its closing apostrophe if it settles, and so is one behind a quote
that waits. -/
lemma readBody_double_ends {rest : List Char} (unquoted : Unquoted rest) (cs : List Char) :
    ((∃ text, readBody (double cs ++ apostrophe :: rest) = some (text, rest))
        ↔ settles false cs = true)
      ∧ ∀ waiting, isQuote waiting = true →
        ((∃ text, readBody (waiting :: (double cs ++ apostrophe :: rest)) = some (text, rest))
          ↔ settles true cs = true) := by
  induction cs with
  | nil =>
    refine ⟨?_, fun waiting quote => ?_⟩
    · rw [double, List.nil_append, readBody_end isQuote_apostrophe unquoted]
      simp [settles]
    · rw [double, List.nil_append, readBody_pair quote isQuote_apostrophe, map_readBody_ends]
      refine iff_of_false ?_ (by simp [settles])
      rintro ⟨text, read⟩
      exact absurd (readBody_shorter read) (Nat.lt_irrefl _)
  | cons c cs ih =>
    obtain ⟨between, within⟩ := ih
    by_cases same : c = apostrophe
    · subst same
      rw [double_apostrophe, settles, settles, if_pos rfl, if_pos rfl, List.cons_append,
        List.cons_append]
      refine ⟨?_, fun waiting quote => ?_⟩
      · rw [readBody_pair isQuote_apostrophe isQuote_apostrophe, map_readBody_ends]
        exact between
      · rw [readBody_pair quote isQuote_apostrophe, map_readBody_ends]
        exact within apostrophe isQuote_apostrophe
    · rw [double_other same, settles, settles, if_neg same, if_neg same, List.cons_append]
      by_cases quote : isQuote c = true
      · rw [if_pos quote, if_pos quote]
        refine ⟨within c quote, fun waiting first => ?_⟩
        rw [readBody_pair first quote, map_readBody_ends]
        exact between
      · have plain : isQuote c = false := by simpa using quote
        rw [if_neg quote, if_neg quote]
        refine ⟨?_, fun waiting first => ?_⟩
        · rw [readBody_plain plain, map_readBody_ends]
          simpa using between
        · rw [readBody_end first (unquoted_cons.2 plain)]
          refine iff_of_false ?_ (by simp)
          rintro ⟨text, read⟩
          have left := congrArg List.length (Prod.mk.inj (Option.some.inj read)).2
          simp only [List.length_cons, List.length_append] at left
          omega

/-- **Exactly the literals of settled texts end where they were closed.**  Then the text behind the
literal is all that is left, whatever was read of the literal. -/
theorem readLiteral_ends_iff {cs rest : List Char} (unquoted : Unquoted rest) :
    (∃ text, readLiteral (quoteChars cs ++ rest) = some (text, rest)) ↔ Settled cs := by
  rw [readLiteral_quoteChars]
  exact (readBody_double_ends unquoted cs).1

end SignedUpgrade.Text.Quoted
