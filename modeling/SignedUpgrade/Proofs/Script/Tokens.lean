import SignedUpgrade.Proofs.Script.Literal

/-!
# Tokens of a script

A script is read from left to right.  Outside of literals each character is a token of its own,
which the shell puts together as it likes; a literal is one token with its text.  A script that
leaves a literal open has no tokens.

* `Lexes` — a part of a script is read into tokens, and the rest of it is left;
* `Whole` — parts that start and end outside of literals;
* `Slot` — a script with a place for one literal;
* `Slot.value_iff`, `Slot.place_iff` — when the literal holds the text that was written into it, and
  when the other tokens are those of the script.
-/

namespace SignedUpgrade.Text.Quoted

/-- A token of a script. -/
inductive Token where
  /-- A character outside of literals. -/
  | mark (c : Char)
  /-- A literal with its text. -/
  | literal (text : List Char)
  deriving DecidableEq, Repr

/-- A part of a script is read into tokens, and the rest is left. -/
inductive Lexes : List Char → List Token → List Char → Prop where
  | done (rest : List Char) : Lexes rest [] rest
  | mark {c : Char} {cs rest : List Char} {ts : List Token} (plain : isQuote c = false)
      (more : Lexes cs ts rest) : Lexes (c :: cs) (.mark c :: ts) rest
  | literal {cs text after rest : List Char} {ts : List Token}
      (read : readLiteral cs = some (text, after)) (more : Lexes after ts rest) :
      Lexes cs (.literal text :: ts) rest

/-- A whole script is read into tokens. -/
def HasTokens (script : String) (ts : List Token) : Prop :=
  Lexes script.toList ts []

lemma readLiteral_some {cs text rest : List Char} (h : readLiteral cs = some (text, rest)) :
    cs.length = text.length + text.countP isQuote + 2 + rest.length ∧ rest <:+ cs := by
  cases cs with
  | nil => cases h
  | cons c cs =>
    by_cases quote : isQuote c = true
    · rw [readLiteral, if_pos quote] at h
      obtain ⟨count, suffix⟩ := readBody_length h
      refine ⟨?_, suffix.trans (List.suffix_cons _ _)⟩
      rw [List.length_cons, count]
      omega
    · rw [readLiteral, if_neg quote] at h
      cases h

/-- How many characters tokens cost. -/
def Token.cost : List Token → Nat
  | [] => 0
  | mark _ :: ts => cost ts + 1
  | literal text :: ts => text.length + text.countP isQuote + 2 + cost ts

namespace Lexes

variable {cs mid rest rest' : List Char} {ts us : List Token}

lemma append (h : Lexes cs ts mid) (h' : Lexes mid us rest) : Lexes cs (ts ++ us) rest := by
  induction h with
  | done => exact h'
  | mark plain _ ih => exact .mark plain (ih h')
  | literal read _ ih => exact .literal read (ih h')

/-- Tokens in two parts are read with a text left in between. -/
lemma split (h : Lexes cs (ts ++ us) rest) : ∃ mid, Lexes cs ts mid ∧ Lexes mid us rest := by
  induction ts generalizing cs with
  | nil => exact ⟨cs, .done cs, h⟩
  | cons t ts ih =>
    cases h with
    | mark plain more =>
      obtain ⟨mid, first, last⟩ := ih more
      exact ⟨mid, .mark plain first, last⟩
    | literal read more =>
      obtain ⟨mid, first, last⟩ := ih more
      exact ⟨mid, .literal read first, last⟩

/-- The same tokens leave the same rest. -/
lemma unique (h : Lexes cs ts rest) (h' : Lexes cs ts rest') : rest = rest' := by
  induction h with
  | done => cases h' with
    | done => rfl
  | mark plain _ ih =>
    cases h' with
    | mark _ more => exact ih more
  | literal read _ ih =>
    cases h' with
    | literal read' more =>
      rw [read] at read'
      cases read'
      exact ih more

/-- Tokens account for all characters that were read. -/
lemma length (h : Lexes cs ts rest) : cs.length = Token.cost ts + rest.length ∧ rest <:+ cs := by
  induction h with
  | done rest => exact ⟨(Nat.zero_add _).symm, List.suffix_rfl⟩
  | mark _ _ ih =>
    obtain ⟨count, suffix⟩ := ih
    refine ⟨?_, suffix.trans (List.suffix_cons _ _)⟩
    rw [List.length_cons, Token.cost, count]
    omega
  | literal read _ ih =>
    obtain ⟨count, suffix⟩ := ih
    obtain ⟨count', suffix'⟩ := readLiteral_some read
    refine ⟨?_, suffix.trans suffix'⟩
    rw [Token.cost]
    omega

end Lexes

/-! ## Parts that are the same wherever they stand

The scripts of the updater are put together from parts that are always the same.  A part that starts
and ends outside of literals is read into the same tokens whatever comes behind it, and it can be
checked for that by walking through its characters.
-/

/-- Where in a script a reader is. -/
inductive Spot where
  /-- Outside of literals. -/
  | outside
  /-- In a literal. -/
  | inside
  /-- Behind a quote in a literal, which ends the literal unless another quote follows. -/
  | closing
  deriving DecidableEq, Repr

/-- Where a reader is after one more character. -/
def Spot.next (spot : Spot) (c : Char) : Spot :=
  match spot, isQuote c with
  | outside, false => outside
  | outside, true => inside
  | inside, false => inside
  | inside, true => closing
  | closing, false => outside
  | closing, true => inside

/-- A part that starts and ends outside of literals. -/
def Whole (cs : List Char) : Prop :=
  cs.foldl Spot.next .outside = .outside

instance (cs : List Char) : Decidable (Whole cs) :=
  inferInstanceAs (Decidable (_ = _))

/-- What is left of a part is read into the same tokens whatever comes behind it, wherever in the
part the reader is.  In a literal, this is so for the text that is left of the literal and for the
tokens behind the literal. -/
lemma lexes_left (cs : List Char) :
    (cs.foldl Spot.next .outside = .outside → ∃ ts, ∀ rest, Lexes (cs ++ rest) ts rest)
      ∧ (cs.foldl Spot.next .inside = .outside → ∃ text ts, ∀ rest, ∃ mid,
          readBody (cs ++ rest) = some (text, mid) ∧ Lexes mid ts rest)
      ∧ (cs.foldl Spot.next .closing = .outside → ∀ q, isQuote q = true → ∃ text ts, ∀ rest, ∃ mid,
          readBody (q :: (cs ++ rest)) = some (text, mid) ∧ Lexes mid ts rest) := by
  induction cs with
  | nil => exact ⟨fun _ => ⟨[], .done⟩, nofun, nofun⟩
  | cons c cs ih =>
    obtain ⟨outside, inside, closing⟩ := ih
    simp only [List.foldl_cons, List.cons_append]
    cases quote : isQuote c with
    | false =>
      simp only [Spot.next, quote]
      refine ⟨fun whole => ?_, fun whole => ?_, fun whole q quote' => ?_⟩
      · obtain ⟨ts, lexes⟩ := outside whole
        exact ⟨.mark c :: ts, fun rest => .mark quote (lexes rest)⟩
      · obtain ⟨text, ts, more⟩ := inside whole
        refine ⟨c :: text, ts, fun rest => ?_⟩
        obtain ⟨mid, read, lexes⟩ := more rest
        exact ⟨mid, by rw [readBody_plain quote, read]; rfl, lexes⟩
      · obtain ⟨ts, lexes⟩ := outside whole
        exact ⟨[], .mark c :: ts, fun rest =>
          ⟨_, readBody_end quote' (unquoted_cons.2 quote), .mark quote (lexes rest)⟩⟩
    | true =>
      simp only [Spot.next, quote]
      refine ⟨fun whole => ?_, fun whole => closing whole c quote, fun whole q quote' => ?_⟩
      · obtain ⟨text, ts, more⟩ := inside whole
        refine ⟨.literal text :: ts, fun rest => ?_⟩
        obtain ⟨mid, read, lexes⟩ := more rest
        exact .literal (by rw [readLiteral, if_pos quote, read]) lexes
      · obtain ⟨text, ts, more⟩ := inside whole
        refine ⟨q :: text, ts, fun rest => ?_⟩
        obtain ⟨mid, read, lexes⟩ := more rest
        exact ⟨mid, by rw [readBody_pair quote' quote, read]; rfl, lexes⟩

/-- A whole part is read into the same tokens whatever comes behind it. -/
lemma Whole.lexes {cs : List Char} (h : Whole cs) : ∃ ts, ∀ rest, Lexes (cs ++ rest) ts rest :=
  (lexes_left cs).1 h

/-! ## Slots -/

/-- A script with a place for one literal: the parts before and after it are read into the same
tokens whatever the literal is. -/
structure Slot (before after : List Char) (pre post : List Token) : Prop where
  reads : ∀ literal, Lexes (before ++ (literal ++ after)) pre (literal ++ after)
  goesOn : Lexes after post []
  unquoted : Unquoted after

namespace Slot

variable {before after value text : List Char} {pre post : List Token}

/-- Whole parts with a place between them. -/
lemma of_whole (first : Whole before) (last : Whole after) (unquoted : Unquoted after) :
    ∃ pre post, Slot before after pre post := by
  obtain ⟨pre, reads⟩ := first.lexes
  obtain ⟨post, goesOn⟩ := last.lexes
  refine ⟨pre, post, fun literal => reads _, ?_, unquoted⟩
  simpa using goesOn []

/-- The tokens of a script tell what was read of its literal. -/
lemma literal_iff (h : Slot before after pre post) :
    Lexes (before ++ (quoteChars value ++ after)) (pre ++ .literal text :: post) []
      ↔ readLiteral (quoteChars value ++ after) = some (text, after) := by
  constructor
  · intro lexes
    obtain ⟨mid, first, last⟩ := lexes.split
    rw [first.unique (h.reads _)] at last
    cases last with
    | @literal _ _ left _ _ read more =>
      -- what is left behind the literal has the same tokens as `after`, so it is as long
      have long : left.length = after.length := by
        have count := more.length.1
        have count' := h.goesOn.length.1
        omega
      have suffix : after <:+ quoteChars value ++ after := List.suffix_append _ _
      have same : left = after :=
        (List.suffix_of_suffix_length_le (readLiteral_some read).2 suffix
          (Nat.le_of_eq long)).eq_of_length long
      rw [read, same]
  · intro read
    exact (h.reads _).append (.literal read h.goesOn)

/-- **Exactly straight texts are the value of their token.** -/
theorem value_iff (h : Slot before after pre post) :
    Lexes (before ++ (quoteChars value ++ after)) (pre ++ .literal value :: post) []
      ↔ Straight value := by
  rw [h.literal_iff, readLiteral_quoteChars_iff h.unquoted]

/-- **Exactly settled texts leave all other tokens as they are.** -/
theorem place_iff (h : Slot before after pre post) :
    (∃ text, Lexes (before ++ (quoteChars value ++ after)) (pre ++ .literal text :: post) [])
      ↔ Settled value := by
  rw [← readLiteral_ends_iff h.unquoted]
  exact exists_congr fun text => h.literal_iff

end Slot

end SignedUpgrade.Text.Quoted
