import SignedUpgrade.Pattern.CharSet

/-!
# Matching

A pattern is searched for in a text: it matches if some stretch of the text, wherever it stands, has
the form that the pattern gives.

* `Form` — the forms that a stretch of text can be asked to have;
* `Form.size` — how much room a form takes, which is limited;
* `Form.canEnd` — whether a form is met by the empty stretch at a place;
* `Form.step` — the forms left over after one character;
* `Form.isIn` — whether some stretch of a text has a form.

A place in a text is given by the characters before and after it, which is all that the conditions
on places look at.
-/

namespace SignedUpgrade.Pattern

open Text

/-- Which characters count as part of words at the ends of words. -/
inductive WordKind where
  | anyScript
  | ascii
  deriving DecidableEq, Repr

/-- Whether a place is next to a character of a word. -/
def WordKind.touches (kind : WordKind) (side : Option Char) : Bool :=
  match side with
  | none => false
  | some c => match kind with
    | .anyScript => isWord c
    | .ascii => CharSet.asciiWord.holds c

/-- A condition on a place in a text. -/
inductive Look where
  | textStart
  | textEnd
  | lineStart
  | lineEnd
  | lineStartWide
  | lineEndWide
  | wordEdge (kind : WordKind)
  | noWordEdge (kind : WordKind)
  | wordStart (kind : WordKind)
  | wordEnd (kind : WordKind)
  | noWordBefore (kind : WordKind)
  | noWordAfter (kind : WordKind)
  deriving DecidableEq, Repr

/-- Whether a condition holds between two characters; there is none at the ends of a text. -/
def Look.holds (look : Look) (before after : Option Char) : Bool :=
  match look with
  | .textStart => before.isNone
  | .textEnd => after.isNone
  | .lineStart => before.isNone || before == some '\n'
  | .lineEnd => after.isNone || after == some '\n'
  | .lineStartWide =>
    before.isNone || before == some '\n' || (before == some '\r' && after != some '\n')
  | .lineEndWide =>
    after.isNone || after == some '\r' || (after == some '\n' && before != some '\r')
  | .wordEdge kind => kind.touches before != kind.touches after
  | .noWordEdge kind => kind.touches before == kind.touches after
  | .wordStart kind => !kind.touches before && kind.touches after
  | .wordEnd kind => kind.touches before && !kind.touches after
  | .noWordBefore kind => !kind.touches before
  | .noWordAfter kind => !kind.touches after

/-- The forms of stretches of text. -/
inductive Form where
  /-- The empty stretch. -/
  | nothing
  /-- One character of a set. -/
  | one (set : CharSet)
  /-- The empty stretch at a place with a condition. -/
  | look (look : Look)
  | andThen (a b : Form)
  | orElse (a b : Form)
  /-- At least so many stretches of a form in a row, and at most so many, if there is a bound. -/
  | times (a : Form) (least : Nat) (most : Option Nat)
  deriving DecidableEq, Repr, Inhabited

namespace Form

/-- How much room a form takes, counted in characters of ASCII.  Repetitions with bounds take the
room of all the stretches that they allow. -/
def size : Form → Nat
  | .nothing => 1
  | .one set => set.size
  | .look _ => 1
  | .andThen a b => a.size + b.size
  | .orElse a b => a.size + b.size + 1
  | .times a least none => a.size * max least 1 + 1
  | .times a least (some most) => a.size * most + (most - least)

/-- The room that a form may take. -/
def largestSize : Nat := 327680

/-- Whether the empty stretch between two characters has a form. -/
def canEnd (before after : Option Char) : Form → Bool
  | .nothing => true
  | .one _ => false
  | .look l => l.holds before after
  | .andThen a b => a.canEnd before after && b.canEnd before after
  | .orElse a b => a.canEnd before after || b.canEnd before after
  | .times a least _ => least == 0 || a.canEnd before after

/-- The form for the rest of a stretch whose first part has a form of its own. -/
def followedBy (rest : Form) (first : Form) : Form :=
  if first = .nothing then rest else .andThen first rest

/-- What is left of a number of repetitions after `n` of them. -/
def timesAfter (a : Form) (least : Nat) (most : Option Nat) (n : Nat) : List Form :=
  match most with
  | none => [.times a (least - n) none]
  | some most => if n ≤ most then [.times a (least - n) (some (most - n))] else []

/-- The forms that the rest of a stretch can have after its first character, which stands after
`before`.  Repetitions before the first one that holds a character may be empty. -/
def step (before : Option Char) (c : Char) : Form → List Form
  | .nothing => []
  | .one set => if set.holds c then [.nothing] else []
  | .look _ => []
  | .andThen a b =>
    (a.step before c).map (followedBy b)
      ++ (if a.canEnd before (some c) then b.step before c else [])
  | .orElse a b => a.step before c ++ b.step before c
  | .times a least most =>
    let first := a.step before c
    let empties := if a.canEnd before (some c) then least - 1 else 0
    (List.range (empties + 1)).flatMap fun n =>
      (timesAfter a least most (n + 1)).flatMap fun rest => first.map (followedBy rest)

/-- Whether one of several forms, or the given form from any later place on, is met by a stretch
that starts at this place. -/
def isInFrom (form : Form) (pending : List Form) (before : Option Char) : List Char → Bool
  | [] => (form :: pending).any (canEnd before none)
  | c :: r =>
    let all := form :: pending
    all.any (canEnd before (some c))
      || isInFrom form (all.flatMap (step before c)).eraseDups (some c) r

/-- Whether some stretch of a text has a form. -/
def isIn (form : Form) (text : List Char) : Bool :=
  isInFrom form [] none text

end Form

end SignedUpgrade.Pattern
