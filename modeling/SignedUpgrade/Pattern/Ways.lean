import SignedUpgrade.Pattern.CharSet

/-!
# Ways to match

Where parts of a text are taken out by a pattern, it matters in which order the ways to match it are
tried: the first one that leads to the end of the pattern decides.

* `Order` — which lengths of a run are tried first;
* `runs` — the ways to take a run of characters off a text, in order.
-/

namespace SignedUpgrade.Pattern

/-- Which lengths of a run are tried first. -/
inductive Order where
  | longestFirst
  | shortestFirst
  deriving DecidableEq, Repr

/-- Ways with a longer run and ways with a shorter one, in the order in which they are tried. -/
def Order.arrange {α : Type} (order : Order) (longer shorter : List α) : List α :=
  match order with
  | .longestFirst => longer ++ shorter
  | .shortestFirst => shorter ++ longer

/-- A run may end in front of a text, unless more characters have to be in it. -/
def runEnds (least : Nat) (text : List Char) : List (List Char × List Char) :=
  if least = 0 then [([], text)] else []

/-- The ways to take at least so many characters of a set off a text, in the order in which they are
tried: each of them with what follows the run. -/
def runs (order : Order) (set : CharSet) : Nat → List Char → List (List Char × List Char)
  | least, [] => runEnds least []
  | least, c :: r =>
    let goesOn :=
      if set.holds c then
        (runs order set (least - 1) r).map fun way => (c :: way.1, way.2)
      else []
    order.arrange goesOn (runEnds least (c :: r))

end SignedUpgrade.Pattern
