import SignedUpgrade.Audit.Event
import SignedUpgrade.Text.Blank

/-!
# Audit trails

What an audit file holds.  Lines that record no event are left alone: a file may have held something
else before.

* `Trail.ofText` — the trail that a file's text holds.
-/

namespace SignedUpgrade

open Text

/-- What an audit file holds. -/
structure Trail where
  lineCount : Nat
  /-- Whether the last line is ended. -/
  isEnded : Bool
  /-- The events of the lines that record one. -/
  events : List Event
  deriving DecidableEq, Repr

/-- The trail that a text holds. -/
def Trail.ofText (text : String) : Trail :=
  let all := lines text.toList
  { lineCount := all.length
    isEnded := text.toList.getLast? = some '\n'
    events := all.filterMap fun line => (Event.ofJson (String.ofList line)).toOption }

end SignedUpgrade
