/-!
# Log lines

What the updater says while it works, for whoever watches.

* `LogLevel` — how important a line is;
* `LogScope` — the part of the updater that speaks;
* `LogLine` — a level, a scope and a text.
-/

namespace SignedUpgrade

/-- How important a log line is. -/
inductive LogLevel where
  | debug
  | info
  | warn
  | error
  deriving DecidableEq, Repr, Inhabited

namespace LogLevel

/-- The name of a level. -/
def name : LogLevel → String
  | .debug => "DEBUG"
  | .info => "INFO"
  | .warn => "WARN"
  | .error => "ERROR"

/-- The rank of a level; a more important one has a higher rank. -/
def rank : LogLevel → Nat
  | .debug => 1
  | .info => 2
  | .warn => 3
  | .error => 4

end LogLevel

/-- The part of the updater that logs. -/
inductive LogScope where
  /-- The updater itself. -/
  | updater
  /-- The reports that are also kept as events. -/
  | reports
  /-- The launching of programs. -/
  | process
  deriving DecidableEq, Repr, Inhabited

/-- A line of the log. -/
structure LogLine where
  level : LogLevel
  text : String
  scope : LogScope := .updater
  deriving DecidableEq, Repr, Inhabited

/-- A line as it is shown. -/
def LogLine.shown (line : LogLine) : String :=
  line.level.name ++ " " ++ line.text

/-- The lines of a log that are at least as important as a level. -/
def LogLevel.orAbove (level : LogLevel) (lines : List LogLine) : List LogLine :=
  lines.filter fun line => level.rank ≤ line.level.rank

/-- The lines of a log that are exactly as important as a level. -/
def LogLevel.only (level : LogLevel) (lines : List LogLine) : List LogLine :=
  lines.filter (·.level = level)

end SignedUpgrade
