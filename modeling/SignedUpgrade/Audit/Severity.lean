/-!
# Severities

Reported events are of three kinds, which have a name and a number in the system's event log.
-/

namespace SignedUpgrade

/-- How serious a reported event is. -/
inductive Severity where
  /-- Progress. -/
  | information
  /-- Something unexpected that does not end the run. -/
  | warning
  /-- The end of a run in a failure. -/
  | error
  deriving DecidableEq, Repr, Inhabited

namespace Severity

/-- The name of a severity, in records and in the event log. -/
def name : Severity → String
  | .information => "Information"
  | .warning => "Warning"
  | .error => "Error"

/-- The number of a severity in the event log. -/
def eventNumber : Severity → Nat
  | .information => 1
  | .warning => 2
  | .error => 3

end Severity

end SignedUpgrade
