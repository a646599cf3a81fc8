import SignedUpgrade.Audit.Severity
import SignedUpgrade.Json.Decode
import SignedUpgrade.Json.Write
import SignedUpgrade.Time.Reader

/-!
# Audit events

Every step that matters is kept as an event, one line per event.

* `Event` — when something happened, how serious it is, and what it was;
* `Event.json` — the record of an event;
* `Event.ofJson` — the event of a record, or the first fault of it.
-/

namespace SignedUpgrade

open Json

/-- A reported event. -/
structure Event where
  time : Timestamp
  severity : Severity
  message : String
  deriving DecidableEq, Repr, Inhabited

namespace Event

/-- The record of an event. -/
def json (e : Event) : String :=
  object [("timestamp", quoted e.time.text), ("severity", quoted e.severity.name),
    ("message", quoted e.message)]

/-- The line of an event in a file. -/
def line (e : Event) : String :=
  e.json ++ "\n"

/-! ## Reading records -/

/-- A record as far as it is read. -/
structure Partial where
  time : Option Timestamp := none
  severity : Option Severity := none
  message : Option String := none

/-- The names of the severities. -/
def severities : List (String × Severity) :=
  [Severity.information, .warning, .error].map fun s => (s.name, s)

/-- A point in time. -/
def wantTimestamp (letters : Letters) : Except Fault (Timestamp × Letters) := do
  let (text, rest) ← wantText "an RFC 3339 formatted date and time string" letters
  match Timestamp.read? text with
  | some t => return (t, rest)
  | none => .error .noTimestamp

/-- The fields of a record. -/
def shape : Shape Partial where
  name := "AuditEvent"
  start := {}
  fields := [
    { name := "timestamp"
      isSet := (·.time.isSome)
      want := fun record letters =>
        (wantTimestamp letters).map fun (t, r) => ({ record with time := some t }, r) },
    { name := "severity"
      isSet := (·.severity.isSome)
      want := fun record letters =>
        (wantVariant severities letters).map fun (s, r) =>
          ({ record with severity := some s }, r) },
    { name := "message"
      isSet := (·.message.isSome)
      want := fun record letters =>
        (wantString letters).map fun (m, r) => ({ record with message := some m }, r) }]

/-- The event of a record that was read to its end. -/
def ofPartial : Partial → Except Fault Event
  | ⟨some time, some severity, some message⟩ => .ok ⟨time, severity, message⟩
  | _ => .error .malformed

/-- The event that a text records. -/
def ofJson (text : String) : Except Fault Event := do
  ofPartial (← decode (wantRecord shape) (lettersOf text))

end Event

end SignedUpgrade
