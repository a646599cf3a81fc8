import SignedUpgrade.Audit.Sink

/-!
# Reporting

Every step is reported twice: to the log, and as an event to every sink.

* `report` — reports a message;
* `info`, `warn`, `error` — reports of the three severities.

A sink that fails costs a line of the log and nothing else: every sink is offered every event.
-/

namespace SignedUpgrade

/-- The sinks that events are offered to, in order. -/
abbrev Reporter (σ : Type) := List (Sink σ)

/-- The level at which events of a severity are logged. -/
def Severity.level : Severity → LogLevel
  | .information => .info
  | .warning => .warn
  | .error => .error

namespace Reporter

variable {σ : Type}

/-- Offers an event to one sink. -/
def offer (event : Event) (sink : Sink σ) : Work σ Unit :=
  Work.onSite fun site =>
    match sink.record event site with
    | (.ok (), site) => ((), site)
    | (.error failure, site) =>
      ((), site.logged
        { level := .warn
          text := "Failed to write audit event to " ++ sink.name ++ " sink: " ++ failure.message
          scope := .reports })

/-- Offers an event to all sinks, one after the other. -/
def offerAll (event : Event) : Reporter σ → Work σ Unit
  | [] => pure ()
  | sink :: sinks => do
    offer event sink
    offerAll event sinks

/-- Reports a message. -/
def report (reporter : Reporter σ) (severity : Severity) (message : String) : Work σ Unit := do
  Work.log { level := severity.level, text := message, scope := .reports }
  Work.note (.event severity message)
  let time ← Work.now
  offerAll { time, severity, message } reporter

/-- Reports progress. -/
def info (reporter : Reporter σ) (message : String) : Work σ Unit :=
  reporter.report .information message

/-- Reports something unexpected. -/
def warn (reporter : Reporter σ) (message : String) : Work σ Unit :=
  reporter.report .warning message

/-- Reports a failure. -/
def error (reporter : Reporter σ) (message : String) : Work σ Unit :=
  reporter.report .error message

end Reporter

end SignedUpgrade
