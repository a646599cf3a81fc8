import SignedUpgrade.Audit.Event
import SignedUpgrade.Process.PowerShell

/-!
# Sinks

Events are kept in sinks.  A sink is a party of its own: it may change the site, and it may fail.

* `Sink.file` — appends the records of events to a file, one line each;
* `Sink.eventLog` — writes events to the system's event log by a script;
* `Sink.memory` — keeps events in the state of the outside.
-/

namespace SignedUpgrade

open Text

/-- A place where events are kept. -/
structure Sink (σ : Type) where
  /-- How the sink is called in warnings. -/
  name : String
  record : Event → Site σ → Except Failure Unit × Site σ

namespace Sink

variable {σ : Type}

/-- The directory that has to exist before a file can be written: the one named in its path. -/
def directoryOf? (path : Path) : Option Path :=
  path.parent?.filter (·.text ≠ "")

/-- The files with a line added at the end of one of them.  Its directory is created if needed, and
stays where the file itself cannot be written. -/
def appendLine (path : Path) (line : String) (site : Site σ) : Except Failure Unit × Site σ :=
  let write := fun (site : Site σ) => site.tryFiles fun t => t.append path (Utf8.encode line)
  match directoryOf? path with
  | none => write site
  | some directory =>
    match site.tryFiles fun t => t.createDirectories directory with
    | (.ok (), site) => write site
    | (.error failure, site) => (.error failure, site)

/-- Keeps events in a file. -/
def file (path : Path) : Sink σ where
  name := "file"
  record event := appendLine path event.line

/-! ## The event log -/

/-- The log that events are written to. -/
def logName : String := "Certbot"

/-- The source under which events are written. -/
def sourceName : String := "certbot-updater"

/-- The script that writes an event, after it registered the source if that is missing. -/
def eventScript (severity : Severity) (message : String) : String :=
  let log := Quoted.quote logName
  let source := Quoted.quote sourceName
  "if (-not [System.Diagnostics.EventLog]::SourceExists(" ++ source ++ ")) \x7b New-EventLog -LogName "
    ++ log ++ " -Source " ++ source ++ " \x7d; Write-EventLog -LogName " ++ log ++ " -Source "
    ++ source ++ " -EntryType " ++ severity.name ++ " -EventId " ++ toString severity.eventNumber
    ++ " -Message " ++ Quoted.quote message

/-- Keeps events in the system's event log. -/
def eventLog (runner : Runner σ) : Sink σ where
  name := "event log"
  record event site :=
    match PowerShell.run runner (eventScript event.severity event.message) site with
    | (.ok output, site) => ((output.check PowerShell.program).map fun _ => (), site)
    | (.error failure, site) => (.error failure, site)

/-- Keeps events in the state of the outside. -/
def memory (add : Event → σ → σ) : Sink σ where
  name := "memory"
  record event site := (.ok (), { site with outside := add event site.outside })

end Sink

end SignedUpgrade
