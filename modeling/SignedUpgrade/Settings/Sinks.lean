import SignedUpgrade.Audit.Reporter
import SignedUpgrade.Settings.Basic

/-!
# The sinks of settings

The settings say where events are kept: in a file, in the system's event log, in both or in neither.
-/

namespace SignedUpgrade

/-- The sinks that the settings ask for. -/
def Reporter.ofSettings {σ : Type} (s : Settings) (runner : Runner σ) : Reporter σ :=
  (s.auditFile.map Sink.file).toList ++ (if s.eventLog then [Sink.eventLog runner] else [])

end SignedUpgrade
