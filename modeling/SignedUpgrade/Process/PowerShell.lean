import SignedUpgrade.Process.Runner
import SignedUpgrade.Text.Quoted

/-!
# PowerShell scripts

Signatures, the event log and the scheduled task are reached through short PowerShell scripts, which
all start in the same way.
-/

namespace SignedUpgrade.PowerShell

/-- The program that runs scripts. -/
def program : String := "powershell.exe"

/-- How long a script may take, in milliseconds. -/
def limit : Nat := 120000

/-- The arguments by which a script runs without prompts and profiles. -/
def scriptArguments (script : String) : List String :=
  ["-NoProfile", "-NonInteractive", "-ExecutionPolicy", "Bypass", "-Command", script]

/-- Runs a script; any end of it is an output. -/
def run {σ : Type} (runner : Runner σ) (script : String) (site : Site σ) :
    Except Failure Output × Site σ :=
  runner.run program (scriptArguments script) (some limit) site

end SignedUpgrade.PowerShell
