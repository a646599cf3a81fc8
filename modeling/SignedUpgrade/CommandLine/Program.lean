import SignedUpgrade.CommandLine.LogFilter
import SignedUpgrade.Failure.Advice
import SignedUpgrade.Process.Invocation
import SignedUpgrade.Settings.Sinks
import SignedUpgrade.Settings.Sources
import SignedUpgrade.Upgrade.Updater

/-!
# The program

The program finds its settings, carries out one command and tells how it ended.

* `Host` — what a program finds where it is started, `Formats` what it brings along;
* `Host.setUp` — the updater of the host's settings;
* `Host.perform` — carries out an order;
* `Host.run` — carries out what the arguments say, with everything that is printed.

A failure to find the settings is reported to the sinks that can still be found out, and one to make
an updater of them to the sinks that they name.
-/

namespace SignedUpgrade.CommandLine

open Net

/-- How formats are read that are defined elsewhere. -/
structure Formats where
  pattern : Pattern.Compiler
  table : Toml.Reader
  /-- The words for what is wrong with a document of the feed. -/
  wording : Json.Wording

/-- What a program finds where it is started. -/
structure Host (σ : Type) where
  environment : Environment
  directories : Directories
  formats : Formats
  system : System σ
  connect : Connector σ

/-- How a program ended. -/
structure Report where
  exitCode : Nat
  output : List String := []
  errors : List String := []
  deriving DecidableEq, Repr

/-- The name of the program with its version. -/
def versionText : String := "certbot-updater 0.3.0"

/-- How the program is used. -/
def usage : String :=
  "Usage: certbot-updater [-v | -q] [-c <PATH>] <run | check | task <ACTION>>"

/-! ## What commands print -/

/-- What is printed after a run. -/
def outcomeLines : Outcome → List String
  | .upToDate current _ => ["Certbot " ++ current.text ++ " is up to date"]
  | .installed previous version =>
    ["Upgraded Certbot from " ++ previous.text ++ " to " ++ version.text]

/-- What is printed after a check. -/
def decisionLines : Decision → List String
  | .noActionNeeded current latest =>
    ["Certbot " ++ current.text ++ " is up to date (latest release is " ++ latest.text ++ ")"]
  | .upgradeTo current version installer =>
    ["Upgrade available: " ++ current.text ++ " -> " ++ version.text,
     "Installer: " ++ installer.url,
     "Run \x60certbot-updater run\x60 to install it"]

namespace Host

variable {σ : Type}

/-- The runner that starts programs of the host. -/
def runner (host : Host σ) : Runner σ :=
  .ofSystem host.system

/-! ## Settings -/

/-- What is reported about a failure before there is an updater. -/
def setUpMessage (failure : Failure) : String :=
  "Certbot auto-upgrade aborted while loading the configuration: " ++ failure.message

/-- Reports a failure to find the settings to the sinks that a store still names. -/
def reportSetUp (host : Host σ) (store : Store σ) (failure : Failure) : Work σ Unit := do
  let settings ← Work.onSite (Settings.loadAudit host.directories.defaults store)
  (Reporter.ofSettings settings host.runner).error (setUpMessage failure)

/-- The updater of some settings, if there can be one. -/
def updater (host : Host σ) (settings : Settings) : Except Failure (Updater σ) :=
  Updater.ofSettings settings {
    runner := host.runner
    connect := host.connect
    inspector := Inspector.ofPlatform host.runner
    reporter := Reporter.ofSettings settings host.runner
    wording := host.formats.wording
    stagingParent := host.environment.temporaryDirectory
    searchPath := host.environment.value? "PATH" }

/-- The updater of the host's settings. -/
def setUp (host : Host σ) (config : Option Path) : Work σ (Except Problem (Updater σ)) := do
  match ← Work.onSite
      (Store.standard host.formats.table host.directories host.environment config).run with
  | .error failure =>
    host.reportSetUp host.environment.store failure
    return .error ((Problem.ofFailure failure).within "Failed to open configuration sources")
  | .ok store =>
    match ← Work.onSite
        (Settings.load host.formats.pattern host.directories.defaults store).run with
    | .error failure =>
      host.reportSetUp store failure
      return .error ((Problem.ofFailure failure).within "Failed to load configuration")
    | .ok settings =>
      match host.updater settings with
      | .error failure =>
        (Reporter.ofSettings settings host.runner).error (setUpMessage failure)
        return .error (Problem.ofFailure failure)
      | .ok updater => return .ok updater

/-! ## Commands -/

/-- Carries out steps of an updater after it is set up. -/
def withUpdater {α : Type} (host : Host σ) (config : Option Path)
    (steps : Updater σ → Attempt σ α) (lines : α → List String) :
    Work σ (Except Problem (List String)) := do
  match ← host.setUp config with
  | .error problem => return .error problem
  | .ok updater =>
    match ← (steps updater).outcome with
    | .error failure => return .error (Problem.ofFailure failure)
    | .ok result => return .ok (lines result)

/-- The failure of commands on the scheduled task where the platform has none. -/
def noTasks : Failure :=
  .platformNotSupported "Scheduled task management"

/-- Carries out an order: the lines that are printed, or the problem that ended it. -/
def perform (host : Host σ) (order : Order) : Work σ (Except Problem (List String)) :=
  let config := order.options.config.map Path.mk
  match order.command with
  | .run => host.withUpdater config Updater.run outcomeLines
  | .check => host.withUpdater config Updater.check decisionLines
  | .task _ => return .error (Problem.ofFailure noTasks)

/-- The filter for the log: the one that a variable gives, or else the one that the options ask
for. -/
def logFilter (host : Host σ) (options : Options) : LogFilter :=
  ((host.environment.value? "RUST_LOG").bind LogFilter.read?).getD (.ofOptions options)

/-- How an order ended. -/
def reportOf (shown : List String) : Except Problem (List String) → Report
  | .ok lines => { exitCode := 0, output := shown ++ lines }
  | .error problem => { exitCode := 1, output := shown, errors := problem.advice.lines }

/-- What is told about arguments that are no order. -/
def refusalReport (refusal : Refusal) : Report :=
  match refusal with
  | .version => { exitCode := refusal.exitCode, output := [versionText] }
  | .help => { exitCode := refusal.exitCode, output := [usage] }
  | _ => { exitCode := refusal.exitCode, errors := [usage] }

/-- Carries out what the arguments say. -/
def run (host : Host σ) (arguments : List String) : Work σ Report := do
  match Order.ofArguments arguments with
  | .error refusal => return refusalReport refusal
  | .ok order =>
    let before := (← get).log.length
    let result ← host.perform order
    let lines := (← get).log.drop before
    let shown := (lines.filter (host.logFilter order.options).shows).map LogLine.shown
    return reportOf shown result

end Host

end SignedUpgrade.CommandLine
