import SignedUpgrade.Settings.Basic
import SignedUpgrade.Upgrade.Executor
import SignedUpgrade.Upgrade.Resolver

/-!
# The updater

The updater compares versions and, where the latest release is newer, installs it.  Every failure
ends the call with one report that names the step; nothing is tried again.

* `Updater` — the resolver, the executor and the reporter of an updater;
* `Updater.check` — tells whether there is something to install;
* `Updater.run` — installs it.
-/

namespace SignedUpgrade

open Net

/-- How a run without failure ended. -/
inductive Outcome where
  | upToDate (current latest : Version)
  | installed (previous version : Version)
  deriving DecidableEq, Repr

/-- An updater. -/
structure Updater (σ : Type) where
  resolver : Resolver σ
  executor : Executor σ
  reporter : Reporter σ

/-- The parties that an updater has to do with. -/
structure Parties (σ : Type) where
  runner : Runner σ
  connect : Connector σ
  inspector : Inspector σ
  reporter : Reporter σ
  wording : Json.Wording
  stagingParent : Path
  searchPath : Option String := none

namespace Updater

variable {σ : Type}

/-- The updater of some settings, which asks one network for the feed and another one for
installers. -/
def between (s : Settings) (p : Parties σ) (feed installers : Network σ) : Updater σ where
  resolver := {
    runner := p.runner
    network := feed
    reporter := p.reporter
    command := s.versionCommand
    feedUrl := s.feedUrl
    pattern := s.installerPattern
    wording := p.wording
    searchPath := p.searchPath }
  executor := {
    runner := p.runner
    network := installers
    inspector := p.inspector
    reporter := p.reporter
    trustedKey := s.signingKey
    installDirectory := s.installDirectory
    stagingParent := p.stagingParent }
  reporter := p.reporter

/-- The updater of some settings.  There is none if a network cannot be reached within its time
limit. -/
def ofSettings (s : Settings) (p : Parties σ) : Except Failure (Updater σ) :=
  match p.connect s.feedTimeout with
  | .error reason => .error (.feedUnreachable s.feedUrl reason)
  | .ok feed =>
    match p.connect s.downloadTimeout with
    | .error reason => .error (.downloadFailed "" reason)
    | .ok installers => .ok (between s p feed installers)

/-- What is reported about a failure. -/
def abortMessage (f : StepFailure) : String :=
  "Certbot auto-upgrade aborted while " ++ f.state.text ++ ": " ++ f.failure.message

/-- Ends a call in a failure. -/
def abort {α : Type} (u : Updater σ) (f : StepFailure) : Attempt σ α := do
  Attempt.enter .aborted
  u.reporter.error (abortMessage f)
  throw f.failure

/-- Compares versions and decides. -/
def resolve (u : Updater σ) : Attempt σ Decision := do
  Attempt.enter .start
  match ← Attempt.ofWork u.resolver.versions.outcome with
  | .error failure => u.abort { state := .start, failure }
  | .ok (current, release) =>
    Attempt.enter .versionChecked
    match release.decide u.resolver.pattern current with
    | .error failure => u.abort { state := .versionChecked, failure }
    | .ok decision => return decision

/-- Tells whether there is something to install, and installs nothing. -/
def check (u : Updater σ) : Attempt σ Decision := do
  let decision ← u.resolve
  u.reporter.info decision.text
  return decision

/-- Does what was decided. -/
def carryOut (u : Updater σ) : Decision → Attempt σ Outcome
  | .noActionNeeded current latest => do
    Attempt.enter .noActionNeeded
    u.reporter.info ("Certbot " ++ current.text ++ " is up to date (latest release is "
      ++ latest.text ++ "), nothing to do.")
    return .upToDate current latest
  | .upgradeTo current version installer => do
    u.reporter.info ("Upgrading Certbot from " ++ current.text ++ " to " ++ version.text ++ ".")
    Attempt.enter .downloading
    match ← Attempt.ofWork (u.executor.execute version installer) with
    | .error f => u.abort f
    | .ok () =>
      Attempt.enter .done
      return .installed current version

/-- Installs the latest release, if it is newer than the installed version. -/
def run (u : Updater σ) : Attempt σ Outcome := do
  u.reporter.info "Starting Certbot auto-upgrade..."
  u.carryOut (← u.resolve)

end Updater

end SignedUpgrade
