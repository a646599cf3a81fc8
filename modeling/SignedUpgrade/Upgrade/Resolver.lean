import SignedUpgrade.Audit.Reporter
import SignedUpgrade.Files.Program
import SignedUpgrade.Net.Client
import SignedUpgrade.Process.Runner
import SignedUpgrade.Release.Decision

/-!
# Installed and latest version

* `Resolver` — how the installed version and the latest release are found out;
* `Resolver.currentVersion` — the version that the installed program tells, or the lowest one with a
  warning;
* `Resolver.latestRelease` — the release that the feed tells;
* `Resolver.versions` — both.
-/

namespace SignedUpgrade

open Net Text

/-- How the installed version and the latest release are found out. -/
structure Resolver (σ : Type) where
  runner : Runner σ
  network : Network σ
  reporter : Reporter σ
  /-- The program that tells the installed version. -/
  command : String
  feedUrl : String
  pattern : Pattern
  /-- The words for what is wrong with a document of the feed. -/
  wording : Json.Wording
  /-- The directories in which programs are looked for. -/
  searchPath : Option String := none

namespace Resolver

variable {σ : Type}

/-- How long the program may take to tell its version, in milliseconds. -/
def versionLimit : Nat := 60000

/-- What is accepted as a release. -/
def accept : String := "application/vnd.github+json"

/-- The version that a program printed, on standard output or else on standard error. -/
def versionOf (command : String) (output : Output) : Except Failure Version := do
  let output ← output.check command
  match Version.extract output.stdout with
  | .ok v => .ok v
  | .error _ => Version.extract output.stderr

/-- Asks the installed program for its version. -/
def readInstalled (r : Resolver σ) : Attempt σ Version := do
  let files ← Attempt.ofWork Work.files
  let program := (files.program? r.searchPath r.command).getD r.command
  Attempt.note (.action (.versionCommand program))
  let output ← Attempt.onSite (r.runner.run program ["--version"] (some versionLimit))
  (versionOf r.command output : Except Failure Version)

/-- The installed version, or the lowest one where it cannot be found out. -/
def currentVersion (r : Resolver σ) : Work σ Version := do
  match ← r.readInstalled.outcome with
  | .ok v =>
    Work.debug ("Installed Certbot version is " ++ v.text)
    return v
  | .error failure =>
    r.reporter.warn
      ("Could not determine the installed Certbot version, assuming 0.0.0: " ++ failure.message)
    return .unknown

/-- The release that a response of the feed tells. -/
def releaseOf (r : Resolver σ) (response : Except String Response) : Except Failure Release :=
  match response with
  | .error reason => .error (.feedUnreachable r.feedUrl reason)
  | .ok response =>
    match response.body.content? with
    | none => .error (.feedUnreachable r.feedUrl notDecoded)
    | some body =>
      match Release.ofBody body with
      | .ok release => .ok release
      | .error fault => .error (.feedMalformed r.feedUrl (r.wording (Utf8.decode body) fault))

/-- Asks the feed for the latest release. -/
def latestRelease (r : Resolver σ) : Attempt σ Release := do
  Attempt.debug ("Fetching latest release from " ++ r.feedUrl)
  Attempt.note (.action (.feedRequest r.feedUrl))
  let response ← Attempt.ofWork (Work.onSite (fetchSuccess r.network accept r.feedUrl))
  let release ← (r.releaseOf response : Except Failure Release)
  Attempt.debug
    ("Latest release is " ++ release.tag ++ " with " ++ toString release.assets.length ++ " assets")
  return release

/-- The installed version and the latest release.  Only the feed can make this fail. -/
def versions (r : Resolver σ) : Attempt σ (Version × Release) := do
  let current ← r.currentVersion
  let release ← r.latestRelease
  if (Version.find? release.tag).isNone then
    r.reporter.warn
      ("Release tag '" ++ release.tag ++ "' does not contain a version, treating it as 0.0.0")
  return (current, release)

end Resolver

end SignedUpgrade
