import SignedUpgrade.Audit.Reporter
import SignedUpgrade.Process.Runner
import SignedUpgrade.Signature.Inspector
import SignedUpgrade.Upgrade.Download
import SignedUpgrade.Upgrade.Staging
import SignedUpgrade.Version

/-!
# Installing a release

An installer is downloaded, checked and started, in this order; in between the old version is
uninstalled.

* `Executor` — how and where a release is installed;
* `StepFailure` — a failure with the state that it arose in;
* `Executor.steps` — the steps, in a directory for the download;
* `Executor.execute` — the steps in a new staging directory, which is removed whatever becomes of
  them.
-/

namespace SignedUpgrade

open Net

/-- A failure with the state that it arose in. -/
structure StepFailure where
  state : UpdateState
  failure : Failure
  deriving DecidableEq, Repr

/-- The steps of an installation. -/
abbrev Installation (σ : Type) := ExceptT StepFailure (StateM (World σ))

/-- How and where a release is installed. -/
structure Executor (σ : Type) where
  runner : Runner σ
  network : Network σ
  inspector : Inspector σ
  reporter : Reporter σ
  trustedKey : TrustedKey
  installDirectory : Path
  /-- The directory in which staging directories are made. -/
  stagingParent : Path

namespace Executor

variable {σ : Type}

/-- A step that belongs to a state. -/
def during {α : Type} (state : UpdateState) (step : Attempt σ α) : Installation σ α :=
  ExceptT.mk do
    match ← step.outcome with
    | .ok a => return .ok a
    | .error failure => return .error { state, failure }

/-- The argument that makes installers and uninstallers ask nothing. -/
def silent : String := "/S"

/-- The last argument of an installer: where to install.  It takes all that follows, so no other
argument may come after it. -/
def installArgument (directory : Path) : String :=
  "/D=" ++ directory.text

/-- The last argument of an uninstaller: where it works.  Without it, it would only start a copy of
itself and end at once. -/
def uninstallArgument (directory : Path) : String :=
  "_?=" ++ directory.text

/-- The uninstaller that an installation leaves behind. -/
def uninstaller (e : Executor σ) : Path :=
  e.installDirectory.join "uninstall.exe"

/-- Fetches the installer. -/
def fetch (e : Executor σ) (directory : Path) (version : Version) (asset : Asset) :
    Attempt σ Downloaded := do
  e.reporter.info ("Downloading Certbot " ++ version.text ++ " installer from " ++ asset.url)
  let file ← download e.network asset directory
  e.reporter.info ("Downloaded " ++ asset.name ++ " (" ++ toString file.size ++ " bytes, SHA-256 "
    ++ file.sha256 ++ ")")
  return file

/-- Accepts a file only if its signature is good and made with the trusted key. -/
def verify (e : Executor σ) (path : Path) : Attempt σ Unit := do
  Attempt.note (.action (.inspection path))
  Attempt.onSite (Inspector.verified e.inspector e.trustedKey path)
  e.reporter.info "Installer signature is valid and matches the trusted publisher key."

/-- Removes the uninstaller, which cannot remove itself.  One that is gone counts as removed. -/
def removeLeftover (path : Path) (site : Site σ) : Except Failure Unit × Site σ :=
  match site.files.removeFile path with
  | .ok files => (.ok (), { site with files }.debug ("Removed " ++ path.text))
  | .error fault => if fault.kind = .notFound then (.ok (), site) else (.error (.io fault), site)

/-- Runs the uninstaller. -/
def uninstall (e : Executor σ) : Attempt σ Unit := do
  e.reporter.info "Uninstalling the previous Certbot version..."
  Attempt.note (.action (.uninstaller e.uninstaller))
  let output ← Attempt.onSite
    (e.runner.runWithTail e.uninstaller [silent] (uninstallArgument e.installDirectory) none)
  let _ ← (output.check e.uninstaller.text : Except Failure Output)
  Attempt.onSite (removeLeftover e.uninstaller)

/-- Runs the uninstaller, if there is one. -/
def uninstallOld (e : Executor σ) : Installation σ Unit := do
  if (← (Work.files : Work σ FileTree)).hasFile e.uninstaller then
    during .uninstalling e.uninstall
  else
    e.reporter.info ("No previous installation found in " ++ e.installDirectory.text
      ++ ", skipping uninstall.")

/-- Runs the installer. -/
def install (e : Executor σ) (path : Path) (version : Version) (asset : Asset) :
    Attempt σ Unit := do
  e.reporter.info ("Installing Certbot " ++ version.text ++ "...")
  Attempt.note (.action (.installer path))
  let output ← Attempt.onSite
    (e.runner.runWithTail path [silent] (installArgument e.installDirectory) none)
  let _ ← (output.check asset.name : Except Failure Output)

/-- All steps of an installation. -/
def steps (e : Executor σ) (directory : Path) (version : Version) (asset : Asset) :
    Installation σ Unit := do
  let file ← during .downloading (e.fetch directory version asset)
  during .verifying (e.verify file.path)
  e.uninstallOld
  during .installing (e.install file.path version asset)
  e.reporter.info ("Certbot " ++ version.text ++ " is installed.")

/-- Removes the staging directory; a fault is logged and changes nothing. -/
def cleanUp (directory : Path) : Work σ Unit := do
  match ← Staging.remove directory with
  | .ok () => return ()
  | .error fault =>
    Work.log { level := .warn, text := "Failed to remove staging directory: " ++ fault.text }

/-- Installs a release from one of its assets.  The staging directory is removed at the end, whatever
became of the steps. -/
def execute (e : Executor σ) (version : Version) (asset : Asset) :
    Work σ (Except StepFailure Unit) := do
  match ← (Staging.create e.stagingParent "upgrade").outcome with
  | .error failure => return .error { state := .downloading, failure }
  | .ok directory =>
    let result ← (e.steps directory version asset).run
    cleanUp directory
    return result

end Executor

end SignedUpgrade
