import SignedUpgrade.World.Basic

/-!
# Staging directories

An installer is downloaded into a new directory of its own, which is removed at the end of every
run.

* `Staging.create` — makes a directory with a fresh name;
* `Staging.remove` — removes it with everything in it; one that is gone counts as removed;
* `Staging.discard` — removes it where nobody waits for the result.
-/

namespace SignedUpgrade.Staging

variable {σ : Type}

/-- The name of a staging directory. -/
def directoryName (label fresh : String) : String :=
  "certbot-updater_" ++ label ++ "_" ++ fresh

/-- Makes a staging directory in another directory, which is made if it is missing. -/
def create (parent : Path) (label : String) : Attempt σ Path := do
  let fresh ← Attempt.ofWork Work.freshName
  let path := parent.join (directoryName label fresh)
  Attempt.onFiles (·.createDirectories path)
  Attempt.debug ("Created staging directory " ++ path.text)
  return path

/-- Removes a directory with everything in it. -/
def removeFrom (path : Path) (site : Site σ) : Except IoFault Unit × Site σ :=
  match site.files.removeAll path with
  | .ok files =>
    (.ok (), { site with files }.debug ("Removed staging directory " ++ path.text))
  | .error fault =>
    if fault.kind = .notFound then (.ok (), site) else (.error fault, site)

/-- Removes a staging directory. -/
def remove (path : Path) : Work σ (Except IoFault Unit) :=
  Work.onSite (removeFrom path)

/-- Removes a staging directory; a fault is logged. -/
def discard (path : Path) : Work σ Unit := do
  match ← remove path with
  | .ok () => return ()
  | .error fault =>
    Work.log {
      level := .warn
      text := "Failed to remove staging directory " ++ path.text ++ ": " ++ fault.text }

end SignedUpgrade.Staging
