/-!
# States of an upgrade

An upgrade goes through states, and a failure is told with the state that it arose in.
-/

namespace SignedUpgrade

/-- How far an upgrade has come. -/
inductive UpdateState where
  /-- Nothing has happened yet. -/
  | start
  /-- The installed and the latest version are known. -/
  | versionChecked
  /-- The end of a run without anything to do. -/
  | noActionNeeded
  /-- The installer is being fetched. -/
  | downloading
  /-- The signature of the installer is being checked. -/
  | verifying
  /-- The uninstaller of the old version is running. -/
  | uninstalling
  /-- The installer is running. -/
  | installing
  /-- The end of a run that installed a version. -/
  | done
  /-- The end of a run that failed. -/
  | aborted
  deriving DecidableEq, Repr, Inhabited

namespace UpdateState

/-- All states. -/
def all : List UpdateState :=
  [.start, .versionChecked, .noActionNeeded, .downloading, .verifying, .uninstalling, .installing,
   .done, .aborted]

/-- The name of a state. -/
def name : UpdateState → String
  | .start => "Start"
  | .versionChecked => "VersionChecked"
  | .noActionNeeded => "NoActionNeeded"
  | .downloading => "Downloading"
  | .verifying => "Verifying"
  | .uninstalling => "Uninstalling"
  | .installing => "Installing"
  | .done => "Done"
  | .aborted => "Aborted"

/-- What happens in a state. -/
def text : UpdateState → String
  | .start => "checking versions"
  | .versionChecked => "deciding on an upgrade"
  | .noActionNeeded => "up to date"
  | .downloading => "downloading the installer"
  | .verifying => "verifying the installer signature"
  | .uninstalling => "uninstalling the previous version"
  | .installing => "running the installer"
  | .done => "done"
  | .aborted => "aborted"

end UpdateState

end SignedUpgrade
