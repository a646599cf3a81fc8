/-!
# Failures

Everything that can go wrong in the updater is one `Failure`, which says what happened and to what.

* `Failure` — the causes, with the names, paths and texts that an audit record needs;
* `Failure.message` — the wording of each cause, the only place where it is worded;
* `Failure.category`, `Failure.isFatal` — the coarse class of a cause, and whether it ends a run.
-/

namespace SignedUpgrade

/-- What kind of input or output error the system reported, as far as a rule asks for it. -/
inductive IoKind where
  | notFound
  | permissionDenied
  | alreadyExists
  | other
  deriving DecidableEq, Repr, Inhabited

/-- An input or output error: its kind and the text the system gives it. -/
structure IoFault where
  kind : IoKind
  text : String
  deriving DecidableEq, Repr, Inhabited

/-- What is wrong with a setting or with the place it comes from. -/
inductive SettingFault where
  /-- The feed address has another scheme than `http` and `https`. -/
  | notHttp (key value : String)
  /-- The value is no word for yes or no. -/
  | notBoolean (key value : String)
  /-- The value is no positive number of seconds. -/
  | notSeconds (key value : String)
  /-- The pattern cannot be read. -/
  | badPattern (key pattern reason : String)
  /-- A configuration file holds a value of a type that no setting has. -/
  | unsuitable (key found : String)
  /-- A configuration file cannot be read. -/
  | unreadable (path reason : String)
  /-- A configuration file is not in its format. -/
  | unparsable (path reason : String)
  /-- Any other fault, in its own words. -/
  | stated (message : String)
  deriving DecidableEq, Repr

/-- The wording of a setting's fault. -/
def SettingFault.message : SettingFault → String
  | .notHttp key value => s!"'{key}' must be an http(s) URL, got '{value}'"
  | .notBoolean key value => s!"'{key}' must be a boolean, got '{value}'"
  | .notSeconds key value => s!"'{key}' must be a positive number of seconds, got '{value}'"
  | .badPattern key pattern reason => s!"Invalid {key} '{pattern}': {reason}"
  | .unsuitable key found => s!"Key '{key}' must be a string, integer or boolean, found {found}"
  | .unreadable path reason => s!"Failed to read {path}: {reason}"
  | .unparsable path reason => s!"Failed to parse {path}: {reason}"
  | .stated message => message

/-- Everything that can go wrong. -/
inductive Failure where
  /-- A text holds no version. -/
  | versionParse (input : String)
  /-- The release feed gave no answer, or an answer without success. -/
  | feedUnreachable (url reason : String)
  /-- The release feed answered with something that is no release. -/
  | feedMalformed (url reason : String)
  /-- No asset of the release has the name of an installer. -/
  | noInstallerAsset (tag pattern : String)
  /-- Several assets of the release have the name of an installer. -/
  | ambiguousInstallerAsset (tag pattern : String) (count : Nat)
  /-- An asset's name is no plain file name. -/
  | invalidAssetName (name : String)
  /-- The installer could not be fetched. -/
  | downloadFailed (url reason : String)
  /-- The installer carries no signature. -/
  | signatureMissing (path : String)
  /-- The platform rejects the installer's signature. -/
  | signatureInvalid (path status message : String)
  /-- The signature is valid but made with another key than the trusted one. -/
  | signerKeyMismatch (path : String)
  /-- The signature could not be looked at. -/
  | signatureInspectionFailed (path reason : String)
  /-- The operation needs a facility that this platform lacks. -/
  | platformNotSupported (operation : String)
  /-- A program could not be started. -/
  | processLaunchFailed (program reason : String)
  /-- A program ended without success; a program ended by a signal has no exit code. -/
  | processFailed (program : String) (code : Option Int) (stderr : String)
  /-- A program did not end in time. -/
  | processTimeout (program : String) (seconds : Nat)
  /-- A setting is wrong. -/
  | configuration (fault : SettingFault)
  /-- The trusted key cannot be decoded. -/
  | invalidPublicKey (reason : String)
  /-- The scheduled task is not registered. -/
  | taskNotFound (name : String)
  /-- The operation needs administrative rights. -/
  | adminRightsRequired
  /-- A command on the scheduled task reported an error. -/
  | scheduledTaskCommand (operation name stderr : String)
  /-- A local file operation failed. -/
  | io (fault : IoFault)
  deriving DecidableEq, Repr

namespace Failure

/-- How an exit code is named. -/
def exitCodeLabel : Option Int → String
  | some code => s!"exit code {code}"
  | none => "no exit code (terminated by signal)"

/-- The wording of a failure. -/
def message : Failure → String
  | versionParse input => s!"No version number found in '{input}'"
  | feedUnreachable url reason => s!"Release feed unreachable at {url}: {reason}"
  | feedMalformed url reason => s!"Release feed at {url} returned a malformed release: {reason}"
  | noInstallerAsset tag pattern => s!"No installer asset matching '{pattern}' in release {tag}"
  | ambiguousInstallerAsset tag pattern count =>
    s!"{count} assets match installer pattern '{pattern}' in release {tag}"
  | invalidAssetName name => s!"Refusing to download asset with unsafe name '{name}'"
  | downloadFailed url reason => s!"Failed to download installer from {url}: {reason}"
  | signatureMissing path => s!"Installer {path} is not signed"
  | signatureInvalid path status message =>
    s!"Installer {path} has an invalid signature (status: {status}): {message}"
  | signerKeyMismatch path => s!"Installer {path} is signed by an untrusted publisher key"
  | signatureInspectionFailed path reason => s!"Failed to inspect signature of {path}: {reason}"
  | platformNotSupported operation => s!"{operation} is not supported on this platform"
  | processLaunchFailed program reason => s!"Failed to launch {program}: {reason}"
  | processFailed program code _ => s!"{program} exited with " ++ exitCodeLabel code
  | processTimeout program seconds => s!"{program} did not finish within {seconds} seconds"
  | configuration fault => "Configuration error: " ++ fault.message
  | invalidPublicKey reason => s!"Invalid trusted public key: {reason}"
  | taskNotFound name => s!"Task {name} does not exist"
  | adminRightsRequired => "Subcommand must be run on a shell with administrative rights"
  | scheduledTaskCommand operation name stderr =>
    s!"Error encountered while {operation} the {name} task: {stderr}"
  | io fault => "IO error: " ++ fault.text

end Failure

/-- The coarse class of a failure.  Only a recoverable one is ever absorbed. -/
inductive FailureCategory where
  | recoverable
  | network
  | security
  | process
  | configuration
  | scheduler
  | io
  deriving DecidableEq, Repr, Inhabited

/-- The name of a category. -/
def FailureCategory.name : FailureCategory → String
  | .recoverable => "recoverable"
  | .network => "network"
  | .security => "security"
  | .process => "process"
  | .configuration => "configuration"
  | .scheduler => "scheduler"
  | .io => "io"

namespace Failure

/-- The class of a failure. -/
def category : Failure → FailureCategory
  | versionParse .. => .recoverable
  | feedUnreachable .. | feedMalformed .. | noInstallerAsset .. | ambiguousInstallerAsset ..
  | invalidAssetName .. | downloadFailed .. => .network
  | signatureMissing .. | signatureInvalid .. | signerKeyMismatch .. | signatureInspectionFailed ..
  | platformNotSupported .. => .security
  | processLaunchFailed .. | processFailed .. | processTimeout .. => .process
  | configuration .. | invalidPublicKey .. => .configuration
  | taskNotFound .. | adminRightsRequired | scheduledTaskCommand .. => .scheduler
  | io .. => .io

/-- Whether a failure ends a run. -/
def isFatal (f : Failure) : Bool :=
  f.category != .recoverable

end Failure

end SignedUpgrade
