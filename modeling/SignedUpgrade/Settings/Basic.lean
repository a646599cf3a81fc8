import SignedUpgrade.Pattern.Reader
import SignedUpgrade.Settings.Store
import SignedUpgrade.Signature.TrustedKey

/-!
# Settings

What a run of the updater depends on.

* `Settings` — the values of the settings;
* `Settings.withDefaults` — the values where nothing is set, but for where the audit file goes;
* `Settings.assign` — the settings with the answer of a store under one key;
* `Settings.load` — asks a store for all settings;
* `Settings.loadAudit` — asks only for those that say where events go, and never fails.

Which texts write a pattern is up to a `Pattern.Compiler`.
-/

namespace SignedUpgrade

open Text

/-- The values of the settings.  Time limits are in milliseconds. -/
structure Settings where
  feedUrl : String
  signingKey : TrustedKey
  installDirectory : Path
  versionCommand : String
  installerPattern : Pattern
  /-- The file that events are kept in, if any. -/
  auditFile : Option Path
  eventLog : Bool
  feedTimeout : Nat
  downloadTimeout : Nat
  deriving DecidableEq, Repr

namespace Settings

/-! ## Defaults -/

/-- Where the latest release is told if nothing else is set. -/
def standardFeed : String :=
  "https://api.github.com/repos/certbot/certbot/releases/latest"

/-- The publisher's key in base64. -/
def standardKeyText : String :=
  "MIIBCgKCAQEA2lh7ssBsdT8bP+2Kvh+AIvXUSg38dWCqWYleVwW+3yYyCojkkgEOZUAmPbp30H6ZvqlWU4MGEkXRQdDEecfoPW6MZpB0lcmd3cw3PS66VOi8LaMBBk5GzXLjYiMCgYMOjh9m7uNvcngxUVwveatmtm/KCSHSvDiDxtiQBFhWVa0jcyW4HYCuQlmLIvyttsquw8lGSY590MhdLQPi46XUqnaXTR57Mrob3l3gJIcLoFvh+p4M33NpFQgLTbm2rPIZcdbDwk4ZgOKjQQ6YS6QDcvQ3kBA9rlcufEv2xUbE22rX4bDe+gCuh7QqZ/TFH0DygPc5zSWMoat9SR/F0edBbwIDAQAB"

/-- The publisher's key. -/
def standardKey : TrustedKey :=
  match TrustedKey.parse standardKeyText with
  | .ok key => key
  | .error _ => ⟨[]⟩

/-- The text of the pattern that selects the installer. -/
def standardPatternText : String := "^certbot-.*-win32\\.exe$"

/-- The pattern that selects the installer. -/
def standardPattern : Pattern :=
  (Pattern.read? standardPatternText).getD ⟨standardPatternText, .nothing⟩

/-- The settings where nothing is set. -/
def withDefaults (auditFile : Option Path) : Settings where
  feedUrl := standardFeed
  signingKey := standardKey
  installDirectory := "/opt/certbot"
  versionCommand := "certbot"
  installerPattern := standardPattern
  auditFile
  eventLog := false
  feedTimeout := 60000
  downloadTimeout := 3600000

/-! ## Reading one value -/

/-- The text of an answer without the blanks around it, if anything is left. -/
def filled (answer : Option String) : Option String :=
  (answer.map trimmed).filter (· ≠ "")

/-- The file that a text names: a blank one names none. -/
def auditFileOf (value : String) : Option Path :=
  (filled (some value)).map Path.mk

/-- Whether a text is the address of a feed. -/
def isFeedUrl (url : String) : Bool :=
  "https://".toList.isPrefixOf url.toList || "http://".toList.isPrefixOf url.toList

/-- The words for yes. -/
def yesWords : List String := ["1", "true", "yes", "on"]

/-- The words for no. -/
def noWords : List String := ["0", "false", "no", "off"]

/-- What a word says, whatever the case of its letters. -/
def readFlag (key value : String) : Except Failure Bool :=
  let word := String.ofList (value.toList.map Char.toLower)
  if yesWords.contains word then .ok true
  else if noWords.contains word then .ok false
  else .error (.configuration (.notBoolean key value))

/-- A time limit that is given in seconds. -/
def readSeconds (key value : String) : Except Failure Nat :=
  match word64? value.toList with
  | some n =>
    if n = 0 then .error (.configuration (.notSeconds key value)) else .ok (n.toNat * 1000)
  | none => .error (.configuration (.notSeconds key value))

/-- The settings with the value of one of them, which is neither blank nor has blanks around it. -/
def withValue (compile : Pattern.Compiler) (s : Settings) (setting : Setting) (value : String) :
    Except Failure Settings :=
  match setting with
  | .feedUrl =>
    if isFeedUrl value then .ok { s with feedUrl := value }
    else .error (.configuration (.notHttp setting.key value))
  | .signingKey => (TrustedKey.parse value).map fun key => { s with signingKey := key }
  | .installDirectory => .ok { s with installDirectory := value }
  | .versionCommand => .ok { s with versionCommand := value }
  | .installerPattern =>
    match compile value with
    | .ok pattern => .ok { s with installerPattern := pattern }
    | .error reason => .error (.configuration (.badPattern setting.key value reason))
  | .auditFile => .ok { s with auditFile := some value }
  | .eventLog => (readFlag setting.key value).map fun flag => { s with eventLog := flag }
  | .feedTimeout => (readSeconds setting.key value).map fun n => { s with feedTimeout := n }
  | .downloadTimeout =>
    (readSeconds setting.key value).map fun n => { s with downloadTimeout := n }

/-- The settings with the answer of a store under one key.  A blank answer says nothing, except that
it turns the audit file off. -/
def assign (compile : Pattern.Compiler) (s : Settings) (setting : Setting)
    (answer : Option String) : Except Failure Settings :=
  match filled answer with
  | some value => s.withValue compile setting value
  | none =>
    if setting = .auditFile ∧ answer.isSome then .ok { s with auditFile := none } else .ok s

/-! ## Asking a store -/

variable {σ : Type}

/-- Asks for some settings in order, up to the first failure. -/
def loadFrom (compile : Pattern.Compiler) (store : Store σ) :
    List Setting → Settings → Asking σ Settings
  | [], s => pure s
  | setting :: more, s => do
    let answer ← store.ask setting.key
    loadFrom compile store more (← (s.assign compile setting answer : Except Failure Settings))

/-- The line of the log that sums settings up. -/
def summary (s : Settings) : String :=
  "Configuration: feed=" ++ s.feedUrl ++ ", install_dir=" ++ s.installDirectory.text ++ ", pattern="
    ++ s.installerPattern.text

/-- Asks a store for all settings. -/
def load (compile : Pattern.Compiler) (defaults : Settings) (store : Store σ) :
    Asking σ Settings := do
  let s ← loadFrom compile store Setting.all defaults
  modify (·.debug s.summary)
  return s

/-- Settings with the audit file that a text names. -/
def withAuditPath (s : Settings) (path : String) : Settings :=
  { s with auditFile := auditFileOf path }

/-- Settings with the event log as a text says, if it says anything. -/
def withEventFlag (s : Settings) (flag : String) : Settings :=
  match readFlag Setting.eventLog.key (trimmed flag) with
  | .ok eventLog => { s with eventLog }
  | .error _ => s

/-- Asks a store for one setting.  A value that is there is taken; without one, and where the store
fails, the settings stay as they are. -/
def tryLoad (store : Store σ) (setting : Setting) (take : Settings → String → Settings)
    (s : Settings) : StateM (Site σ) Settings := do
  let answer ← (store.ask setting.key).run
  return match answer with
    | .ok (some value) => take s value
    | _ => s

/-- Asks a store where events go.  What cannot be read counts as not set. -/
@[irreducible]
def loadAudit (defaults : Settings) (store : Store σ) : StateM (Site σ) Settings := do
  tryLoad store .eventLog withEventFlag (← tryLoad store .auditFile withAuditPath defaults)

/-- The uninstaller of an installation. -/
def uninstaller (s : Settings) : Path :=
  s.installDirectory.join "uninstall.exe"

end Settings

end SignedUpgrade
