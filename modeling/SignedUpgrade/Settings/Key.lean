import SignedUpgrade.Text.Case
import SignedUpgrade.Text.Split

/-!
# Settings and their names

Every setting has one key, and from it a name in each kind of store.

* `Setting` — the nine settings, in the order in which they are documented and read;
* `Setting.key` — the key of a setting;
* `variableName` — the environment variable of a key;
* `registryName` — the registry value of a key.
-/

namespace SignedUpgrade

open Text

/-- The settings of the updater. -/
inductive Setting where
  | feedUrl
  | signingKey
  | installDirectory
  | versionCommand
  | installerPattern
  | auditFile
  | eventLog
  | feedTimeout
  | downloadTimeout
  deriving DecidableEq, Repr, Inhabited

namespace Setting

/-- The key of a setting. -/
def key : Setting → String
  | .feedUrl => "upgrade_api_url"
  | .signingKey => "signing_public_key"
  | .installDirectory => "install_dir"
  | .versionCommand => "certbot_command"
  | .installerPattern => "installer_pattern"
  | .auditFile => "audit_log_path"
  | .eventLog => "event_log"
  | .feedTimeout => "feed_timeout_secs"
  | .downloadTimeout => "download_timeout_secs"

/-- All settings, in the order in which they are documented. -/
def all : List Setting :=
  [.feedUrl, .signingKey, .installDirectory, .versionCommand, .installerPattern, .auditFile,
   .eventLog, .feedTimeout, .downloadTimeout]

end Setting

/-- What the names of the updater's environment variables begin with. -/
def variableStart : String := "CERTBOT_UPDATER_"

/-- The environment variable of a key: the key in capitals after a common beginning. -/
def variableName (start key : String) : String :=
  start ++ upper key

/-- A word with a capital letter at its start. -/
def capitalized (word : List Char) : List Char :=
  match word with
  | [] => []
  | c :: r => upperOf c ++ r

/-- The words of a key, each with a capital letter, in one. -/
def camelName (key : String) : String :=
  String.ofList ((splitOn '_' key.toList).flatMap capitalized)

/-- The registry value of a key.  Two of them have names that were there before the keys. -/
def registryName (key : String) : String :=
  if key = Setting.feedUrl.key then "CertbotUpgradeApiURL"
  else if key = Setting.signingKey.key then "CertbotSigningPubKey"
  else "Certbot" ++ camelName key

end SignedUpgrade
