import SignedUpgrade.Settings.Basic

/-!
# Where settings come from

Settings come from environment variables and from one configuration file, in this order.

* `Directories` — the directories of an account, as far as it has them;
* `Directories.auditFile` — where events are kept if nothing else is set;
* `Environment.configFile` — the configuration file that is looked at, if there is one;
* `Store.ofFile` — the store of a configuration file;
* `Store.standard` — the two sources as one store.
-/

namespace SignedUpgrade

open Text

/-- The directories in which an account keeps files.  An account without a home may have none. -/
structure Directories where
  /-- The directory of configuration files. -/
  configuration : Option Path
  /-- The directory of what programs keep on this machine. -/
  data : Option Path
  deriving DecidableEq, Repr

namespace Directories

/-- The file that events are kept in if nothing else is set. -/
def auditFile (directories : Directories) : Option Path :=
  directories.data.map fun directory => (directory.join "certbot-updater").join "audit.log"

/-- The settings where nothing is set. -/
def defaults (directories : Directories) : Settings :=
  .withDefaults directories.auditFile

end Directories

namespace Environment

/-- The value of a variable. -/
def value? (environment : Environment) (name : String) : Option String :=
  environment.lookup name

/-- The directory of temporary files. -/
def temporaryDirectory (environment : Environment) : Path :=
  ((environment.value? "TMPDIR").map Path.mk).getD ⟨"/tmp"⟩

/-- The configuration file if none is given: the one that a variable names, or else the one at the
usual place, if there is such a place. -/
def configFile (environment : Environment) (directories : Directories) : Option Path :=
  match environment.value? "CERTBOT_UPDATER_CONFIG" with
  | some text => some text
  | none => directories.configuration.map fun directory =>
    (directory.join "certbot-updater").join "config.toml"

/-- The store of the updater's environment variables. -/
def store {σ : Type} (environment : Environment) : Store σ :=
  .environment environment variableStart

end Environment

namespace Store

variable {σ : Type}

/-- The store of a configuration file.  One that does not exist is empty. -/
def ofFile (parse : Toml.Reader) (path : Path) : Asking σ (Store σ) := do
  let site ← get
  if site.files.holds path then
    match site.files.readText path with
    | .error fault => throw (.configuration (.unreadable path.text fault.text))
    | .ok text =>
      match parse text with
      | .error reason => throw (.configuration (.unparsable path.text reason))
      | .ok values =>
        modify (·.debug ("Loaded configuration file " ++ path.text))
        return table values
  else
    modify (·.debug ("No configuration file at " ++ path.text))
    return table []

/-- The sources of settings in order; `path` is a configuration file that was asked for. -/
def standardLayers (parse : Toml.Reader) (directories : Directories) (environment : Environment)
    (path : Option Path) : Asking σ (List (Store σ)) := do
  match path <|> environment.configFile directories with
  | none => return [environment.store]
  | some path =>
    let file ← ofFile parse path
    return [environment.store, file]

/-- The sources of settings as one store. -/
def standard (parse : Toml.Reader) (directories : Directories) (environment : Environment)
    (path : Option Path) : Asking σ (Store σ) := do
  return layered (← standardLayers parse directories environment path)

end Store

end SignedUpgrade
