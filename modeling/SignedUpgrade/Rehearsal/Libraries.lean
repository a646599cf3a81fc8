import SignedUpgrade.CommandLine.Program
import SignedUpgrade.Rehearsal.Stage

/-!
# The libraries of a rehearsal

What the updater takes as given from elsewhere, as a rehearsal has it: readers of formats, the words
for their faults, the directories of an account and the way to a network.

* `patterns`, `tables`, `wording` — the formats, all together in `formats`;
* `directories` — the directories that the variables of a machine name;
* `connect` — the way to the servers of the stage.

Where a library would say in detail what is wrong with a text, a rehearsal only says which library
has something to say.
-/

namespace SignedUpgrade.Rehearsal

open Net Text

/-! ## Formats -/

/-- The patterns that this library reads. -/
def patterns : Pattern.Compiler := fun text =>
  match Pattern.read? text with
  | some pattern => .ok pattern
  | none => .error "<regex error>"

/-- The documents that this library reads. -/
def tables : Toml.Reader := fun text =>
  match Toml.read? text with
  | some values => .ok values
  | none => .error "<toml error>"

/-- The words for what is wrong with a document. -/
def wording : Json.Wording := fun _ fault =>
  let unnamed := if fault = .noTimestamp then "<timestamp error>" else "<json error>"
  fault.message?.getD unnamed

/-- The formats of a rehearsal. -/
def formats : CommandLine.Formats where
  pattern := patterns
  table := tables
  wording

/-! ## Directories -/

/-- The home of the account that a machine is rehearsed under. -/
def accountHome : Path := ⟨"/root"⟩

/-- The home directory: the one that a variable names, or else the one of the account. -/
def homeOf (environment : Environment) : Path :=
  match environment.value? "HOME" with
  | some home => if home = "" then accountHome else ⟨home⟩
  | none => accountHome

/-- A directory that a variable names by an absolute path, or else one below the home directory. -/
def directoryOf (environment : Environment) (variableName : String) (below : List String) : Path :=
  match (environment.value? variableName).filter fun text => (Path.mk text).isAbsolute with
  | some text => ⟨text⟩
  | none => below.foldl Path.join (homeOf environment)

/-- The directories of the account that a machine is rehearsed under. -/
def directories (environment : Environment) : Directories where
  configuration := some (directoryOf environment "XDG_CONFIG_HOME" [".config"])
  data := some (directoryOf environment "XDG_DATA_HOME" [".local", "share"])

/-! ## The network -/

/-- The way to the servers of the stage, which is always there. -/
def connect : Connector Stage := fun _ => .ok Stage.network

end SignedUpgrade.Rehearsal
