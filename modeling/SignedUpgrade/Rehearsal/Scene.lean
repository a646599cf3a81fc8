import SignedUpgrade.Rehearsal.Machine
import SignedUpgrade.Rehearsal.Stage

/-!
# The scene of a rehearsal

* `scene` — the files of a machine before a rehearsal;
* `provide`, `provideDirectory` — add what a rehearsal needs;
* `namesBelow` — everything below a place, by name;
* `freshName` — the names that are handed out in a rehearsal.
-/

namespace SignedUpgrade.Rehearsal

open Text

/-- The directories of every machine. -/
def usualDirectories : List Location :=
  [["bin"], ["dev"], ["etc"], ["home"], ["opt"], ["proc"], ["root"], ["sbin"], ["srv"], ["tmp"],
   ["usr"], ["usr", "bin"], ["var"], ["var", "tmp"]]

/-- The files of a machine before a rehearsal, which takes place in a directory of its own. -/
def scene (directory : Path) : FileTree :=
  let start : FileTree := {}
  let directories := usualDirectories.foldl (fun t l => t.put l .directory) start
  let files := (directories.put shellLocation (.file [] true)).put ["dev", "null"] (.file [] false)
  let files := files.put ["etc", "passwd"] (.file [] false)
  match files.createDirectories directory with
  | .error _ => files
  | .ok files =>
    match files.resolve directory with
    | .ok place => { files with workingDirectory := place }
    | .error _ => files

/-- Adds a directory and those above it. -/
def provideDirectory (files : FileTree) (path : Path) : FileTree :=
  FileEffect.attempted files (·.createDirectories path)

/-- Adds a file and the directories above it. -/
def provide (files : FileTree) (path : Path) (content : Bytes) (executable : Bool) : FileTree :=
  let files := match path.parent? with
    | some parent => provideDirectory files parent
    | none => files
  match files.write path content with
  | .error _ => files
  | .ok files =>
    match files.resolve path with
    | .ok place => files.put place (.file content executable)
    | .error _ => files

/-- Adds a name to names in ascending order. -/
def insertName (name : String) : List String → List String
  | [] => [name]
  | other :: names =>
    if name < other then name :: other :: names else other :: insertName name names

/-- Everything below a place in ascending order; the names of directories end in a slash. -/
def namesBelow (files : FileTree) (place : Location) : List String :=
  let below := files.entries.filter fun e => place.isPrefixOf e.1 && place.length < e.1.length
  let names := below.map fun (l, e) =>
    "/".intercalate (l.drop place.length) ++ (if e = .directory then "/" else "")
  names.foldl (fun sorted name => insertName name sorted) []

/-- What fresh names begin with. -/
def freshStart : String := "00000000-0000-4000-8000-"

/-- The names that are handed out in a rehearsal, all of one length. -/
def freshName (n : Nat) : String :=
  let digits := Nat.toDigits 10 n
  freshStart ++ String.ofList (List.replicate (12 - digits.length) '0' ++ digits)

/-- The world before a rehearsal. -/
def world (files : FileTree) (stage : Stage) : World Stage :=
  { files, outside := stage, names := freshName }

end SignedUpgrade.Rehearsal
