import SignedUpgrade.Files.FileTree

/-!
# Programs of a rehearsed machine

A program is a file that can be started: the shell itself or a script of it.

* `candidates` — where a program is looked for;
* `findProgram` — the program that is started, or why none is.
-/

namespace SignedUpgrade.Rehearsal

open Text

/-- Why a program cannot be started although its file could be one. -/
def wrongFormat : IoFault := ⟨.other, "Exec format error (os error 8)"⟩

/-- The directories in which programs are looked for where none are set. -/
def usualSearchPath : String := "/bin:/usr/bin"

/-- Where the shell stands. -/
def shellLocation : Location := ["bin", "sh"]

/-- The first line of a script of the shell. -/
def scriptStart : String := "#!/bin/sh"

/-- The paths at which a program is looked for in some directories, in order. -/
def candidates (directories : Option String) (program : Path) : List Path :=
  if program.text.toList.contains '/' then [program]
  else
    (splitOn ':' (directories.getD usualSearchPath).toList).map fun directory =>
      Path.join (Path.mk (String.ofList directory)) program.text

/-- What is started from a file. -/
inductive Startable where
  | shell
  | script (path : Path) (content : Bytes)
  deriving Repr

/-- The path of what is started. -/
def Startable.path : Startable → Path
  | .shell => ⟨"/" ++ "/".intercalate shellLocation⟩
  | .script path _ => path

/-- What is started from a path. -/
def startable (files : FileTree) (path : Path) : Except IoFault Startable := do
  let place ← files.resolve path
  match files.get? place with
  | none => .error .missing
  | some .directory => .error .denied
  | some (.file content executable) =>
    if !executable then .error .denied
    else if place = shellLocation then .ok .shell
    else if (Utf8.encode scriptStart).isPrefixOf content then .ok (.script path content)
    else .error wrongFormat

/-- What is started from the first of some paths from which something can be started.  A file that
may not be started is remembered as the reason if there is no other one. -/
def startFirst (files : FileTree) : (reason : IoFault) → List Path → Except IoFault Startable
  | reason, [] => .error reason
  | reason, path :: more =>
    match startable files path with
    | .ok start => .ok start
    | .error fault =>
      if fault = .denied then startFirst files fault more
      else if fault = .missing || fault = .notDirectory then
        startFirst files (if reason = .denied then reason else fault) more
      else .error fault

/-- What is started as a program that is looked for in some directories. -/
def findProgram (files : FileTree) (directories : Option String) (program : Path) :
    Except IoFault Startable :=
  if program.text = "" then .error .missing
  else startFirst files .missing (candidates directories program)

end SignedUpgrade.Rehearsal
