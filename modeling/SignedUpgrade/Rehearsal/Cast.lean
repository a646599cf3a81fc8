import SignedUpgrade.Process.Runner
import SignedUpgrade.Text.Case

/-!
# Rehearsed programs

An upgrade can be rehearsed with programs that only play their parts: each one is known by its stem,
has its answers ready, and may change files as a real installer would.

* `Reply` — what a rehearsed program answers;
* `FileEffect` — what it does to the files before it answers;
* `Cast` — the programs of a rehearsal and the calls made to them so far;
* `Cast.answer` — one call.
-/

namespace SignedUpgrade.Rehearsal

open Text

/-- What a rehearsed program answers to a call. -/
inductive Reply where
  /-- It ends with this output. -/
  | output (o : Output)
  /-- It cannot be started. -/
  | refusal
  /-- It does not end in time. -/
  | overrun
  deriving Repr

/-- What a rehearsed program does to the files.  An effect that cannot be had is left out. -/
inductive FileEffect where
  /-- Removes a file, or a directory with everything in it. -/
  | remove (path : Path)
  /-- Makes a directory and those above it. -/
  | makeDirectory (path : Path)
  /-- Writes a file. -/
  | write (path : Path) (text : String)
  /-- Puts a plain file in the place of the directory that holds the program. -/
  | replaceParent
  deriving Repr

/-- One call of a rehearsed program. -/
structure Call where
  program : Path
  arguments : List String
  tail : Option String := none
  /-- The time limit, in milliseconds. -/
  limit : Option Nat := none
  deriving Repr

/-- The name under which a program is known. -/
def stemOf (program : Path) : String :=
  lower program.stem

/-- The stem of the called program. -/
def Call.stem (c : Call) : String :=
  stemOf c.program

/-- The programs of a rehearsal, each under its stem. -/
structure Cast where
  /-- What a program answers to any call. -/
  fixed : List (String × Reply) := []
  /-- What programs answer to single calls; these come first, in order. -/
  queued : List (String × Reply) := []
  effects : List (String × List FileEffect) := []
  /-- The calls so far. -/
  calls : List Call := []

namespace FileEffect

/-- The files after an operation, or as they were if it failed. -/
def attempted (files : FileTree) (change : FileTree → Except IoFault FileTree) : FileTree :=
  match change files with
  | .ok changed => changed
  | .error _ => files

/-- The files after something was removed. -/
def removed (files : FileTree) (path : Path) : FileTree :=
  if files.hasDirectory path then attempted files (·.removeAll path)
  else attempted files (·.removeFile path)

/-- What stands in the place of a directory that was replaced. -/
def placeholder : Bytes := Utf8.encode "x"

/-- The files after one effect of a program. -/
def perform (program : Path) (files : FileTree) : FileEffect → FileTree
  | remove path => removed files path
  | makeDirectory path => attempted files (·.createDirectories path)
  | write path text => attempted files (·.write path (Utf8.encode text))
  | replaceParent =>
    match program.parent? with
    | none => files
    | some parent => attempted (attempted files (·.removeAll parent)) (·.write parent placeholder)

end FileEffect

namespace Cast

/-- A cast with other replies queued: the first one for a stem is taken out. -/
def takeQueued (stem : String) :
    List (String × Reply) → Option Reply × List (String × Reply)
  | [] => (none, [])
  | (s, r) :: more =>
    if s = stem then (some r, more)
    else
      let (found, rest) := takeQueued stem more
      (found, (s, r) :: rest)

/-- The files after the effects of a program. -/
def effectsOf (cast : Cast) (program : Path) (files : FileTree) : FileTree :=
  ((cast.effects.lookup (stemOf program)).getD []).foldl (FileEffect.perform program) files

/-- What a call comes to. -/
def resultOf (call : Call) : Option Reply → Except Failure Output
  | some (.output o) => .ok o
  | some .overrun => .error (.processTimeout call.program.text (call.limit.getD 0 / 1000))
  | some .refusal | none => .error (.processLaunchFailed call.program.text "program not found")

/-- Makes a call: what it comes to, and the cast that remembers it. -/
def answer (cast : Cast) (call : Call) : Except Failure Output × Cast :=
  let (reply, queued) := takeQueued call.stem cast.queued
  let reply := reply.or (cast.fixed.lookup call.stem)
  (resultOf call reply, { cast with queued, calls := cast.calls ++ [call] })

/-- The number of calls of programs with a stem. -/
def callsTo (cast : Cast) (stem : String) : Nat :=
  (cast.calls.filter (·.stem = stem)).length

end Cast

end SignedUpgrade.Rehearsal
