import SignedUpgrade.Audit.Severity
import SignedUpgrade.Failure.Basic
import SignedUpgrade.Files.FileTree
import SignedUpgrade.Time.Timestamp
import SignedUpgrade.Upgrade.State
import SignedUpgrade.World.Log

/-!
# The world of a run

A run reads and changes files, starts programs, sends requests and writes to a log.  Everything
outside the updater's own steps — programs, servers, inspectors, sinks — is an arbitrary function
on a `Site`; whatever such a party keeps for itself is a value of the type `σ`.

* `Site` — the files, the state of the outside and the log: what every party can change;
* `World` — a site with what only the updater's own steps touch: a clock, a supply of fresh names,
  the state that the updater has reached and the journal of the steps taken so far;
* `Work`, `Attempt` — steps in a world, the second kind with a failure as a possible end.
-/

namespace SignedUpgrade

/-- What every party of a run can look at and change. -/
structure Site (σ : Type) where
  files : FileTree
  outside : σ
  log : List LogLine := []

namespace Site

variable {σ : Type}

/-- A site with one more line in its log. -/
def logged (site : Site σ) (line : LogLine) : Site σ :=
  { site with log := site.log ++ [line] }

/-- A site with a line for those who look for details. -/
def debug (site : Site σ) (text : String) : Site σ :=
  site.logged { level := .debug, text }

/-- A site after a file operation, which leaves the files alone if it fails. -/
def tryFiles (site : Site σ) (change : FileTree → Except IoFault FileTree) :
    Except Failure Unit × Site σ :=
  match change site.files with
  | .ok files => (.ok (), { site with files })
  | .error fault => (.error (.io fault), site)

end Site

/-- A step by which the updater acts on something outside itself. -/
inductive Action where
  /-- The program that tells the installed version was started. -/
  | versionCommand (program : Path)
  /-- The release feed was asked. -/
  | feedRequest (url : String)
  /-- An installer was asked for. -/
  | downloadRequest (url : String)
  /-- The signature of a file was looked at. -/
  | inspection (path : Path)
  /-- The uninstaller was started. -/
  | uninstaller (path : Path)
  /-- The installer was started. -/
  | installer (path : Path)
  deriving DecidableEq, Repr

/-- One entry of the journal. -/
inductive Note where
  | action (a : Action)
  | event (severity : Severity) (message : String)
  deriving DecidableEq, Repr

/-- A site together with the clock, the supply of fresh names, the state of the updater and the
journal. -/
structure World (σ : Type) extends Site σ where
  /-- The time at each reading of the clock. -/
  clock : Nat → Timestamp := fun _ => Timestamp.epoch
  readings : Nat := 0
  /-- The fresh names, in the order in which they are handed out. -/
  names : Nat → String
  namesUsed : Nat := 0
  state : UpdateState := .start
  journal : List Note := []

/-- Steps that cannot fail. -/
abbrev Work (σ : Type) := StateM (World σ)

/-- Steps that may end in a failure.  What they changed up to then stays changed. -/
abbrev Attempt (σ : Type) := ExceptT Failure (StateM (World σ))

/-- Steps one after the other: the later ones start where the first ones end. -/
theorem bind_run {S α β : Type} (m : StateM S α) (f : α → StateM S β) (s : S) :
    (m >>= f) s = f (m s).1 (m s).2 := rfl

namespace Work

variable {σ : Type}

/-- Lets a party act on the site. -/
def onSite {α : Type} (f : Site σ → α × Site σ) : Work σ α := fun w =>
  let (a, site) := f w.toSite
  (a, { w with toSite := site })

/-- Writes a line of the log. -/
def log (line : LogLine) : Work σ Unit :=
  onSite fun site => ((), site.logged line)

/-- Writes a line of the log for those who look for details. -/
def debug (text : String) : Work σ Unit :=
  log { level := .debug, text }

/-- The files as they are. -/
def files : Work σ FileTree := do
  return (← get).files

/-- Adds an entry to the journal. -/
def note (entry : Note) : Work σ Unit :=
  modify fun w => { w with journal := w.journal ++ [entry] }

/-- Goes on to a state. -/
def enter (state : UpdateState) : Work σ Unit := do
  debug ("Upgrade state: " ++ state.text)
  modify fun w => { w with state }

/-- Reads the clock. -/
def now : Work σ Timestamp := fun w =>
  (w.clock w.readings, { w with readings := w.readings + 1 })

/-- A name that was not handed out before. -/
def freshName : Work σ String := fun w =>
  (w.names w.namesUsed, { w with namesUsed := w.namesUsed + 1 })

end Work

namespace Attempt

variable {σ : Type}

/-- Lets a party that may fail act on the site. -/
def onSite {α : Type} (f : Site σ → Except Failure α × Site σ) : Attempt σ α :=
  ExceptT.mk (Work.onSite f)

/-- Steps that cannot fail among steps that can. -/
def ofWork {α : Type} (work : Work σ α) : Attempt σ α :=
  ExceptT.lift work

/-- Writes a line of the log for those who look for details. -/
def debug (text : String) : Attempt σ Unit :=
  ofWork (Work.debug text)

/-- Adds an entry to the journal. -/
def note (entry : Note) : Attempt σ Unit :=
  ofWork (Work.note entry)

/-- Goes on to a state. -/
def enter (state : UpdateState) : Attempt σ Unit :=
  ofWork (Work.enter state)

/-- Changes the files, or fails with the system's error. -/
def onFiles (change : FileTree → Except IoFault FileTree) : Attempt σ Unit :=
  onSite fun site => site.tryFiles change

/-- The outcome of steps as a value. -/
def outcome {α : Type} (steps : Attempt σ α) : Work σ (Except Failure α) :=
  ExceptT.run steps

/-- Steps that may fail, one after the other: a failure ends them. -/
theorem run_bind {α β : Type} (x : Attempt σ α) (f : α → Attempt σ β) (w : World σ) :
    (x >>= f).run w = match x.run w with
      | (.ok a, w') => (f a).run w'
      | (.error e, w') => (.error e, w') := by
  simp only [bind, ExceptT.bind, ExceptT.mk, ExceptT.run, StateT.bind, ExceptT.bindCont]
  rcases x w with ⟨_ | _, _⟩
  · rfl
  · rfl

/-- A change of the files that fails leaves the world as it is. -/
theorem onFiles_run (change : FileTree → Except IoFault FileTree) (w : World σ) :
    (onFiles change).run w = match change w.files with
      | .ok t => (.ok (), { w with files := t })
      | .error fault => (.error (.io fault), w) := by
  simp only [onFiles, onSite, Work.onSite, Site.tryFiles, ExceptT.run, ExceptT.mk]
  cases change w.files with
  | ok t => rfl
  | error fault => rfl

end Attempt

end SignedUpgrade
