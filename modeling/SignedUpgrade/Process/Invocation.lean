import SignedUpgrade.Process.Runner
import SignedUpgrade.Text.Blank

/-!
# Starting programs of the system

An `Invocation` is put together piece by piece and then carried out by the system.

* `Invocation` — a program with its arguments, its tail and its time limit;
* `Invocation.commandLine` — the arguments that the program gets, the tail last;
* `Invocation.execute` — carries an invocation out;
* `Runner.ofSystem` — the runner that starts programs of the system.
-/

namespace SignedUpgrade

open Text

/-- What became of a program that the system was asked to start. -/
inductive Launch where
  /-- The program could not be started. -/
  | refused (reason : String)
  /-- The program was stopped at its time limit. -/
  | overran
  /-- The program ended. -/
  | ended (code : Option Int) (stdout stderr : Bytes)
  deriving Repr

/-- The system's way to start a program with a list of arguments and a limit in milliseconds. -/
abbrev System (σ : Type) := Path → List String → Option Nat → Site σ → Launch × Site σ

/-- An invocation of a program, as far as it is put together. -/
structure Invocation where
  program : Path
  arguments : List String := []
  tail : Option String := none
  limit : Option Nat := none
  deriving Repr

namespace Invocation

/-- Adds one argument. -/
def arg (i : Invocation) (argument : String) : Invocation :=
  { i with arguments := i.arguments ++ [argument] }

/-- Adds several arguments. -/
def args (i : Invocation) (arguments : List String) : Invocation :=
  { i with arguments := i.arguments ++ arguments }

/-- Sets the last argument, in place of an earlier one. -/
def rawTail (i : Invocation) (tail : String) : Invocation :=
  { i with tail := some tail }

/-- Sets the time limit, in milliseconds. -/
def withLimit (i : Invocation) (limit : Option Nat) : Invocation :=
  { i with limit }

/-- The arguments that the program gets. -/
def commandLine (i : Invocation) : List String :=
  i.arguments ++ i.tail.toList

/-- Adds arguments behind a text, each of them with a space before it. -/
def render (rendered : String) : List String → String
  | [] => rendered
  | argument :: more => render (rendered ++ " " ++ argument) more

/-- The invocation as it is shown. -/
def shown (i : Invocation) : String :=
  let rendered := render i.program.text i.arguments
  match i.tail with
  | none => rendered
  | some tail => rendered ++ " " ++ tail

/-- A line of the log about the launching of programs. -/
def line (level : LogLevel) (text : String) : LogLine :=
  { level, text, scope := .process }

/-- Carries an invocation out.  The log shows the command, an overrun, and what the program printed
for those who watch it. -/
def execute {σ : Type} (i : Invocation) (system : System σ) (site : Site σ) :
    Except Failure Output × Site σ :=
  let site := site.logged (line .debug ("Executing command: " ++ i.shown))
  match system i.program i.commandLine i.limit site with
  | (.refused reason, site) => (.error (.processLaunchFailed i.program.text reason), site)
  | (.overran, site) =>
    let seconds := i.limit.getD 0 / 1000
    let text := s!"Command timed out after {seconds} seconds: " ++ i.program.text
    (.error (.processTimeout i.program.text seconds), site.logged (line .warn text))
  | (.ended code stdout stderr, site) =>
    let output : Output :=
      { code, stdout := Utf8.decodeLossy stdout, stderr := Utf8.decodeLossy stderr }
    (.ok output,
      if allBlank output.stderr then site
      else site.logged (line .debug (trimmed output.stderr)))

end Invocation

/-- The runner that starts programs of the system. -/
def Runner.ofSystem {σ : Type} (system : System σ) : Runner σ where
  run program arguments limit :=
    ((Invocation.mk program [] none none).args arguments |>.withLimit limit).execute system
  runWithTail program arguments tail limit :=
    ((Invocation.mk program [] none none).args arguments |>.rawTail tail
      |>.withLimit limit).execute system

end SignedUpgrade
