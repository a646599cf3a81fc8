import Mathlib.Data.List.Basic
import Mathlib.Tactic.Lemma
import SignedUpgrade.Process.Invocation

/-!
# Invocations piece by piece

An invocation is put together from pieces, in any order and number.  Arguments pile up, and of tails
and limits the last one counts.  Wherever the tail was set, the program gets it behind all
arguments: an installer looks for it nowhere else.

* `Invocation.Piece`, `Invocation.ofPieces` — pieces, and the invocation that they make;
* `Invocation.foldl_add` — what pieces make of an invocation, whatever it was before;
* `Invocation.shown_eq` — what is shown of an invocation is its command line;
* `System.recorded`, `startsOf` — what a system is asked to start;
* `Invocation.execute_recorded` — an invocation is started once, and recording it changes nothing;
* `Runner.plain` — a runner to which a tail is an argument like any other;
* `Invocation.tail_stays_last` — **the tail is the last argument**, whichever way it takes.
-/

namespace SignedUpgrade

variable {σ : Type}

namespace Invocation

/-! ## Pieces -/

/-- One step in putting an invocation together. -/
inductive Piece where
  | arg (argument : String)
  | args (arguments : List String)
  | rawTail (tail : String)
  | withLimit (limit : Option Nat)
  deriving DecidableEq, Repr

namespace Piece

/-- The arguments that a piece brings. -/
def arguments : Piece → List String
  | arg argument => [argument]
  | args arguments => arguments
  | _ => []

/-- The tail that a piece sets. -/
def tail? : Piece → Option String
  | rawTail tail => some tail
  | _ => none

/-- The limit that a piece sets, which may be that there is none. -/
def limit? : Piece → Option (Option Nat)
  | withLimit limit => some limit
  | _ => none

end Piece

/-- An invocation with one more piece. -/
def add (i : Invocation) : Piece → Invocation
  | .arg argument => i.arg argument
  | .args arguments => i.args arguments
  | .rawTail tail => i.rawTail tail
  | .withLimit limit => i.withLimit limit

/-- The invocation of a program that pieces make. -/
def ofPieces (program : Path) (pieces : List Piece) : Invocation :=
  pieces.foldl add { program }

/-- All arguments of pieces, in their order. -/
def argumentsOf (pieces : List Piece) : List String :=
  pieces.flatMap Piece.arguments

/-- The tail that is set last. -/
def tailOf? (pieces : List Piece) : Option String :=
  (pieces.filterMap Piece.tail?).getLast?

/-- The limit that is set last; without any piece that sets one there is none. -/
def limitOf (pieces : List Piece) : Option Nat :=
  (pieces.filterMap Piece.limit?).getLast?.getD none

/-- A piece adds its arguments behind the others; a tail or a limit replaces the one before. -/
lemma add_eq (i : Invocation) (piece : Piece) : i.add piece =
    { i with
      arguments := i.arguments ++ piece.arguments
      tail := piece.tail?.or i.tail
      limit := piece.limit?.getD i.limit } := by
  cases piece with
  | arg argument => rfl
  | args arguments => rfl
  | rawTail tail => simp [add, rawTail, Piece.arguments, Piece.tail?, Piece.limit?]
  | withLimit limit => simp [add, withLimit, Piece.arguments, Piece.tail?, Piece.limit?]

/-- Pieces add all their arguments behind the others, and the last tail and the last limit among
them replace those before. -/
lemma foldl_add (i : Invocation) (pieces : List Piece) : pieces.foldl add i =
    { i with
      arguments := i.arguments ++ argumentsOf pieces
      tail := (tailOf? pieces).or i.tail
      limit := (pieces.filterMap Piece.limit?).getLast?.getD i.limit } := by
  induction pieces generalizing i with
  | nil => simp [argumentsOf, tailOf?]
  | cons piece pieces ih =>
    rw [List.foldl_cons, ih, add_eq]
    simp only [argumentsOf, tailOf?, List.flatMap_cons, List.filterMap_cons, List.append_assoc]
    cases piece with
    | arg argument => rfl
    | args arguments => rfl
    | rawTail tail => simp [Piece.arguments, Piece.tail?, Piece.limit?, List.getLast?_cons]
    | withLimit limit => simp [Piece.arguments, Piece.tail?, Piece.limit?, List.getLast?_cons]

lemma ofPieces_eq (program : Path) (pieces : List Piece) : ofPieces program pieces =
    { program
      arguments := argumentsOf pieces
      tail := tailOf? pieces
      limit := limitOf pieces } := by
  rw [ofPieces, foldl_add, List.nil_append, Option.or_none]
  rfl

/-- The program gets the arguments of all pieces, and behind them the tail that was set last. -/
lemma commandLine_ofPieces (program : Path) (pieces : List Piece) :
    (ofPieces program pieces).commandLine = argumentsOf pieces ++ (tailOf? pieces).toList := by
  rw [ofPieces_eq, commandLine]

/-! ## What is shown -/

lemma render_append (rendered : String) (first more : List String) :
    render rendered (first ++ more) = render (render rendered first) more := by
  induction first generalizing rendered with
  | nil => rfl
  | cons argument first ih => exact ih _

/-- Arguments are rendered as they are joined: the spaces between them are those before them. -/
lemma render_eq (rendered : String) (arguments : List String) :
    render rendered arguments = " ".intercalate (rendered :: arguments) := by
  induction arguments generalizing rendered with
  | nil => rfl
  | cons argument more ih =>
    rw [render, ih]
    rfl

/-- **What is shown is the program with its command line,** the tail behind all arguments. -/
lemma shown_eq (i : Invocation) : i.shown = " ".intercalate (i.program.text :: i.commandLine) := by
  rw [← render_eq, commandLine, render_append, shown]
  cases i.tail with
  | none => rfl
  | some tail => rfl

end Invocation

/-! ## What is started -/

/-- What a system is asked to start. -/
structure Start where
  program : Path
  arguments : List String
  limit : Option Nat
  deriving DecidableEq, Repr

/-- A site with something else for the outside. -/
def Site.withOutside {τ : Type} (site : Site σ) (outside : τ) : Site τ where
  files := site.files
  outside := outside
  log := site.log

/-- A system that keeps a record of what it is asked to start, and does what it does without one. -/
def System.recorded (system : System σ) : System (σ × List Start) :=
  fun program arguments limit site =>
    let (launch, after) := system program arguments limit (site.withOutside site.outside.1)
    (launch, after.withOutside
      (after.outside, site.outside.2 ++ [{ program, arguments, limit }]))

/-- What a system is asked to start by what is done with it, in order. -/
def startsOf {α : Type}
    (steps : System (σ × List Start) → Site (σ × List Start) → α × Site (σ × List Start))
    (system : System σ) (site : Site σ) : List Start :=
  (steps system.recorded (site.withOutside (site.outside, []))).2.outside.2

namespace Invocation

/-- An invocation is started once.  Apart from the record, it ends as it does without one. -/
lemma execute_recorded (i : Invocation) (system : System σ) (site : Site σ)
    (starts : List Start) :
    i.execute system.recorded (site.withOutside (site.outside, starts))
      = ((i.execute system site).1,
          (i.execute system site).2.withOutside ((i.execute system site).2.outside, starts ++
            [{ program := i.program, arguments := i.commandLine, limit := i.limit }])) := by
  have recorded (line : LogLine) : system.recorded i.program i.commandLine i.limit
        ((site.withOutside (site.outside, starts)).logged line)
      = ((system i.program i.commandLine i.limit (site.logged line)).1,
          (system i.program i.commandLine i.limit (site.logged line)).2.withOutside
            ((system i.program i.commandLine i.limit (site.logged line)).2.outside, starts ++
              [{ program := i.program, arguments := i.commandLine, limit := i.limit }])) := rfl
  simp only [execute, recorded]
  rcases system i.program i.commandLine i.limit _ with ⟨launch, after⟩
  cases launch with
  | refused reason => rfl
  | overran => rfl
  | ended code stdout stderr =>
    dsimp only
    split
    · rfl
    · rfl

lemma starts_execute (i : Invocation) (system : System σ) (site : Site σ) :
    startsOf i.execute system site
      = [{ program := i.program, arguments := i.commandLine, limit := i.limit }] := by
  rw [startsOf, execute_recorded]
  rfl

end Invocation

/-! ## Two ways for a tail -/

namespace Invocation

/-- How arguments and tail were told apart makes no difference to what an invocation does. -/
lemma execute_congr {i j : Invocation} (program : i.program = j.program)
    (commandLine : i.commandLine = j.commandLine) (limit : i.limit = j.limit)
    (system : System σ) : i.execute system = j.execute system := by
  funext site
  simp only [execute, shown_eq, program, commandLine, limit]

end Invocation

namespace Runner

/-- A runner that knows no other way than to run: a tail is an argument like any other to it. -/
def plain (r : Runner σ) : Runner σ where
  run := r.run

/-- The system's runner sets the tail of an invocation, and without its way for tails it adds the
tail to the arguments.  That makes no difference. -/
lemma ofSystem_runWithTail (system : System σ) (program : Path) (arguments : List String)
    (tail : String) (limit : Option Nat) :
    (ofSystem system).runWithTail program arguments tail limit
      = (ofSystem system).plain.runWithTail program arguments tail limit :=
  Invocation.execute_congr (i := { program, arguments, tail := some tail, limit })
    (j := { program, arguments := arguments ++ [tail], limit })
    rfl (List.append_nil _).symm rfl system

/-- The system's runner starts the arguments with the tail behind them. -/
lemma starts_runWithTail (system : System σ) (program : Path) (arguments : List String)
    (tail : String) (limit : Option Nat) (site : Site σ) :
    startsOf (fun s => (ofSystem s).runWithTail program arguments tail limit) system site
      = [{ program, arguments := arguments ++ [tail], limit }] :=
  Invocation.starts_execute { program, arguments, tail := some tail, limit } system site

end Runner

namespace Invocation

/-- **The tail is the last argument.**  However an invocation is put together, the program gets all
arguments in the order in which they were added, and behind them the tail that was set last.  That
is also what is shown of the invocation, and what the system is asked to start.  The system's own
way to run a program with a tail starts the same as the way that knows nothing of tails, and does
the same in every other respect. -/
theorem tail_stays_last (program : Path) (pieces : List Piece) (system : System σ)
    (site : Site σ) :
    (ofPieces program pieces).commandLine = argumentsOf pieces ++ (tailOf? pieces).toList
      ∧ (ofPieces program pieces).shown
        = " ".intercalate (program.text :: (argumentsOf pieces ++ (tailOf? pieces).toList))
      ∧ startsOf (ofPieces program pieces).execute system site
        = [{ program
             arguments := argumentsOf pieces ++ (tailOf? pieces).toList
             limit := limitOf pieces }]
      ∧ ∀ (arguments : List String) (tail : String) (limit : Option Nat),
          startsOf (fun s => (Runner.ofSystem s).runWithTail program arguments tail limit)
              system site
            = [{ program, arguments := arguments ++ [tail], limit }]
          ∧ startsOf (fun s => (Runner.ofSystem s).plain.runWithTail program arguments tail limit)
              system site
            = [{ program, arguments := arguments ++ [tail], limit }]
          ∧ (Runner.ofSystem system).runWithTail program arguments tail limit
            = (Runner.ofSystem system).plain.runWithTail program arguments tail limit := by
  have started := (ofPieces program pieces).starts_execute system site
  rw [commandLine_ofPieces] at started
  refine ⟨commandLine_ofPieces program pieces, ?_, ?_, fun arguments tail limit => ?_⟩
  · rw [shown_eq, commandLine_ofPieces, ofPieces_eq]
  · rw [started, ofPieces_eq]
  · have own := Runner.starts_runWithTail system program arguments tail limit site
    have same := Runner.ofSystem_runWithTail system program arguments tail limit
    refine ⟨own, ?_, same⟩
    simpa only [Runner.ofSystem_runWithTail] using own

/-- A tail that was set before an argument is shown behind it. -/
example : (ofPieces "installer.exe" [.rawTail "/D=C:\\Certbot", .arg "/S"]).shown
    = "installer.exe /S /D=C:\\Certbot" := by decide

end Invocation

end SignedUpgrade
