import SignedUpgrade.World.Basic

/-!
# Running programs

Every program that the updater starts goes through a `Runner`, so that a run can be carried out
against any party that answers in place of the programs.

* `Output` — how a program ended and what it printed;
* `Output.check` — makes a failure of an end without success;
* `Runner` — starts a program, with or without a last argument that must not be quoted.
-/

namespace SignedUpgrade

open Text

/-- How a program that ran to its end ended, and what it printed. -/
structure Output where
  /-- The exit code; a program that was ended by a signal has none. -/
  code : Option Int := none
  stdout : String := ""
  stderr : String := ""
  deriving DecidableEq, Repr, Inhabited

namespace Output

/-- Whether the program reported success. -/
def succeeded (o : Output) : Bool :=
  o.code == some 0

/-- The output of a program that reported success.  The failure of any other one shows the program
under the given name. -/
def check (o : Output) (program : String) : Except Failure Output :=
  if o.succeeded then .ok o else .error (.processFailed program o.code o.stderr)

end Output

/-- A way to start programs.  A program that runs to its end has an output, whatever its exit code;
one that cannot be started, or does not end within the limit (in milliseconds), is a failure.

The installers read their last argument from the raw command line and know it only without quotes,
so it has a place of its own.  A runner to which it is an argument like any other runs the program
with the tail after the other arguments. -/
structure Runner (σ : Type) where
  run : Path → List String → Option Nat → Site σ → Except Failure Output × Site σ
  runWithTail : Path → List String → String → Option Nat → Site σ → Except Failure Output × Site σ :=
    fun program arguments tail limit => run program (arguments ++ [tail]) limit

end SignedUpgrade
