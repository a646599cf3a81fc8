import SignedUpgrade.Process.Invocation
import SignedUpgrade.Rehearsal.Program
import SignedUpgrade.Rehearsal.Script.Running
import SignedUpgrade.Settings.Store

/-!
# A rehearsed machine

On a rehearsed machine programs are started as a system starts them: they are looked for in the
files, they have to be executable, and those that are shell scripts are carried out.

* `roundsWithin` — how much fits into a time limit;
* `machine` — the rehearsed system.
-/

namespace SignedUpgrade.Rehearsal

open Text

/-- The reason to start no program whose name or arguments hold the character that ends them. -/
def nulReason : String := "nul byte found in provided data"

/-- How many commands fit into a time limit in milliseconds. -/
def roundsWithin : Option Nat → Nat
  | none => 10000000
  | some limit => min (limit * 1000) 1000000

/-- What becomes of a script. -/
def launchOf : Script.Ending → Script.Session → Launch
  | .code n, sh => .ended (some (n : Int)) sh.output.reverse.flatten sh.errors.reverse.flatten
  | .signal, sh => .ended none sh.output.reverse.flatten sh.errors.reverse.flatten
  | .overrun, _ => .overran

/-- The script that a shell is told to carry out, with its name and its parameters. -/
def scriptOf (shell : String) : (arguments : List String) → String × String × List String
  | "-c" :: script :: name :: parameters => (script, name, parameters)
  | "-c" :: script :: [] => (script, shell, [])
  | [] => ("", shell, [])
  -- A rehearsal has no use for other ways to call a shell, which complains.
  | _ => ("exit 2", shell, [])

/-- What a program that was found is to carry out, with its name and its parameters. -/
def Startable.orders (shell : String) (arguments : List String) :
    Startable → String × String × List String
  | .shell => scriptOf shell arguments
  | .script path content => (Octets.ofBytes content, Octets.ofText path.text, arguments)

/-- The rehearsed system, with the variables that programs see. -/
def machine {σ : Type} (environment : Environment) : System σ := fun program arguments limit site =>
  if (program.text :: arguments).any fun text => text.toList.contains '\x00' then
    (.refused nulReason, site)
  else match findProgram site.files (environment.lookup "PATH") program with
    | .error fault => (.refused fault.text, site)
    | .ok found =>
      let values := environment.map fun (name, value) => (name, Octets.ofText value)
      let (script, name, parameters) :=
        found.orders (Octets.ofText program.text) (arguments.map Octets.ofText)
      let (ending, sh) :=
        Script.perform script { name, parameters, values, rounds := roundsWithin limit }
      (launchOf ending sh, site)

end SignedUpgrade.Rehearsal
