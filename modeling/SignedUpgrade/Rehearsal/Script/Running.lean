import SignedUpgrade.Rehearsal.Script.Printing
import SignedUpgrade.Rehearsal.Script.Reading

/-!
# Carrying out scripts

* `Session` — what a script knows and what it has printed;
* `fieldsOf` — the texts that a word stands for;
* `builtin` — the commands of the shell's own;
* `Command.run` — carries out a command;
* `perform` — carries out a script, and tells how it ended.

A script can be carried out for ever, and so the number of commands is bounded by `Session.rounds`.
-/

namespace SignedUpgrade.Rehearsal.Script

open Text

/-- What a script knows, and what it has printed.  All texts are texts of bytes. -/
structure Session where
  /-- How the script calls itself. -/
  name : String
  parameters : List String := []
  values : List (String × String) := []
  /-- How the last command ended. -/
  status : Nat := 0
  /-- The pieces of the output, the last one first. -/
  output : List Bytes := []
  errors : List Bytes := []
  /-- How many more commands fit into the time that there is. -/
  rounds : Nat

/-- Why a script does not go on with its next command. -/
inductive Stop where
  | exited (code : Nat)
  /-- A signal ended the script. -/
  | killed
  /-- The script took too long. -/
  | overran
  deriving DecidableEq, Repr

/-- Steps of a script. -/
abbrev Play := ExceptT Stop (StateM Session)

/-! ## Words -/

namespace Session

/-- The number by which a script knows itself. -/
def ownNumber : String := "4242"

/-- The value of a parameter; one that is not set is empty. -/
def value (sh : Session) (name : String) : String :=
  match name with
  | "#" => toString sh.parameters.length
  | "?" => toString sh.status
  | "$" => ownNumber
  | "@" | "*" => " ".intercalate sh.parameters
  | "0" => sh.name
  | _ =>
    match asciiValue? name.toList with
    | some n => (sh.parameters[n - 1]?).getD ""
    | none => (sh.values.lookup name).getD ""

/-- A script that gives a value to a variable. -/
def assign (sh : Session) (name value : String) : Session :=
  { sh with values := (name, value) :: sh.values.filter (·.1 ≠ name) }

/-- The value of a sum; one that makes no sense counts as zero. -/
def sum (sh : Session) (cs : List Char) : String :=
  toString ((sumOf? (fun name => ((sh.value name).toInt?).getD 0) cs).getD 0)

end Session

/-- The texts of a word: those that have ended, and the one that goes on. -/
structure Fields where
  finished : List String := []
  present : Option String := none

namespace Fields

/-- Adds a text at the end. -/
def add (f : Fields) (text : String) : Fields :=
  { f with present := some (f.present.getD "" ++ text) }

/-- Ends the text that goes on. -/
def close (f : Fields) : Fields :=
  { finished := f.finished ++ f.present.toList }

/-- Adds a text that is split at its blanks. -/
def addSplit (f : Fields) (text : String) : Fields :=
  text.toList.foldl (fun f c =>
    if c = ' ' || c = '\t' || c = '\n' then f.close else f.add (toString c)) f

/-- Adds several texts, each of which ends the one before. -/
def addAll (f : Fields) : List String → Fields
  | [] => f
  | first :: more => more.foldl (fun f text => f.close.add text) (f.add first)

/-- Adds a piece of a word. -/
def addPiece (sh : Session) (f : Fields) : Piece → Fields
  | .text cs _ => f.add (String.ofList cs)
  | .parameter "@" true => f.addAll sh.parameters
  | .parameter name true => f.add (sh.value name)
  | .parameter name false => f.addSplit (sh.value name)
  | .sum cs => f.add (sh.sum cs)

end Fields

/-- The texts that a word stands for. -/
def fieldsOf (sh : Session) (word : Word) : List String :=
  (word.foldl (Fields.addPiece sh) {}).close.finished

/-- The text of a word where one text is needed. -/
def textOf (sh : Session) (word : Word) : String :=
  String.join (word.map fun
    | .text cs _ => String.ofList cs
    | .parameter name _ => sh.value name
    | .sum cs => sh.sum cs)

/-! ## Commands of the shell's own -/

/-- Where a channel leads. -/
inductive Drain where
  | output
  | errors
  | nowhere
  deriving DecidableEq, Repr

/-- Where the channels lead after some redirections. -/
def drainOf (moves : List Move) : Nat → Drain :=
  let start : Nat → Drain := fun channel => if channel = 1 then .output else .errors
  moves.foldl (fun drain move channel =>
    if channel = move.channel then move.target.elim .nowhere drain else drain channel) start

/-- Sets how the command ended. -/
def endWith (status : Nat) : Play Unit :=
  modify fun sh => { sh with status }

/-- Prints bytes. -/
def write (drain : Drain) (bytes : Bytes) : Play Unit := do
  modify fun sh => match drain with
    | .output => { sh with output := bytes :: sh.output }
    | .errors => { sh with errors := bytes :: sh.errors }
    | .nowhere => sh
  endWith 0

/-- Whether a condition holds. -/
def holds : List String → Bool
  | [a] => a ≠ ""
  | ["-n", a] => a ≠ ""
  | ["-z", a] => a = ""
  | [a, "=", b] => a = b
  | [a, "!=", b] => a ≠ b
  | [a, operator, b] =>
    match a.toInt?, b.toInt?, operator with
    | some a, some b, "-eq" => a = b
    | some a, some b, "-ne" => a ≠ b
    | some a, some b, "-lt" => a < b
    | some a, some b, "-le" => a ≤ b
    | some a, some b, "-gt" => b < a
    | some a, some b, "-ge" => b ≤ a
    | _, _, _ => false
  | _ => false

/-- The status by which an answer is told. -/
def statusOf (answer : Bool) : Nat :=
  if answer then 0 else 1

/-- What a command of the shell's own does with its arguments.  A script has no input, and signals are
only sent to itself. -/
def builtin (drain : Drain) (name : String) (arguments : List String) : Play Unit := do
  match name, arguments with
  | ":", _ | "true", _ => endWith 0
  | "false", _ => endWith 1
  | "echo", words => write drain (echoed words)
  | "printf", format :: arguments =>
    write drain (printed (arguments.length + 1) format.toList arguments)
  | "exit", code :: _ => throw (.exited ((code.toNat?).getD 2))
  | "exit", [] => throw (.exited (← get).status)
  | "kill", words =>
    if words.getLast? = some Session.ownNumber then throw .killed else endWith 1
  | "read", names =>
    modify fun sh => names.foldl (fun sh name => sh.assign name "") sh
    endWith 1
  | "test", words => endWith (statusOf (holds words))
  | "[", words =>
    let words := words.dropLast
    endWith (statusOf (if words.head? = some "!" then !holds words.tail else holds words))
  | "shift", _ =>
    modify fun sh => { sh with parameters := sh.parameters.tail }
    endWith 0
  | _, _ => endWith 127

/-! ## Commands -/

/-- Repeats a body as long as a condition has an outcome.  The status is that of the last body. -/
def repeatWhile (outcome : Bool) (condition body : Session → Except Stop Unit × Session) :
    (fuel : Nat) → (last : Nat) → Session → Except Stop Unit × Session
  | 0, _, sh => (.error .overran, sh)
  | fuel + 1, last, sh =>
    match condition sh with
    | (.error stop, sh) => (.error stop, sh)
    | (.ok (), sh) =>
      if (sh.status == 0) == outcome then
        match body sh with
        | (.error stop, sh) => (.error stop, sh)
        | (.ok (), sh) => repeatWhile outcome condition body fuel sh.status sh
      else (.ok (), { sh with status := last })

namespace Command

/-- Carries out a command of words. -/
def runSimple (assignments : List (String × Word)) (words : List Word) (moves : List Move) :
    Play Unit := do
  let sh ← get
  if sh.rounds = 0 then throw .overran
  set { assignments.foldl (fun sh (name, word) => sh.assign name (textOf sh word)) sh with
    rounds := sh.rounds - 1 }
  match words.flatMap (fieldsOf sh) with
  | [] => endWith 0
  | name :: arguments => builtin (drainOf moves 1) name arguments

/-- Carries out a command. -/
def run : Command → Play Unit
  | nothing => pure ()
  | simple assignments words moves => runSimple assignments words moves
  | sequence first second => do
    run first
    run second
  | both first second => do
    run first
    if (← get).status = 0 then run second
  | either first second => do
    run first
    if (← get).status ≠ 0 then run second
  | negated c => do
    run c
    endWith (statusOf ((← get).status ≠ 0))
  | branch condition yes no => do
    run condition
    if (← get).status = 0 then run yes
    else do
      endWith 0
      run no
  | repeated outcome condition body => ExceptT.mk fun sh =>
    -- Each round carries out a command at least.
    repeatWhile outcome (run condition).run (run body).run (sh.rounds + 1) 0 sh
  | each name words body => do
    for text in words.flatMap (fieldsOf (← get)) do
      modify fun sh => sh.assign name text
      run body

end Command

/-! ## Whole scripts -/

/-- How a script ended. -/
inductive Ending where
  | code (n : Nat)
  | signal
  | overrun
  deriving DecidableEq, Repr

/-- Carries out a script, and tells how it ended.  What is no script fails. -/
def perform (script : String) (start : Session) : Ending × Session :=
  match Command.read? script with
  | none => (.code 2, start)
  | some c =>
    match (c.run).run start with
    | (.ok (), sh) => (.code (sh.status % 256), sh)
    | (.error (.exited n), sh) => (.code (n % 256), sh)
    | (.error .killed, sh) => (.signal, sh)
    | (.error .overran, sh) => (.overrun, sh)

end SignedUpgrade.Rehearsal.Script
