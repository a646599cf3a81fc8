/-!
# Command line arguments

The arguments name a command, and around it stand options that apply to all commands.

* `Order` — a command with the options;
* `Refusal` — why arguments are no order, and the exit code that tells so;
* `Order.ofArguments` — the order that arguments give.

Options may stand before a command and after it.  Words are read place by place: at the top, after
`task`, and after a command that ends the order.  Whether options fit together is looked at in each
place for itself; of options given in several places the last one counts.
-/

namespace SignedUpgrade.CommandLine

/-- What is to be done with the scheduled task. -/
inductive TaskAction where
  | status
  | create
  | delete
  | enable
  | disable
  deriving DecidableEq, Repr

/-- What is to be done. -/
inductive Command where
  | run
  | check
  | task (action : TaskAction)
  deriving DecidableEq, Repr

/-- The options that apply to all commands. -/
structure Options where
  verbose : Bool := false
  quiet : Bool := false
  /-- The configuration file that was asked for. -/
  config : Option String := none
  deriving DecidableEq, Repr

/-- A command with the options. -/
structure Order where
  command : Command
  options : Options
  deriving DecidableEq, Repr

/-- Why arguments are no order. -/
inductive Refusal where
  /-- Help was asked for. -/
  | help
  /-- The version was asked for. -/
  | version
  /-- There is nothing where a command has to stand, and help is shown instead. -/
  | helpInstead
  /-- There are options but no command. -/
  | missingCommand
  | unknownCommand
  | unknownArgument
  /-- An option stands twice, or beside one that it excludes. -/
  | conflict
  /-- An option has no value where it needs one. -/
  | missingValue
  /-- An option has a value where it takes none. -/
  | unwantedValue
  deriving DecidableEq, Repr

/-- The exit code that tells a refusal: what was asked for is no error. -/
def Refusal.exitCode : Refusal → Nat
  | .help | .version => 0
  | _ => 2

/-! ## Places -/

/-- Where words are read. -/
inductive Place where
  /-- Before the command. -/
  | top
  /-- After `task`. -/
  | task
  /-- After a word that completes the command. -/
  | last
  deriving DecidableEq, Repr

namespace Place

/-- The word that asks for help. -/
def helpWord : String := "help"

/-- The words that name a command at a place. -/
def names : Place → List String
  | top => ["run", "check", "task", helpWord]
  | task => ["status", "create", "delete", "enable", "disable", helpWord]
  | last => []

/-- The refusal of a word that fits nothing at a place.  A command's name stands after the end of
all options only by mistake. -/
def misplaced (place : Place) (optionsEnded : Bool) (word : String) : Refusal :=
  if place.names.isEmpty || optionsEnded && place.names.contains word then .unknownArgument
  else .unknownCommand

/-- The place after a word that names a command. -/
def after : Place → String → Place
  | top, word => if word = "task" then .task else .last
  | _, _ => .last

/-- The answer to a request for help on commands, which are named one within the other. -/
def helpOn (place : Place) : List String → Refusal
  | [] => .help
  | word :: words =>
    if place.names.contains word then (place.after word).helpOn words else .unknownCommand

end Place

/-! ## Options -/

/-- The options at a place, as far as they are read. -/
structure Seen where
  options : Options := {}
  /-- The value of the option that was read last, if that takes one, as far as it is there. -/
  pending : Option (Option String) := none
  /-- Whether a double dash ended the options. -/
  ended : Bool := false
  deriving DecidableEq, Repr

namespace Seen

/-- Takes a configuration file. -/
def withConfig (s : Seen) (value : String) : Except Refusal Seen :=
  if s.options.config.isSome then .error .conflict
  else if value = "" then .error .missingValue
  else .ok { s with options := { s.options with config := some value } }

/-- Takes the value that is pending. -/
def settle (s : Seen) : Except Refusal Seen :=
  match s.pending with
  | none => .ok s
  | some none => .error .missingValue
  | some (some value) => { s with pending := none }.withConfig value

/-- Takes the option for more log lines. -/
def takeVerbose (s : Seen) : Except Refusal Seen := do
  let s ← s.settle
  if s.options.verbose then throw .conflict
  return { s with options := { s.options with verbose := true } }

/-- Takes the option for fewer log lines. -/
def takeQuiet (s : Seen) : Except Refusal Seen := do
  let s ← s.settle
  if s.options.quiet then throw .conflict
  return { s with options := { s.options with quiet := true } }

/-- Takes the option for a configuration file together with its value. -/
def takeConfig (s : Seen) (value : String) : Except Refusal Seen := do
  (← s.settle).withConfig value

/-- Takes the option for a configuration file, whose value is to come. -/
def awaitConfig (s : Seen) : Except Refusal Seen := do
  return { (← s.settle) with pending := some none }

/-- Refuses to go on, unless something before is to be refused. -/
def refuse (s : Seen) (refusal : Refusal) : Except Refusal Seen := do
  let _ ← s.settle
  throw refusal

/-- Reads an option that is written out, with the value after its equals sign. -/
def takeLong (s : Seen) (place : Place) (name : String) (value : Option String) :
    Except Refusal Seen :=
  match name, value with
  | "config", some value => s.takeConfig value
  | "config", none => s.awaitConfig
  | "verbose", none => s.takeVerbose
  | "quiet", none => s.takeQuiet
  | "help", none => s.refuse .help
  | "version", none => if place = .top then s.refuse .version else .error .unknownArgument
  | "verbose", some _ | "quiet", some _ | "help", some _ => .error .unwantedValue
  | "version", some _ => .error (if place = .top then .unwantedValue else .unknownArgument)
  | _, _ => .error .unknownArgument

/-- Reads options of one letter each.  What stands after the one that takes a value is its value. -/
def takeShort (s : Seen) (place : Place) : List Char → Except Refusal Seen
  | [] => .ok s
  | 'v' :: more => do (← s.takeVerbose).takeShort place more
  | 'q' :: more => do (← s.takeQuiet).takeShort place more
  | ['c'] => s.awaitConfig
  | 'c' :: '=' :: value => s.takeConfig (String.ofList value)
  | 'c' :: value => s.takeConfig (String.ofList value)
  | 'h' :: _ => s.refuse .help
  | 'V' :: _ => if place = .top then s.refuse .version else .error .unknownArgument
  | _ :: _ => .error .unknownArgument

/-- Whether a word stands where the value of an option has to stand. -/
def awaitsValue (s : Seen) : Bool :=
  s.pending = some none

/-- Reads the words at a place up to one that names a command: the options, that word and the words
after it. -/
def scan (place : Place) (s : Seen) :
    List String → Except Refusal (Seen × Option (String × List String))
  | [] => .ok (s, none)
  | word :: rest =>
    if s.ended then .error (place.misplaced true word)
    else if !s.awaitsValue && place.names.contains word then
      if word = Place.helpWord then .error (place.helpOn rest) else .ok (s, some (word, rest))
    else match word.toList with
      | ['-', '-'] => { s with ended := true }.scan place rest
      | '-' :: '-' :: long => do
        let name := long.takeWhile (· ≠ '=')
        let value := match long.drop name.length with
          | _ :: value => some (String.ofList value)
          | [] => none
        (← s.takeLong place (String.ofList name) value).scan place rest
      | '-' :: c :: short => do (← s.takeShort place (c :: short)).scan place rest
      | _ =>
        if s.awaitsValue then { s with pending := some (some word) }.scan place rest
        else .error (place.misplaced false word)

/-- The options at a place where no command was named. -/
def missing (s : Seen) : Except Refusal Options := do
  let s ← s.settle
  if s.options = {} then throw .helpInstead else throw .missingCommand

/-- The options at a place, if they fit together. -/
def checked (s : Seen) : Except Refusal Options := do
  let s ← s.settle
  if s.options.verbose ∧ s.options.quiet then throw .conflict
  return s.options

end Seen

/-- Options together with those of a later place. -/
def Options.followedBy (a b : Options) : Options where
  verbose := a.verbose || b.verbose
  quiet := a.quiet || b.quiet
  config := b.config.or a.config

/-! ## Orders -/

/-- Reads the words after a word that completes a command. -/
def readLast (words : List String) : Except Refusal Options := do
  (← Seen.scan .last {} words).1.checked

/-- The action that a word names. -/
def TaskAction.ofName? : String → Option TaskAction
  | "status" => some .status
  | "create" => some .create
  | "delete" => some .delete
  | "enable" => some .enable
  | "disable" => some .disable
  | _ => none

/-- Reads the words after `task`. -/
def readTask (words : List String) : Except Refusal Order := do
  let (seen, named) ← Seen.scan .task {} words
  match named.bind fun n => (TaskAction.ofName? n.1).map (·, n.2) with
  | none => return { command := .task .status, options := ← seen.missing }
  | some (action, rest) =>
    let later ← readLast rest
    return { command := .task action, options := (← seen.checked).followedBy later }

/-- The order that arguments give. -/
def Order.ofArguments (words : List String) : Except Refusal Order := do
  let (seen, named) ← Seen.scan .top {} words
  match named with
  | some ("run", rest) =>
    let later ← readLast rest
    return { command := .run, options := (← seen.checked).followedBy later }
  | some ("check", rest) =>
    let later ← readLast rest
    return { command := .check, options := (← seen.checked).followedBy later }
  | some (_, rest) =>
    let order ← readTask rest
    return { order with options := (← seen.checked).followedBy order.options }
  | none => return { command := .run, options := ← seen.missing }

end SignedUpgrade.CommandLine
