import SignedUpgrade.CommandLine.Arguments
import SignedUpgrade.Text.Category
import SignedUpgrade.Text.Split
import SignedUpgrade.World.Log

/-!
# Which log lines are shown

* `LogFilter` — for each part of the updater, from which level on its lines are shown;
* `LogFilter.read?` — a filter as it is written in a variable;
* `LogFilter.ofOptions` — the filter that the options ask for;
* `LogFilter.shows` — whether a line is shown.
-/

namespace SignedUpgrade.CommandLine

open Text

/-- The level that the options ask for; `none` leaves nothing but errors. -/
def Options.level (options : Options) : Option LogLevel :=
  if options.verbose then some .debug else if options.quiet then none else some .info

/-- From which level on lines are shown; `none` shows no line. -/
abbrev Threshold := Option LogLevel

/-- One rule of a filter: the beginning of the names of the parts that it is about. -/
structure LogRule where
  start : String := ""
  threshold : Threshold
  deriving DecidableEq, Repr

/-- The rules of a filter.  Of those that apply the one with the longest beginning decides. -/
abbrev LogFilter := List LogRule

namespace LogFilter

/-- The name of a part of the updater in filters. -/
def scopeName : LogScope → String
  | .updater => "certbot_updater"
  | .reports => "certbot_updater::audit"
  | .process => "process"

/-- The words for thresholds. -/
def thresholds : List (String × Threshold) :=
  [("off", none), ("error", some .error), ("warn", some .warn), ("info", some .info),
   ("debug", some .debug), ("trace", some .debug), ("0", none), ("1", some .error),
   ("2", some .warn), ("3", some .info), ("4", some .debug), ("5", some .debug)]

/-- The threshold that a word names, whatever the case of its letters. -/
def threshold? (word : List Char) : Option Threshold :=
  thresholds.lookup (String.ofList (word.map Char.toLower))

/-- Characters of the names of parts. -/
def inScopeName (c : Char) : Bool :=
  isWord c || c = ':' || c = '-'

/-- A rule as it is written: a threshold, a name, or both with an equals sign between them.  A name
without a threshold shows all lines. -/
def readRule? (cs : List Char) : Option LogRule :=
  match threshold? cs with
  | some threshold => some { threshold }
  | none =>
    let name := cs.takeWhile inScopeName
    let start := if (threshold? name).isSome then "" else String.ofList name
    if name.isEmpty then none
    else match cs.drop name.length with
      | [] | ['='] => some { start, threshold := some .debug }
      | '=' :: word => (threshold? word).map fun threshold => { start, threshold }
      | _ => none

/-- A filter as it is written: rules with commas between them.  Without any rule it shows errors. -/
def read? (text : String) : Option LogFilter := do
  let rules ← ((splitOn ',' text.toList).filter (· ≠ [])).mapM readRule?
  return if rules.isEmpty then [{ threshold := some .error }] else rules

/-- The filter that the options ask for. -/
def ofOptions (options : Options) : LogFilter :=
  [{ threshold := some (options.level.getD .error) }]

/-- Of two rules the one that decides: the one with the longer beginning, or else the later one. -/
def decisive (a b : LogRule) : LogRule :=
  if b.start.length < a.start.length then a else b

/-- The rule that decides about a part of the updater. -/
def ruleFor? (filter : LogFilter) (scope : LogScope) : Option LogRule :=
  (filter.filter fun rule => rule.start.toList.isPrefixOf (scopeName scope).toList).foldl
    (fun best rule => some (match best with | some best => decisive best rule | none => rule)) none

/-- Whether a line is shown. -/
def shows (filter : LogFilter) (line : LogLine) : Bool :=
  match filter.ruleFor? line.scope with
  | some { threshold := some level, .. } => level.rank ≤ line.level.rank
  | _ => false

end LogFilter

end SignedUpgrade.CommandLine
