import SignedUpgrade.Pattern.Ways
import SignedUpgrade.Settings.Key

/-!
# Registry answers

The registry is asked by a program, which prints one line per value: name, type and data, with
blanks between them.

* `Registry.valueWays` — the ways to read a line that shows a value;
* `Registry.valueLine?` — name and data of such a line;
* `Registry.told?` — the data of a value, if a line shows it;
* `Registry.valueIn?` — the data of a value in a printed answer.
-/

namespace SignedUpgrade.Registry

open Pattern Text

/-- The key under which the values stand. -/
def place : String := "HKLM\\Software\\Certbot"

/-- How long an answer may take, in milliseconds. -/
def limit : Nat := 120000

/-- The program that is asked. -/
def program : String := "reg"

/-- The arguments that ask for a value. -/
def arguments (name : String) : List String :=
  ["query", place, "/v", name]

/-- The characters in the name of a type after its beginning. -/
def typeLetters : CharSet :=
  .union (.range 0x41 0x5A) (.only '_')

/-- The ways to read the data at the end of a line: `(.*?)\s*$`. -/
def dataWays (text : List Char) : List (List Char) :=
  (runs .shortestFirst (.complement (.only '\n')) 0 text).flatMap fun (data, r) =>
    (runs .longestFirst .blank 0 r).flatMap fun (_, r) =>
      if r.isEmpty then [data] else []

/-- The ways to read a type and the data behind it: `(REG_[A-Z_]+)\s+(.*?)\s*$`. -/
def typedWays (text : List Char) : List (List Char) :=
  match text with
  | 'R' :: 'E' :: 'G' :: '_' :: r =>
    (runs .longestFirst typeLetters 1 r).flatMap fun (_, r) =>
      (runs .longestFirst .blank 1 r).flatMap fun (_, r) => dataWays r
  | _ => []

/-- The ways to read name and data of a line that shows a value:
`^\s*(\S+)\s+(REG_[A-Z_]+)\s+(.*?)\s*$`. -/
def valueWays (line : List Char) : List (List Char × List Char) :=
  (runs .longestFirst .blank 0 line).flatMap fun (_, r) =>
    (runs .longestFirst (.complement .blank) 1 r).flatMap fun (name, r) =>
      (runs .longestFirst .blank 1 r).flatMap fun (_, r) =>
        (typedWays r).map fun data => (name, data)

/-- Name and data of a line that shows a value, read in the first way that there is. -/
def valueLine? (line : List Char) : Option (List Char × List Char) :=
  (valueWays line).head?

/-- Whether two texts are the same but for the case of ASCII letters. -/
def sameName (a b : List Char) : Bool :=
  a.map Char.toLower == b.map Char.toLower

/-- The data of a value, if a line shows it. -/
def told? (name : String) (line : List Char) : Option String :=
  match valueLine? line with
  | some (found, data) =>
    if sameName found name.toList then some (String.ofList data) else none
  | none => none

/-- The data of a value in a printed answer: that of the first line with its name. -/
def valueIn? (answer name : String) : Option String :=
  (lines answer.toList).findSome? (told? name)

end SignedUpgrade.Registry
