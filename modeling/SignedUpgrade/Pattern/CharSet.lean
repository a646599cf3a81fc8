import SignedUpgrade.Text.Blank
import SignedUpgrade.Text.Case
import SignedUpgrade.Text.Category
import SignedUpgrade.Text.Digit
import SignedUpgrade.Text.Script

/-!
# Sets of characters

A place in a pattern stands for a set of characters, which is put together from ranges and classes.

* `CharSet` — sets of characters as data;
* `CharSet.holds` — whether a set holds a character;
* `CharSet.ofProperty?` — the set with a property's name.
-/

namespace SignedUpgrade.Pattern

open Text

/-- A set of characters. -/
inductive CharSet where
  | empty
  /-- The characters between two code points, the two included. -/
  | range (low high : Nat)
  /-- The decimal digits of all scripts. -/
  | decimal
  /-- The blanks. -/
  | blank
  /-- The characters of words. -/
  | word
  /-- The characters of some general categories. -/
  | categories (list : List Category)
  | union (a b : CharSet)
  | inter (a b : CharSet)
  | complement (a : CharSet)
  /-- The set with all cases of its letters. -/
  | folded (a : CharSet)
  deriving DecidableEq, Repr, Inhabited

namespace CharSet

/-- Whether a set holds a character. -/
def holds : CharSet → Char → Bool
  | .empty, _ => false
  | .range low high, c => low ≤ c.toNat && c.toNat ≤ high
  | .decimal, c => isDecimal c
  | .blank, c => isBlank c
  | .word, c => isWord c
  | .categories list, c => list.contains (category c)
  | .union a b, c => a.holds c || b.holds c
  | .inter a b, c => a.holds c && b.holds c
  | .complement a, c => !a.holds c
  | .folded a, c => (caseVariants c).any a.holds

/-- The set of one character. -/
def only (c : Char) : CharSet :=
  .range c.toNat c.toNat

/-- The set of all characters. -/
def all : CharSet :=
  .complement .empty

/-- The characters of the first set that are not in the second one. -/
def difference (a b : CharSet) : CharSet :=
  .inter a (.complement b)

/-- The characters that are in exactly one of two sets. -/
def eitherOne (a b : CharSet) : CharSet :=
  .union (difference a b) (difference b a)

/-- The characters that are in one of several sets. -/
def anyOf : List CharSet → CharSet
  | [] => .empty
  | [a] => a
  | a :: more => .union a (anyOf more)

/-- The ASCII digits. -/
def asciiDecimal : CharSet := .range 0x30 0x39

/-- The ASCII blanks. -/
def asciiBlank : CharSet := .union (.range 0x9 0xD) (only ' ')

/-- The ASCII letters. -/
def asciiLetter : CharSet := .union (.range 0x41 0x5A) (.range 0x61 0x7A)

/-- The ASCII characters of words. -/
def asciiWord : CharSet := anyOf [asciiLetter, asciiDecimal, only '_']

/-- The named classes of ASCII characters. -/
def asciiClasses : List (String × CharSet) :=
  [("alnum", .union asciiLetter asciiDecimal),
   ("alpha", asciiLetter),
   ("ascii", .range 0 0x7F),
   ("blank", .union (only '\t') (only ' ')),
   ("cntrl", .union (.range 0 0x1F) (only '\x7F')),
   ("digit", asciiDecimal),
   ("graph", .range 0x21 0x7E),
   ("lower", .range 0x61 0x7A),
   ("print", .range 0x20 0x7E),
   ("punct", anyOf [.range 0x21 0x2F, .range 0x3A 0x40, .range 0x5B 0x60, .range 0x7B 0x7E]),
   ("space", asciiBlank),
   ("upper", .range 0x41 0x5A),
   ("word", asciiWord),
   ("xdigit", anyOf [asciiDecimal, .range 0x41 0x46, .range 0x61 0x66])]

/-! ## Properties by name -/

/-- The names of the general categories and of groups of them, without blanks and in lower case. -/
def categoryNames : List (List String × List Category) :=
  let letters : List Category :=
    [.uppercaseLetter, .lowercaseLetter, .titlecaseLetter, .modifierLetter, .otherLetter]
  let marks : List Category := [.nonspacingMark, .spacingMark, .enclosingMark]
  let numbers : List Category := [.decimalNumber, .letterNumber, .otherNumber]
  let punctuation : List Category :=
    [.connectorPunctuation, .dashPunctuation, .openPunctuation, .closePunctuation,
     .initialPunctuation, .finalPunctuation, .otherPunctuation]
  let symbols : List Category := [.mathSymbol, .currencySymbol, .modifierSymbol, .otherSymbol]
  let separators : List Category := [.spaceSeparator, .lineSeparator, .paragraphSeparator]
  let others : List Category := [.control, .format, .surrogate, .privateUse, .unassigned]
  [(["l", "letter"], letters),
   (["lu", "uppercaseletter"], [.uppercaseLetter]),
   (["ll", "lowercaseletter"], [.lowercaseLetter]),
   (["lt", "titlecaseletter"], [.titlecaseLetter]),
   (["lc", "casedletter"], [.uppercaseLetter, .lowercaseLetter, .titlecaseLetter]),
   (["lm", "modifierletter"], [.modifierLetter]),
   (["lo", "otherletter"], [.otherLetter]),
   (["m", "mark", "combiningmark"], marks),
   (["mn", "nonspacingmark"], [.nonspacingMark]),
   (["mc", "spacingmark"], [.spacingMark]),
   (["me", "enclosingmark"], [.enclosingMark]),
   (["n", "number"], numbers),
   (["nd", "decimalnumber", "digit"], [.decimalNumber]),
   (["nl", "letternumber"], [.letterNumber]),
   (["no", "othernumber"], [.otherNumber]),
   (["p", "punctuation", "punct"], punctuation),
   (["pc", "connectorpunctuation"], [.connectorPunctuation]),
   (["pd", "dashpunctuation"], [.dashPunctuation]),
   (["ps", "openpunctuation"], [.openPunctuation]),
   (["pe", "closepunctuation"], [.closePunctuation]),
   (["pi", "initialpunctuation"], [.initialPunctuation]),
   (["pf", "finalpunctuation"], [.finalPunctuation]),
   (["po", "otherpunctuation"], [.otherPunctuation]),
   (["s", "symbol"], symbols),
   (["sm", "mathsymbol"], [.mathSymbol]),
   (["sc", "currencysymbol"], [.currencySymbol]),
   (["sk", "modifiersymbol"], [.modifierSymbol]),
   (["so", "othersymbol"], [.otherSymbol]),
   (["z", "separator"], separators),
   (["zs", "spaceseparator"], [.spaceSeparator]),
   (["zl", "lineseparator"], [.lineSeparator]),
   (["zp", "paragraphseparator"], [.paragraphSeparator]),
   (["c", "other"], others),
   (["cc", "control", "cntrl"], [.control]),
   (["cf", "format"], [.format]),
   (["co", "privateuse"], [.privateUse]),
   (["cn", "unassigned"], [.unassigned])]

/-- The set of a general category or group. -/
def ofCategory? (name : String) : Option CharSet :=
  (categoryNames.find? fun entry => entry.1.contains name).map fun entry => .categories entry.2

/-- The other properties that have a name. -/
def properties : List (List String × CharSet) :=
  [(["any"], all),
   (["ascii"], .range 0 0x7F),
   (["assigned"], .complement (.categories [.unassigned])),
   (["whitespace", "wspace", "space"], .blank),
   (["alphabetic", "alpha"],
     .categories [.uppercaseLetter, .lowercaseLetter, .titlecaseLetter, .modifierLetter,
       .otherLetter, .letterNumber]),
   (["uppercase", "upper"], .categories [.uppercaseLetter]),
   (["lowercase", "lower"], .categories [.lowercaseLetter])]

/-- A name of a property as names are compared: in lower case, without blanks, hyphens and
underscores, and without the word "is" before it. -/
def looseName (name : List Char) : String :=
  let plain := (name.map Char.toLower).filter fun c =>
    !(isBlank c || c == '_' || c == '-') && c.toNat < 0x80
  let short := if ['i', 's'].isPrefixOf plain && plain ≠ ['i', 's', 'c'] then plain.drop 2 else plain
  String.ofList (if short.isEmpty then plain else short)

/-- The set of a script. -/
def ofScript? (name : String) : Option CharSet :=
  (scriptRuns.find? fun entry => entry.1.contains name).map fun entry =>
    anyOf (entry.2.map fun run => .range run.1 run.2)

/-- The set with a property's name. -/
def ofProperty? (name : List Char) : Option CharSet :=
  let name := looseName name
  ((properties.find? fun entry => entry.1.contains name).map (·.2))
    <|> ofCategory? name <|> ofScript? name

/-- The set of the characters for which a property has a value. -/
def ofPropertyValue? (property value : List Char) : Option CharSet :=
  let property := looseName property
  if property = "gc" ∨ property = "generalcategory" then
    let value := looseName value
    match ofCategory? value with
    | some set => some set
    | none => (properties.take 3 |>.find? fun entry => entry.1.contains value).map (·.2)
  else if property = "sc" ∨ property = "script" then ofScript? (looseName value)
  else none

/-! ## Size -/

/-- How much room a set takes in a pattern, counted in characters of ASCII.  The classes of all
scripts take the room of their many ranges. -/
def size : CharSet → Nat
  | .empty => 1
  | .range low high => if high < 0x80 then 1 else if low = high then 4 else 8
  | .decimal => 150
  | .blank => 30
  | .word => 1500
  | .categories _ => 1000
  | .union a b => a.size + b.size
  | .inter a b => a.size + b.size
  | .complement a => a.size + 8
  | .folded a => 2 * a.size

end CharSet

end SignedUpgrade.Pattern
