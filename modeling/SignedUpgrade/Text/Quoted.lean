/-!
# Single-quoted literals

A text that goes into a PowerShell script is written as a single-quoted literal.  Beside the writer
stands the rule by which the shell reads such a literal.

* `quote` — the literal of a text: apostrophes around it, and every apostrophe inside it twice;
* `readLiteral` — the shell's rule, in which five characters count as quotes.
-/

namespace SignedUpgrade.Text.Quoted

/-- The apostrophe, which is the quote that literals are written with. -/
def apostrophe : Char := '\''

/-- A text with every apostrophe written twice. -/
def double : List Char → List Char
  | [] => []
  | c :: r => if c = apostrophe then apostrophe :: apostrophe :: double r else c :: double r

/-- The literal of a text. -/
def quoteChars (cs : List Char) : List Char :=
  apostrophe :: double cs ++ [apostrophe]

/-- The literal of a string. -/
def quote (s : String) : String :=
  String.ofList (quoteChars s.toList)

/-! ## How the shell reads a literal -/

/-- The characters that the shell takes for a single quote: the apostrophe and its four
typographic forms. -/
def isQuote (c : Char) : Bool :=
  c == apostrophe || c == '\u2018' || c == '\u2019' || c == '\u201A' || c == '\u201B'

/-- The text up to the quote that ends a literal, and what follows that quote.  Two quotes in a row
stand for the first of them. -/
def readBody : List Char → Option (List Char × List Char)
  | [] => none
  | [c] => if isQuote c then some ([], []) else none
  | c :: d :: r =>
    if isQuote c then
      if isQuote d then (readBody r).map fun (text, rest) => (c :: text, rest)
      else some ([], d :: r)
    else (readBody (d :: r)).map fun (text, rest) => (c :: text, rest)

/-- The text of the literal that starts here, and what follows it. -/
def readLiteral : List Char → Option (List Char × List Char)
  | [] => none
  | c :: r => if isQuote c then readBody r else none

end SignedUpgrade.Text.Quoted
