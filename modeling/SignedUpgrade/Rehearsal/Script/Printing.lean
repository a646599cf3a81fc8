import SignedUpgrade.Text.Digit
import SignedUpgrade.Text.Octets

/-!
# What scripts print, and what they count

Each character of a text stands for one byte here.

* `escaped` — the bytes of a text with its escapes carried out;
* `echoed`, `printed` — what `echo` and `printf` print;
* `sumOf` — the value of a sum, in which a name stands for the number that a variable holds.
-/

namespace SignedUpgrade.Rehearsal.Script

open Text

/-! ## Printing -/

/-- The bytes that letters after a backslash stand for. -/
def escapes : List (Char × UInt8) :=
  [('a', 7), ('b', 8), ('f', 12), ('n', 10), ('r', 13), ('t', 9), ('v', 11), ('\\', 92)]

/-- The value of octal digits. -/
def octalValue (digits : List Char) : Nat :=
  digits.foldl (fun n c => 8 * n + digitValue c) 0

/-- The octal digits at the start of a text, three at most. -/
def octalDigits (cs : List Char) : List Char :=
  (cs.take 3).takeWhile fun c => '0' ≤ c && c ≤ '7'

/-- The byte behind a backslash, and what is left.  A backslash before anything else stands for
itself. -/
def readEscape (cs : List Char) : UInt8 × List Char :=
  let digits := octalDigits cs
  if !digits.isEmpty then ((octalValue digits).toUInt8, cs.drop digits.length)
  else match (cs.head?).bind fun c => escapes.lookup c with
    | some b => (b, cs.tail)
    | none => (92, cs)

/-- The bytes of a text with its escapes carried out, and whether printing goes on after it.  Octal
numbers may have a zero before their digits here.  The fuel bounds the number of characters. -/
def escaped : (fuel : Nat) → List Char → Bytes × Bool
  | 0, _ | _, [] => ([], true)
  | _ + 1, '\\' :: 'c' :: _ => ([], false)
  | fuel + 1, '\\' :: '0' :: cs =>
    let digits := octalDigits cs
    let (bytes, more) := escaped fuel (cs.drop digits.length)
    ((octalValue digits).toUInt8 :: bytes, more)
  | fuel + 1, '\\' :: cs =>
    let (b, rest) := readEscape cs
    let (bytes, more) := escaped fuel rest
    (b :: bytes, more)
  | fuel + 1, c :: cs =>
    let (bytes, more) := escaped fuel cs
    (Octets.bytesOf [c] ++ bytes, more)

/-- What `echo` prints. -/
def echoed (words : List String) : Bytes :=
  let (last, words) : Bytes × List String := match words with
    | "-n" :: words => ([], words)
    | _ => ([10], words)
  let text := (" ".intercalate words).toList
  let (bytes, more) := escaped (text.length + 1) text
  if more then bytes ++ last else bytes

/-- What a format prints once, and the arguments that are left.  The fuel bounds the number of
characters. -/
def printedOnce : (fuel : Nat) → (format : List Char) → List String → Bytes × List String
  | 0, _, arguments | _, [], arguments => ([], arguments)
  | fuel + 1, '\\' :: cs, arguments =>
    let (b, rest) := readEscape cs
    let (bytes, arguments) := printedOnce fuel rest arguments
    (b :: bytes, arguments)
  | fuel + 1, '%' :: '%' :: cs, arguments =>
    let (bytes, arguments) := printedOnce fuel cs arguments
    (37 :: bytes, arguments)
  | fuel + 1, '%' :: letter :: cs, arguments =>
    let argument := arguments.headD ""
    let own := match letter with
      | 'd' | 'i' => Octets.ofText (toString (argument.toInt?.getD 0))
      | 'c' => (argument.take 1).toString
      | _ => argument
    let own := if letter = 'b' then (escaped (own.length + 1) own.toList).1 else Octets.toBytes own
    let (bytes, arguments) := printedOnce fuel cs arguments.tail
    (own ++ bytes, arguments)
  | fuel + 1, c :: cs, arguments =>
    let (bytes, arguments) := printedOnce fuel cs arguments
    (Octets.bytesOf [c] ++ bytes, arguments)

/-- What `printf` prints: its format is used again as long as it takes arguments and some are left.
The fuel bounds the number of arguments. -/
def printed : (fuel : Nat) → (format : List Char) → List String → Bytes
  | 0, _, _ => []
  | fuel + 1, format, arguments =>
    let (bytes, left) := printedOnce (format.length + 1) format arguments
    if left.isEmpty || left.length = arguments.length then bytes
    else bytes ++ printed fuel format left

/-! ## Counting -/

/-- The operators on two numbers by how tightly they bind, loosest first. -/
def levels : List (List (String × (Int → Int → Int))) :=
  let truth : Bool → Int := fun b => if b then 1 else 0
  [[("==", fun a b => truth (a = b)), ("!=", fun a b => truth (a ≠ b))],
   [("<=", fun a b => truth (a ≤ b)), (">=", fun a b => truth (b ≤ a)),
    ("<", fun a b => truth (a < b)), (">", fun a b => truth (b < a))],
   [("+", (· + ·)), ("-", (· - ·))],
   [("*", (· * ·)), ("/", Int.tdiv), ("%", Int.tmod)]]

/-- The value at the start of a text by the operators of some levels, and what is left.  The fuel
bounds the number of characters and levels. -/
def readSum (value : String → Int) :
    (fuel : Nat) → List (List (String × (Int → Int → Int))) → List Char → Option (Int × List Char)
  | 0, _, _ => none
  | fuel + 1, level :: tighter, cs => do
    let (a, rest) ← readSum value fuel tighter cs
    readMore fuel level tighter a rest
  | fuel + 1, [], cs =>
    match cs.dropWhile (· = ' ') with
    | '-' :: cs => (readSum value fuel [] cs).map fun (n, rest) => (-n, rest)
    | '(' :: cs => do
      let (n, rest) ← readSum value fuel levels cs
      match rest.dropWhile (· = ' ') with
      | ')' :: rest => some (n, rest)
      | _ => none
    | '$' :: cs => readSum value fuel [] cs
    | cs =>
      let letters := cs.takeWhile fun c => c.isAlphanum || c = '_'
      let n := (asciiValue? letters).elim (value (String.ofList letters)) Int.ofNat
      if letters.isEmpty then none else some (n, cs.drop letters.length)
where
  /-- The value of a number and what is combined with it from the left. -/
  readMore (fuel : Nat) (level : List (String × (Int → Int → Int)))
      (tighter : List (List (String × (Int → Int → Int)))) (a : Int) (cs : List Char) :
      Option (Int × List Char) :=
    let cs := cs.dropWhile (· = ' ')
    match fuel, level.find? fun operator => operator.1.toList.isPrefixOf cs with
    | fuel + 1, some (operator, combine) => do
      let (b, rest) ← readSum value fuel tighter (cs.drop operator.length)
      readMore fuel level tighter (combine a b) rest
    | _, _ => some (a, cs)

/-- The value of a sum. -/
def sumOf? (value : String → Int) (cs : List Char) : Option Int :=
  match readSum value (8 * cs.length + 8) levels cs with
  | some (n, []) => some n
  | _ => none

end SignedUpgrade.Rehearsal.Script
