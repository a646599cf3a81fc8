import SignedUpgrade.Text.Digit
import SignedUpgrade.Text.Hex
import SignedUpgrade.Time.Timestamp

/-!
# Single values of a configuration file

Texts, numbers, words for yes and no, and dates.

* `Value` — a value; of a float, a date, an array or a table only the kind is kept, as no setting
  has a value of these kinds;
* `readText` — a quoted text in one of its four forms;
* `plainValue?` — the value of a word without quotes.
-/

namespace SignedUpgrade.Toml

open Text

/-- A value of a configuration file. -/
inductive Value where
  | text (s : String)
  | integer (n : Int)
  | boolean (b : Bool)
  | float
  | datetime
  | array
  | table
  deriving DecidableEq, Repr, Inhabited

/-- The name of a value's kind. -/
def Value.kind : Value → String
  | .text _ => "string"
  | .integer _ => "integer"
  | .boolean _ => "boolean"
  | .float => "float"
  | .datetime => "datetime"
  | .array => "array"
  | .table => "table"

/-! ## Texts -/

/-- Whether a character may stand in a text or a comment: all but controls, the tab excepted. -/
def isAllowed (c : Char) : Bool :=
  c == '\t' || (0x20 ≤ c.toNat && c.toNat ≠ 0x7F)

/-- The blanks within a line. -/
def isGap (c : Char) : Bool :=
  c == ' ' || c == '\t'

/-- The document after a line end. -/
def afterLineEnd? : List Char → Option (List Char)
  | '\n' :: r => some r
  | '\r' :: '\n' :: r => some r
  | _ => none

/-- The character of an escape of one letter. -/
def escaped? (c : Char) : Option Char :=
  match c with
  | 'b' => some '\x08'
  | 't' => some '\t'
  | 'n' => some '\n'
  | 'f' => some '\x0C'
  | 'r' => some '\r'
  | '"' => some '"'
  | '\\' => some '\\'
  | _ => none

/-- The character with a code point of a number of hexadecimal digits. -/
def readCode (width : Nat) (cs : List Char) : Option (Char × List Char) := do
  let digits := cs.take width
  if digits.length < width then none
  let n ← digits.foldlM (fun n c => (Hex.value? c).map (n * 16 + ·)) 0
  if n.isValidChar then some (Char.ofNat n, cs.drop width) else none

/-- The character of an escape, after its backslash. -/
def readEscape : List Char → Option (Char × List Char)
  | 'u' :: r => readCode 4 r
  | 'U' :: r => readCode 8 r
  | c :: r => (escaped? c).map fun d => (d, r)
  | [] => none

/-- A document without the blanks and line ends before its next character. -/
def skipLines : List Char → List Char
  | ' ' :: r => skipLines r
  | '\t' :: r => skipLines r
  | '\n' :: r => skipLines r
  | '\r' :: '\n' :: r => skipLines r
  | cs => cs

/-- The document after a backslash that ends a line, from the next character that is no blank on. -/
def joinedLine? (cs : List Char) : Option (List Char) :=
  (afterLineEnd? (cs.dropWhile isGap)).map skipLines

/-- A text of one line up to its closing quote. -/
def readLine (quote : Char) : (fuel : Nat) → List Char → Option (List Char × List Char)
  | 0, _ => none
  | _ + 1, [] => none
  | fuel + 1, c :: r =>
    if c = quote then some ([], r)
    else if c = '\\' ∧ quote = '"' then do
      let (d, r) ← readEscape r
      let (text, rest) ← readLine quote fuel r
      return (d :: text, rest)
    else if isAllowed c then do
      let (text, rest) ← readLine quote fuel r
      return (c :: text, rest)
    else none

/-- The quotes at the end of a text of several lines: three close it, and up to two before these
belong to it. -/
def closing? (quote : Char) (cs : List Char) : Option (List Char × List Char) :=
  let count := (cs.takeWhile (· = quote)).length
  if count < 3 then none
  else
    let inside := min (count - 3) 2
    some (List.replicate inside quote, cs.drop (inside + 3))

/-- A text of several lines up to its closing quotes. -/
def readBlock (quote : Char) : (fuel : Nat) → List Char → Option (List Char × List Char)
  | 0, _ => none
  | _ + 1, [] => none
  | fuel + 1, c :: r =>
    match closing? quote (c :: r) with
    | some ended => some ended
    | none =>
      match afterLineEnd? (c :: r) with
      | some r => (readBlock quote fuel r).map fun (text, rest) => ('\n' :: text, rest)
      | none =>
        if c = '\\' ∧ quote = '"' then
          match joinedLine? r with
          | some r => readBlock quote fuel r
          | none => do
            let (d, r) ← readEscape r
            let (text, rest) ← readBlock quote fuel r
            return (d :: text, rest)
        else if isAllowed c then (readBlock quote fuel r).map fun (text, rest) => (c :: text, rest)
        else none

/-- A quoted text.  A line end directly after three opening quotes does not belong to the text. -/
def readText (cs : List Char) : Option (String × List Char) :=
  let found := match cs with
    | '"' :: '"' :: '"' :: r => readBlock '"' (cs.length + 1) ((afterLineEnd? r).getD r)
    | '\'' :: '\'' :: '\'' :: r => readBlock '\'' (cs.length + 1) ((afterLineEnd? r).getD r)
    | '"' :: r => readLine '"' (cs.length + 1) r
    | '\'' :: r => readLine '\'' (cs.length + 1) r
    | _ => none
  found.map fun (text, rest) => (String.ofList text, rest)

/-! ## Numbers -/

/-- Digits without the underscores between them. -/
def plainDigits? (isDigit : Char → Bool) : List Char → Option (List Char)
  | [] => none
  | [c] => if isDigit c then some [c] else none
  | c :: '_' :: r => if isDigit c then (plainDigits? isDigit r).map (c :: ·) else none
  | c :: r => if isDigit c then (plainDigits? isDigit r).map (c :: ·) else none

/-- The value of digits of a base. -/
def based? (base : Nat) (cs : List Char) : Option Nat := do
  let digits ← plainDigits? (fun c => (Hex.value? c).any (· < base)) cs
  digits.foldlM (fun n c => (Hex.value? c).map (n * base + ·)) 0

/-- Decimal digits without a zero before other digits. -/
def wholeDigits? (cs : List Char) : Option (List Char) := do
  let digits ← plainDigits? Char.isDigit cs
  match digits with
  | '0' :: _ :: _ => none
  | _ => some digits

/-- A sign before a number, and the number without it. -/
def withoutSign (cs : List Char) : Bool × List Char :=
  match cs with
  | '-' :: r => (true, r)
  | '+' :: r => (false, r)
  | _ => (false, cs)

/-- An integer of sixty-four bits. -/
def integer? (cs : List Char) : Option Int :=
  match cs with
  | '0' :: 'x' :: r => small? (based? 16 r)
  | '0' :: 'o' :: r => small? (based? 8 r)
  | '0' :: 'b' :: r => small? (based? 2 r)
  | _ => do
    let (negative, digits) := withoutSign cs
    let n ← (wholeDigits? digits).bind asciiValue?
    if negative then
      if n ≤ UInt64.size / 2 then some (-(n : Int)) else none
    else small? (some n)
where
  /-- A number that fits. -/
  small? (n : Option Nat) : Option Int :=
    n.bind fun n => if n < UInt64.size / 2 then some (n : Int) else none

/-- Whether a decimal number is too large for a float. -/
def isTooLarge (digits : List Char) (exponent : Int) : Bool :=
  let n := (asciiValue? digits).getD 0
  if n = 0 then false
  else if (digits.length : Int) + exponent < 300 then false
  else if 10000 < exponent then true
  else
    let limit := Nat.pow 2 1024 - Nat.pow 2 970
    if 0 ≤ exponent then decide (limit ≤ n * Nat.pow 10 exponent.toNat)
    else decide (limit * Nat.pow 10 exponent.natAbs ≤ n)

/-- The exponent of a float, after its mark. -/
def exponent? (cs : List Char) : Option Int := do
  let (negative, digits) := withoutSign cs
  let n ← (plainDigits? Char.isDigit digits).bind asciiValue?
  return if negative then -(n : Int) else n

/-- Whether a word is a float. -/
def isFloat (cs : List Char) : Bool :=
  let (_, body) := withoutSign cs
  if body = ['i', 'n', 'f'] ∨ body = ['n', 'a', 'n'] then true
  else
    let isMark := fun (c : Char) => c == 'e' || c == 'E'
    let mantissa := body.takeWhile (!isMark ·)
    let whole := mantissa.takeWhile (· ≠ '.')
    let decimals := mantissa.dropWhile (· ≠ '.')
    let power := body.dropWhile (!isMark ·)
    if decimals.isEmpty && power.isEmpty then false
    else
      let found := do
        let before ← wholeDigits? whole
        let after ← match decimals with
          | [] => some []
          | _ :: r => plainDigits? Char.isDigit r
        let e ← match power with
          | [] => some 0
          | _ :: r => exponent? r
        return !isTooLarge (before ++ after) (e - after.length)
      found.getD false

/-! ## Dates -/

/-- A number of exactly so many digits. -/
def fixed? (width : Nat) (cs : List Char) : Option (Nat × List Char) :=
  let digits := cs.take width
  if digits.length = width then (asciiValue? digits).map fun n => (n, cs.drop width) else none

/-- The rest of a document after a character. -/
def after? (c : Char) : List Char → Option (List Char)
  | d :: r => if c = d then some r else none
  | [] => none

/-- What follows a date. -/
def afterDate? (cs : List Char) : Option (List Char) := do
  let (year, r) ← fixed? 4 cs
  let (month, r) ← fixed? 2 (← after? '-' r)
  let (day, r) ← fixed? 2 (← after? '-' r)
  if 1 ≤ month ∧ month ≤ 12 ∧ 1 ≤ day ∧ day ≤ daysInMonth year month then some r else none

/-- What follows a time of day. -/
def afterTime? (cs : List Char) : Option (List Char) := do
  let (hour, r) ← fixed? 2 cs
  let (minute, r) ← fixed? 2 (← after? ':' r)
  let (second, r) ← fixed? 2 (← after? ':' r)
  if hour ≤ 23 ∧ minute ≤ 59 ∧ second ≤ 60 then
    match r with
    | '.' :: r => if (r.takeWhile Char.isDigit).isEmpty then none else some (r.dropWhile Char.isDigit)
    | r => some r
  else none

/-- Whether a text is an offset from universal time, or nothing. -/
def isOffset (cs : List Char) : Bool :=
  match cs with
  | [] => true
  | ['Z'] => true
  | ['z'] => true
  | sign :: r =>
    (sign == '+' || sign == '-') &&
      (do
        let (hours, r) ← fixed? 2 r
        let (minutes, r) ← fixed? 2 (← after? ':' r)
        return decide (hours ≤ 23) && decide (minutes ≤ 59) && r.isEmpty : Option Bool).getD false

/-- Whether a text is a date, a time of day, or both. -/
def isDatetime (cs : List Char) : Bool :=
  match afterDate? cs with
  | some [] => true
  | some (mark :: r) =>
    (mark == 'T' || mark == 't' || mark == ' ') && (afterTime? r).any isOffset
  | none => (afterTime? cs).any List.isEmpty

/-! ## Words -/

/-- The value of a word without quotes. -/
def plainValue? (cs : List Char) : Option Value :=
  if cs = ['t', 'r', 'u', 'e'] then some (.boolean true)
  else if cs = ['f', 'a', 'l', 's', 'e'] then some (.boolean false)
  else match integer? cs with
    | some n => some (.integer n)
    | none =>
      if isFloat cs then some .float
      else if isDatetime cs then some .datetime
      else none

/-- Whether a character may stand in a word without quotes. -/
def isPlain (c : Char) : Bool :=
  c.isAlphanum || c == '+' || c == '-' || c == '_' || c == '.' || c == ':'

/-- A word without quotes.  A date and a time of day may have a blank between them. -/
def readPlain (cs : List Char) : List Char × List Char :=
  let word := cs.takeWhile isPlain
  let rest := cs.dropWhile isPlain
  match rest with
  | ' ' :: c :: r =>
    if (afterDate? word).any List.isEmpty && c.isDigit then
      (word ++ ' ' :: (c :: r).takeWhile isPlain, (c :: r).dropWhile isPlain)
    else (word, rest)
  | _ => (word, rest)

end SignedUpgrade.Toml
