import SignedUpgrade.Json.Fault
import SignedUpgrade.Text.Utf8

/-!
# Letters of a document

A document is read letter by letter.  A letter is a character or, where the bytes of a document are
no UTF-8, a mark without a character; marks may stand only inside texts that nobody keeps.

* `skipBlanks` — leaves out the blanks between the parts of a document;
* `readText` — a text that is kept, with its escapes resolved;
* `skip` — leaves out one value of any kind, however deep it is nested.
-/

namespace SignedUpgrade.Json

open Text

/-- The letters of a document. -/
abbrev Letters := List (Option Char)

/-- The words for a fault of a document, which may also tell where it is. -/
abbrev Wording := Letters → Fault → String

/-- The letters of a string. -/
def lettersOf (s : String) : Letters :=
  s.toList.map some

/-- A way to read something from the start of a document: what was read, and the letters after
it. -/
abbrev Reader (α : Type) := Letters → Except Fault (α × Letters)

/-- The blanks between the parts of a document. -/
def isGap (c : Char) : Bool :=
  c == ' ' || c == '\n' || c == '\t' || c == '\r'

/-- A document from its first letter that is no blank. -/
def skipBlanks : Letters → Letters
  | [] => []
  | some c :: r => if isGap c then skipBlanks r else some c :: r
  | none :: r => none :: r

/-- The letters after a word. -/
def readWord : List Char → Letters → Except Fault Letters
  | [], letters => .ok letters
  | c :: word, some d :: r => if c = d then readWord word r else .error .malformed
  | _ :: _, _ => .error .malformed

/-! ## Texts -/

/-- The value of a hexadecimal digit. -/
def hexValue? (c : Char) : Option Nat :=
  if c.isDigit then some (c.toNat - '0'.toNat)
  else if 'a' ≤ c ∧ c ≤ 'f' then some (c.toNat - 'a'.toNat + 10)
  else if 'A' ≤ c ∧ c ≤ 'F' then some (c.toNat - 'A'.toNat + 10)
  else none

/-- The character of an escape of one letter. -/
def escaped? (c : Char) : Option Char :=
  if c = '"' ∨ c = '\\' ∨ c = '/' then some c
  else if c = 'b' then some '\x08'
  else if c = 'f' then some '\x0C'
  else if c = 'n' then some '\n'
  else if c = 'r' then some '\r'
  else if c = 't' then some '\t'
  else none

/-- Where the reading of a text stands.  A character beyond the first plane is written as two
escapes, the first of which is the `high` one. -/
inductive TextState where
  | plain
  | escape
  | digits (missing value : Nat) (high : Option Nat)
  | second (high : Nat)
  | secondEscape (high : Nat)
  deriving DecidableEq, Repr

/-- What a letter of a text leads to. -/
inductive TextStep where
  | close
  | next (state : TextState) (read : List Char)
  deriving DecidableEq, Repr

/-- What the four digits of an escape lead to.  The halves of a pair may not stand alone. -/
def codeStep (value : Nat) : Option Nat → Option TextStep
  | none =>
    if 0xDC00 ≤ value ∧ value ≤ 0xDFFF then none
    else if 0xD800 ≤ value ∧ value ≤ 0xDBFF then some (.next (.second value) [])
    else some (.next .plain [Char.ofNat value])
  | some high =>
    if 0xDC00 ≤ value ∧ value ≤ 0xDFFF then
      some (.next .plain [Char.ofNat (0x10000 + (high - 0xD800) * 0x400 + (value - 0xDC00))])
    else none

/-- One letter of a text. -/
def textStep : TextState → Char → Option TextStep
  | .plain, c =>
    if c = '"' then some .close
    else if c = '\\' then some (.next .escape [])
    else if c.toNat < 0x20 then none
    else some (.next .plain [c])
  | .escape, c =>
    if c = 'u' then some (.next (.digits 3 0 none) [])
    else (escaped? c).map fun d => .next .plain [d]
  | .digits missing value high, c => do
    let value := value * 16 + (← hexValue? c)
    match missing with
    | 0 => codeStep value high
    | missing + 1 => some (.next (.digits missing value high) [])
  | .second high, c => if c = '\\' then some (.next (.secondEscape high) []) else none
  | .secondEscape high, c =>
    if c = 'u' then some (.next (.digits 3 0 (some high)) []) else none

/-- The rest of a text from a state on, and the letters after its closing quote. -/
def readTextFrom (state : TextState) : Letters → Except Fault (List Char × Letters)
  | some c :: r =>
    match textStep state c with
    | none => .error .malformed
    | some .close => .ok ([], r)
    | some (.next state read) =>
      match readTextFrom state r with
      | .ok (more, rest) => .ok (read ++ more, rest)
      | .error fault => .error fault
  | _ => .error .malformed

/-- A text, after its opening quote. -/
def readText (letters : Letters) : Except Fault (String × Letters) :=
  (readTextFrom .plain letters).map fun (cs, rest) => (String.ofList cs, rest)

/-! ## Leaving values out

A value that nobody keeps is only followed to its end.  What is open around a place is kept on a
stack, so nesting has no limit. -/

/-- What is open around a place. -/
inductive Frame where
  | list
  | object
  deriving DecidableEq, Repr

/-- Where the reading of a value that is left out stands. -/
inductive Place where
  /-- A value has to start. -/
  | value
  /-- A value has to start, or the list ends. -/
  | firstElement
  /-- A key has to start. -/
  | key
  /-- A key has to start, or the object ends. -/
  | firstKey
  | colon
  /-- A value has ended. -/
  | after
  | word (rest : List Char)
  | text (ofKey : Bool)
  | escape (ofKey : Bool)
  | hex (missing : Nat) (ofKey : Bool)
  | minus
  | zero
  | whole
  | point
  | decimals
  | exponentMark
  | exponentSign
  | exponent
  deriving DecidableEq, Repr

/-- How a letter goes on with a value that is left out. -/
inductive Advance where
  /-- The value goes on. -/
  | on (place : Place) (frames : List Frame)
  /-- The letter is the last one of the value. -/
  | last
  /-- The value ended before the letter. -/
  | over
  | fault
  deriving DecidableEq, Repr

/-- The place after a value has ended inside of some frames. -/
def ended : List Frame → Advance
  | [] => .last
  | frames => .on .after frames

/-- The letter with which a value starts. -/
def startStep (c : Char) (frames : List Frame) : Advance :=
  if c = '"' then .on (.text false) frames
  else if c = '[' then .on .firstElement (.list :: frames)
  else if c = '\x7b' then .on .firstKey (.object :: frames)
  else if c = 'n' then .on (.word ['u', 'l', 'l']) frames
  else if c = 't' then .on (.word ['r', 'u', 'e']) frames
  else if c = 'f' then .on (.word ['a', 'l', 's', 'e']) frames
  else if c = '-' then .on .minus frames
  else if c = '0' then .on .zero frames
  else if c.isDigit then .on .whole frames
  else .fault

/-- The letter after the end of a value. -/
def afterStep (c : Char) : List Frame → Advance
  | [] => .over
  | .list :: frames =>
    if isGap c then .on .after (.list :: frames)
    else if c = ',' then .on .value (.list :: frames)
    else if c = ']' then ended frames
    else .fault
  | .object :: frames =>
    if isGap c then .on .after (.object :: frames)
    else if c = ',' then .on .key (.object :: frames)
    else if c = '\x7d' then ended frames
    else .fault

/-- The place after a text has ended. -/
def textEnded (ofKey : Bool) (frames : List Frame) : Advance :=
  if ofKey then .on .colon frames else ended frames

/-- One letter of a value that is left out. -/
def advance (frames : List Frame) : Place → Char → Advance
  | .value, c => if isGap c then .on .value frames else startStep c frames
  | .firstElement, c =>
    if isGap c then .on .firstElement frames
    else if c = ']' then ended frames.tail
    else startStep c frames
  | .key, c =>
    if isGap c then .on .key frames else if c = '"' then .on (.text true) frames else .fault
  | .firstKey, c =>
    if isGap c then .on .firstKey frames
    else if c = '\x7d' then ended frames.tail
    else if c = '"' then .on (.text true) frames
    else .fault
  | .colon, c =>
    if isGap c then .on .colon frames else if c = ':' then .on .value frames else .fault
  | .after, c => afterStep c frames
  | .word [], _ => .fault
  | .word [d], c => if c = d then ended frames else .fault
  | .word (d :: rest), c => if c = d then .on (.word rest) frames else .fault
  | .text ofKey, c =>
    if c = '"' then textEnded ofKey frames
    else if c = '\\' then .on (.escape ofKey) frames
    else if c.toNat < 0x20 then .fault
    else .on (.text ofKey) frames
  | .escape ofKey, c =>
    if c = 'u' then .on (.hex 3 ofKey) frames
    else if (escaped? c).isSome then .on (.text ofKey) frames
    else .fault
  | .hex missing ofKey, c =>
    if (hexValue? c).isNone then .fault
    else match missing with
      | 0 => .on (.text ofKey) frames
      | missing + 1 => .on (.hex missing ofKey) frames
  | .minus, c =>
    if c = '0' then .on .zero frames else if c.isDigit then .on .whole frames else .fault
  | .zero, c =>
    if c.isDigit then .fault
    else if c = '.' then .on .point frames
    else if c = 'e' ∨ c = 'E' then .on .exponentMark frames
    else afterStep c frames
  | .whole, c =>
    if c.isDigit then .on .whole frames
    else if c = '.' then .on .point frames
    else if c = 'e' ∨ c = 'E' then .on .exponentMark frames
    else afterStep c frames
  | .point, c => if c.isDigit then .on .decimals frames else .fault
  | .decimals, c =>
    if c.isDigit then .on .decimals frames
    else if c = 'e' ∨ c = 'E' then .on .exponentMark frames
    else afterStep c frames
  | .exponentMark, c =>
    if c.isDigit then .on .exponent frames
    else if c = '+' ∨ c = '-' then .on .exponentSign frames
    else .fault
  | .exponentSign, c => if c.isDigit then .on .exponent frames else .fault
  | .exponent, c => if c.isDigit then .on .exponent frames else afterStep c frames

/-- Whether a value may end where the document ends. -/
def mayEnd (frames : List Frame) : Place → Bool
  | .zero | .whole | .decimals | .exponent => frames.isEmpty
  | _ => false

/-- The letters after a value that is left out. -/
def skipFrom (place : Place) (frames : List Frame) : Letters → Except Fault Letters
  | [] => if mayEnd frames place then .ok [] else .error .malformed
  | none :: r =>
    match place with
    | .text _ => skipFrom place frames r
    | _ => .error .malformed
  | some c :: r =>
    match advance frames place c with
    | .on place frames => skipFrom place frames r
    | .last => .ok r
    | .over => .ok (some c :: r)
    | .fault => .error .malformed

/-- The letters after one value of any kind. -/
def skip (letters : Letters) : Except Fault Letters :=
  skipFrom .value [] letters

end SignedUpgrade.Json
