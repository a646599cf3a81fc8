import SignedUpgrade.Text.Category
import SignedUpgrade.Text.Shortest

/-!
# What is wrong with a document

A document is read as the value that is wanted, from left to right, and the first fault ends the
reading.

* `Json.Fault` — what is wrong: the document itself, or a value that does not fit;
* `Json.Fault.message?` — the usual words for a fault.

Faults of the document itself are not told apart, and have no words of their own here.
-/

namespace SignedUpgrade.Json

open Text

/-- A value that was met where another one was wanted. -/
inductive Found where
  | null
  | boolean (b : Bool)
  | integer (n : Int)
  | float (shown : String)
  | text (s : String)
  | sequence
  | map
  deriving DecidableEq, Repr

/-- A character as it is shown between double quotes. -/
def shownChar (c : Char) : List Char :=
  if c = '"' then ['\\', '"']
  else if c = '\\' then ['\\', '\\']
  else if c = '\n' then ['\\', 'n']
  else if c = '\r' then ['\\', 'r']
  else if c = '\t' then ['\\', 't']
  else if c = '\x00' then ['\\', '0']
  else if isPrintable c then [c]
  else ['\\', 'u', '\x7b'] ++ Nat.toDigits 16 c.toNat ++ ['\x7d']

/-- A text as it is shown, between double quotes. -/
def shownText (s : String) : String :=
  String.ofList ('"' :: s.toList.flatMap shownChar ++ ['"'])

/-- How a value that was met is shown. -/
def Found.shown : Found → String
  | .null => "null"
  | .boolean b => "boolean \x60" ++ (if b then "true" else "false") ++ "\x60"
  | .integer n => "integer \x60" ++ toString n ++ "\x60"
  | .float shown => "floating point \x60" ++ shown ++ "\x60"
  | .text s => "string " ++ shownText s
  | .sequence => "sequence"
  | .map => "map"

/-- The first fault of a document. -/
inductive Fault where
  /-- The document is not well formed. -/
  | malformed
  /-- A text is no point in time. -/
  | noTimestamp
  /-- A value has another type than the wanted one. -/
  | wrongType (found : Found) (wanted : String)
  /-- A value has the wanted type but is out of its range. -/
  | wrongValue (found : Found) (wanted : String)
  /-- A record written as a list has too few elements. -/
  | wrongLength (length : Nat) (wanted : String)
  /-- A record lacks a field. -/
  | missingField (name : String)
  /-- A record has a field twice. -/
  | duplicateField (name : String)
  /-- A name is not one of the names that are allowed. -/
  | unknownName (name : String) (allowed : List String)
  deriving DecidableEq, Repr

/-- A name between grave accents. -/
def accented (name : String) : String :=
  "\x60" ++ name ++ "\x60"

/-- The usual words for a fault, if it is told apart from others. -/
def Fault.message? : Fault → Option String
  | .malformed | .noTimestamp => none
  | .wrongType found wanted => "invalid type: " ++ found.shown ++ ", expected " ++ wanted
  | .wrongValue found wanted => "invalid value: " ++ found.shown ++ ", expected " ++ wanted
  | .wrongLength length wanted => s!"invalid length {length}, expected " ++ wanted
  | .missingField name => "missing field " ++ accented name
  | .duplicateField name => "duplicate field " ++ accented name
  | .unknownName name allowed =>
    "unknown variant " ++ accented name ++ ", expected one of "
      ++ ", ".intercalate (allowed.map accented)

end SignedUpgrade.Json
