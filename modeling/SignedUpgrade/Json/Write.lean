import SignedUpgrade.Text.Hex

/-!
# Writing documents

Texts are written with as few escapes as are needed, and records without blanks, their fields in
order.
-/

namespace SignedUpgrade.Json

open Text

/-- The letters that stand for a character of a text. -/
def escapeChar (c : Char) : List Char :=
  if c = '"' then ['\\', '"']
  else if c = '\\' then ['\\', '\\']
  else if c = '\n' then ['\\', 'n']
  else if c = '\r' then ['\\', 'r']
  else if c = '\t' then ['\\', 't']
  else if c = '\x08' then ['\\', 'b']
  else if c = '\x0C' then ['\\', 'f']
  else if c.toNat < 0x20 then
    ['\\', 'u', '0', '0', Hex.digit (c.toNat / 16), Hex.digit (c.toNat % 16)]
  else [c]

/-- A text between quotes. -/
def quotedChars (cs : List Char) : List Char :=
  '"' :: cs.flatMap escapeChar ++ ['"']

/-- A string between quotes. -/
def quoted (s : String) : String :=
  String.ofList (quotedChars s.toList)

/-- An object with the given members, whose values are written already. -/
def object (members : List (String × String)) : String :=
  "\x7b" ++ ",".intercalate (members.map fun (name, value) => quoted name ++ ":" ++ value) ++ "\x7d"

/-- A list of elements that are written already. -/
def list (elements : List String) : String :=
  "[" ++ ",".intercalate elements ++ "]"

end SignedUpgrade.Json
