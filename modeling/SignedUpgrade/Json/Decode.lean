import SignedUpgrade.Json.Number

/-!
# Wanted values

A document is read as the value that is wanted of it.  What stands there instead is told by the
first fault.

* `wantText`, `wantInteger`, `wantOptional`, `wantList` — values of the basic types;
* `Shape`, `wantRecord` — records, written as objects or as lists of their fields in order;
* `decode` — a whole document, around which there may be blanks.

An object may hold members with other names than those of the record's fields; their values are left
out.  A repeated field is a fault as soon as its name is met, and a missing one at the end of the
object.
-/

namespace SignedUpgrade.Json

open Text

/-- The fault of a value of another type than the wanted one, which is told by its first letter.
Words, numbers and texts are read first, and may be faulty themselves. -/
def refuse {α : Type} (wanted : String) (letters : Letters) : Except Fault (α × Letters) :=
  match letters with
  | some 'n' :: r => do
    let _ ← readWord ['u', 'l', 'l'] r
    .error (.wrongType .null wanted)
  | some 't' :: r => do
    let _ ← readWord ['r', 'u', 'e'] r
    .error (.wrongType (.boolean true) wanted)
  | some 'f' :: r => do
    let _ ← readWord ['a', 'l', 's', 'e'] r
    .error (.wrongType (.boolean false) wanted)
  | some '"' :: r => do
    let (s, _) ← readText r
    .error (.wrongType (.text s) wanted)
  | some '[' :: _ => .error (.wrongType .sequence wanted)
  | some '\x7b' :: _ => .error (.wrongType .map wanted)
  | some c :: _ =>
    if c == '-' || c.isDigit then do
      let (n, _) ← readNumber letters
      .error (.wrongType n.found wanted)
    else .error .malformed
  | _ => .error .malformed

/-- A text. -/
def wantText (wanted : String) (letters : Letters) : Except Fault (String × Letters) :=
  match skipBlanks letters with
  | some '"' :: r => readText r
  | letters => refuse wanted letters

/-- The text of a field. -/
def wantString (letters : Letters) : Except Fault (String × Letters) :=
  wantText "a string" letters

/-- A whole number of sixty-four bits with sign. -/
def wantInteger (letters : Letters) : Except Fault (Int × Letters) :=
  let letters := skipBlanks letters
  match letters with
  | some c :: _ =>
    if c == '-' || c.isDigit then do
      match ← readNumber letters with
      | (.whole n, rest) =>
        if n < UInt64.size / 2 then .ok (n, rest) else .error (.wrongValue (.integer n) "i64")
      | (n, _) => .error (.wrongType n.found "i64")
    else refuse "i64" letters
  | _ => refuse "i64" letters

/-- A value that may be null. -/
def wantOptional {α : Type} (want : Reader α) (letters : Letters) :
    Except Fault (Option α × Letters) :=
  match skipBlanks letters with
  | some 'n' :: r => do return (none, ← readWord ['u', 'l', 'l'] r)
  | letters => (want letters).map fun (a, rest) => (some a, rest)

/-- The value null. -/
def wantNull (letters : Letters) : Except Fault Letters :=
  match skipBlanks letters with
  | some 'n' :: r => readWord ['u', 'l', 'l'] r
  | letters => (refuse "unit" letters : Except Fault (Unit × Letters)).map (·.2)

/-! ## Lists -/

/-- Whether another element follows in a list; if so, the letters from it on.  The closing bracket
is left in place. -/
def nextElement (first : Bool) (letters : Letters) : Except Fault (Bool × Letters) :=
  match skipBlanks letters with
  | some ']' :: r => .ok (false, some ']' :: r)
  | some ',' :: r =>
    if first then .ok (true, some ',' :: r)
    else match skipBlanks r with
      | some ']' :: _ => .error .malformed
      | [] => .error .malformed
      | r => .ok (true, r)
  | [] => .error .malformed
  | letters => if first then .ok (true, letters) else .error .malformed

/-- The letters after the closing bracket of a list. -/
def endList (letters : Letters) : Except Fault Letters :=
  match skipBlanks letters with
  | some ']' :: r => .ok r
  | _ => .error .malformed

/-- The elements of a list that is open.  The fuel bounds their number, which is less than the
number of letters. -/
def elements {α : Type} (want : Reader α) : (fuel : Nat) → (first : Bool) → Reader (List α)
  | 0, _, _ => .error .malformed
  | fuel + 1, first, letters => do
    let (more, letters) ← nextElement first letters
    if more then
      let (a, letters) ← want letters
      let (as, letters) ← elements want fuel false letters
      return (a :: as, letters)
    else return ([], letters)

/-- A list of values. -/
def wantList {α : Type} (want : Reader α) (letters : Letters) :
    Except Fault (List α × Letters) :=
  match skipBlanks letters with
  | some '[' :: r => do
    let (as, r) ← elements want (r.length + 1) true r
    return (as, ← endList r)
  | letters => refuse "a sequence" letters

/-! ## Records -/

/-- A field of a record that is put together in a value of type `α`. -/
structure Field (α : Type) where
  name : String
  /-- Whether a record may lack the field. -/
  optional : Bool := false
  /-- Whether the field was met before. -/
  isSet : α → Bool
  /-- Reads the field's value into the record. -/
  want : α → Reader α

/-- A kind of record: its name and its fields in order. -/
structure Shape (α : Type) where
  name : String
  fields : List (Field α)
  start : α

namespace Shape

variable {α : Type}

/-- How a record of this kind is called. -/
def wanted (s : Shape α) : String :=
  "struct " ++ s.name

/-- How a record of this kind is called where its fields are counted. -/
def counted (s : Shape α) : String :=
  s.wanted ++ s!" with {s.fields.length} element" ++ (if s.fields.length = 1 then "" else "s")

/-- The first field that a record lacks. -/
def missing? (s : Shape α) (record : α) : Option (Field α) :=
  s.fields.find? fun f => !f.optional && !f.isSet record

/-- The letters from the value of a member on. -/
def afterColon (letters : Letters) : Except Fault Letters :=
  match skipBlanks letters with
  | some ':' :: r => .ok r
  | _ => .error .malformed

/-- Reads the value of the member with the given name into a record. -/
def member (s : Shape α) (record : α) (name : String) (letters : Letters) :
    Except Fault (α × Letters) :=
  match s.fields.find? (·.name = name) with
  | some field =>
    if field.isSet record then .error (.duplicateField name)
    else do field.want record (← afterColon letters)
  | none => do return (record, ← skip (← afterColon letters))

/-- Whether another member follows in an object; if so, the letters from its name on. -/
def nextMember (first : Bool) (letters : Letters) : Except Fault (Bool × Letters) :=
  match skipBlanks letters with
  | some '\x7d' :: r => .ok (false, some '\x7d' :: r)
  | some ',' :: r =>
    if first then .error .malformed
    else match skipBlanks r with
      | some '"' :: r => .ok (true, r)
      | _ => .error .malformed
  | some '"' :: r => if first then .ok (true, r) else .error .malformed
  | _ => .error .malformed

/-- The members of an object that is open.  The fuel bounds their number, which is less than the
number of letters. -/
def members (s : Shape α) : (fuel : Nat) → (first : Bool) → α → Reader α
  | 0, _, _, _ => .error .malformed
  | fuel + 1, first, record, letters => do
    let (more, letters) ← nextMember first letters
    if more then
      let (name, letters) ← readText letters
      let (record, letters) ← s.member record name letters
      members s fuel false record letters
    else match s.missing? record with
      | some field => .error (.missingField field.name)
      | none => return (record, letters)

/-- The letters after the closing brace of an object. -/
def endObject (letters : Letters) : Except Fault Letters :=
  match skipBlanks letters with
  | some '\x7d' :: r => .ok r
  | _ => .error .malformed

/-- The fields of a record that is written as a list, which is open. -/
def inOrder (s : Shape α) (count : Nat) : List (Field α) → α → Reader α
  | [], record, letters => .ok (record, letters)
  | field :: fields, record, letters => do
    let (more, letters) ← nextElement (count = 0) letters
    if more then
      let (record, letters) ← field.want record letters
      inOrder s (count + 1) fields record letters
    else if field.optional then inOrder s count fields record letters
    else .error (.wrongLength count s.counted)

end Shape

/-- A record. -/
def wantRecord {α : Type} (s : Shape α) (letters : Letters) : Except Fault (α × Letters) :=
  match skipBlanks letters with
  | some '[' :: r => do
    let (record, r) ← s.inOrder 0 s.fields s.start r
    return (record, ← endList r)
  | some '\x7b' :: r => do
    let (record, r) ← s.members (r.length + 1) true s.start r
    return (record, ← Shape.endObject r)
  | letters => refuse s.wanted letters

/-! ## Names -/

/-- A name out of a list, which stands for a value. -/
def wantName {α : Type} (names : List (String × α)) (letters : Letters) :
    Except Fault (α × Letters) := do
  let (name, rest) ← wantText "variant identifier" letters
  match names.lookup name with
  | some a => return (a, rest)
  | none => .error (.unknownName name (names.map (·.1)))

/-- A value that is written by its name, alone or as the only member of an object with the value
null. -/
def wantVariant {α : Type} (names : List (String × α)) (letters : Letters) :
    Except Fault (α × Letters) :=
  match skipBlanks letters with
  | some '"' :: r => wantName names (some '"' :: r)
  | some '\x7b' :: r => do
    let (a, r) ← wantName names r
    let r ← Shape.afterColon r
    let r ← wantNull r
    return (a, ← Shape.endObject r)
  | _ => .error .malformed

/-! ## Documents -/

/-- Reads a whole document. -/
def decode {α : Type} (want : Reader α) (letters : Letters) : Except Fault α := do
  let (a, rest) ← want letters
  if (skipBlanks rest).isEmpty then return a else .error .malformed

end SignedUpgrade.Json
