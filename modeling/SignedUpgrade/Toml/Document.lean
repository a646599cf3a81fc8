import SignedUpgrade.Toml.Scalar

/-!
# Configuration files

A configuration file is read as a whole: one fault anywhere in it makes all of it unreadable.

* `Node`, `Members` — the tables of a document as they are put together;
* `Members.addHeader?`, `Members.addArrayHeader?`, `Members.addKey?` — the three ways in which a line
  adds to them;
* `Toml.read?` — the values at the top level of a document.

A table may be opened by a header only once.  One that exists only because a longer header goes
through it may still be opened; one that was made by a dotted key may only be added to by dotted
keys of the same table.
-/

namespace SignedUpgrade.Toml

open Text

/-- How a table came to be. -/
inductive Origin where
  /-- It has a header of its own. -/
  | header
  /-- A longer header goes through it. -/
  | implied
  /-- A dotted key goes through it. -/
  | dotted
  deriving DecidableEq, Repr

/-- What stands under a key. -/
inductive Node where
  | value (v : Value)
  | table (origin : Origin) (members : List (String × Node))
  /-- An array of tables, of which only the last one can be added to. -/
  | tables (last : List (String × Node))
  deriving Repr

/-- The members of a table. -/
abbrev Members := List (String × Node)

/-- The value that a node amounts to. -/
def Node.toValue : Node → Value
  | .value v => v
  | .table .. => .table
  | .tables _ => .array

namespace Members

/-- The members with another node under a key that is there, or with a new one. -/
def put (ms : Members) (key : String) (node : Node) : Members :=
  if (ms.lookup key).isSome then ms.map fun m => if m.1 = key then (key, node) else m
  else ms ++ [(key, node)]

/-- Changes the members of the table at the end of a path, which is made on the way where it is
missing. -/
def changeAt (dotted : Bool) (change : Origin → Members → Option Members) :
    List String → Origin → Members → Option Members
  | [], origin, ms => change origin ms
  | key :: path, _, ms =>
    match ms.lookup key with
    | none =>
      let origin := if dotted then .dotted else .implied
      (changeAt dotted change path origin []).map fun inner => ms.put key (.table origin inner)
    | some (.value _) => none
    | some (.tables last) =>
      (changeAt dotted change path .header last).map fun inner => ms.put key (.tables inner)
    | some (.table origin inner) =>
      if dotted ∧ origin = .header then none
      else (changeAt dotted change path origin inner).map fun inner =>
        ms.put key (.table origin inner)

/-- Opens a table by its header. -/
def addHeader? (ms : Members) (path : List String) (key : String) : Option Members :=
  changeAt false (fun _ inner =>
    match inner.lookup key with
    | none => some (inner.put key (.table .header []))
    | some (.table .implied there) => some (inner.put key (.table .header there))
    | some _ => none) path .header ms

/-- Adds a table to an array of tables. -/
def addArrayHeader? (ms : Members) (path : List String) (key : String) : Option Members :=
  changeAt false (fun _ inner =>
    match inner.lookup key with
    | none | some (.tables _) => some (inner.put key (.tables []))
    | some _ => none) path .header ms

/-- Adds a value under a key that may be dotted. -/
def addDotted? (path : List String) (key : String) (v : Value) (origin : Origin) (ms : Members) :
    Option Members :=
  changeAt true (fun found inner =>
    if !path.isEmpty && found != .dotted then none
    else match inner.lookup key with
      | none => some (inner.put key (.value v))
      | some _ => none) path origin ms

/-- Adds a value to the table that was opened last. -/
def addKey? (ms : Members) (opened path : List String) (key : String) (v : Value) :
    Option Members :=
  changeAt false (addDotted? path key v) opened .header ms

end Members

/-! ## Keys -/

/-- Whether a character may stand in a key without quotes. -/
def isBare (c : Char) : Bool :=
  c.isAlphanum || c == '_' || c == '-'

/-- One part of a key. -/
def readKeyPart (cs : List Char) : Option (String × List Char) :=
  match cs with
  | '"' :: r => (readLine '"' (cs.length + 1) r).map fun (key, r) => (String.ofList key, r)
  | '\'' :: r => (readLine '\'' (cs.length + 1) r).map fun (key, r) => (String.ofList key, r)
  | _ =>
    let key := cs.takeWhile isBare
    if key.isEmpty then none else some (String.ofList key, cs.dropWhile isBare)

/-- A key: its parts, of which the last one is given apart, and what follows. -/
def readKey : (fuel : Nat) → List Char → Option ((List String × String) × List Char)
  | 0, _ => none
  | fuel + 1, cs => do
    let (part, r) ← readKeyPart (cs.dropWhile isGap)
    match r.dropWhile isGap with
    | '.' :: r =>
      let ((path, key), r) ← readKey fuel r
      return ((part :: path, key), r)
    | r => return (([], part), r)

/-! ## Values -/

/-- The document after a comment, if one stands here. -/
def afterComment? (cs : List Char) : Option (List Char) :=
  match cs with
  | '#' :: r =>
    let rest := r.dropWhile isAllowed
    match rest with
    | [] => some []
    | '\n' :: _ => some rest
    | '\r' :: '\n' :: _ => some rest
    | _ => none
  | _ => some cs

/-- The document from its next value on: blanks, line ends and comments are left out. -/
def nextInArray : (fuel : Nat) → List Char → Option (List Char)
  | 0, _ => none
  | fuel + 1, cs =>
    match skipLines cs with
    | '#' :: r => (afterComment? ('#' :: r)).bind (nextInArray fuel)
    | r => some r

/-- How deep values may be nested. -/
def deepest : Nat := 80

mutual

/-- A value, and what follows it.  The fuel bounds the number of values. -/
def readValue : (fuel depth : Nat) → List Char → Option (Value × List Char)
  | 0, _, _ => none
  | fuel + 1, depth, cs =>
    match cs with
    | '"' :: _ | '\'' :: _ => (readText cs).map fun (s, r) => (.text s, r)
    | '[' :: r =>
      if depth < deepest then (readElements fuel (depth + 1) r).map fun r => (.array, r) else none
    | '\x7b' :: r =>
      if depth < deepest then
        match r.dropWhile isGap with
        | '\x7d' :: r => some (.table, r)
        | r => (readMembers fuel (depth + 1) [] r).map fun r => (.table, r)
      else none
    | _ =>
      let (word, r) := readPlain cs
      (plainValue? word).map fun v => (v, r)

/-- What follows the elements of an array. -/
def readElements : (fuel depth : Nat) → List Char → Option (List Char)
  | 0, _, _ => none
  | fuel + 1, depth, cs =>
    match nextInArray (cs.length + 1) cs with
    | none => none
    | some (']' :: r) => some r
    | some r =>
      match readValue fuel depth r with
      | none => none
      | some (_, r) =>
        match nextInArray (r.length + 1) r with
        | some (',' :: r) => readElements fuel depth r
        | some (']' :: r) => some r
        | _ => none

/-- What follows the members of a table within a line. -/
def readMembers : (fuel depth : Nat) → Members → List Char → Option (List Char)
  | 0, _, _, _ => none
  | fuel + 1, depth, ms, cs =>
    match readKey (cs.length + 1) cs with
    | some ((path, key), '=' :: r) =>
      match readValue fuel depth (r.dropWhile isGap) with
      | none => none
      | some (v, r) =>
        match Members.addDotted? path key v .header ms with
        | none => none
        | some ms =>
          match r.dropWhile isGap with
          | ',' :: r => readMembers fuel depth ms r
          | '\x7d' :: r => some r
          | _ => none
    | _ => none

end

/-! ## Documents -/

/-- The document from the next line on, if nothing but a comment stands in the rest of this one. -/
def nextLine? (cs : List Char) : Option (List Char) := do
  match ← afterComment? (cs.dropWhile isGap) with
  | [] => some []
  | r => afterLineEnd? r

/-- A document as far as it is read: its members, and the path of the table opened last. -/
structure State where
  members : Members := []
  opened : List String := []

/-- Reads one line, and more of them where a value goes on over them. -/
def readExpression (state : State) (cs : List Char) : Option (State × List Char) :=
  match cs.dropWhile isGap with
  | '[' :: '[' :: r => do
    let ((path, key), r) ← readKey (r.length + 1) r
    match r with
    | ']' :: ']' :: r =>
      return (⟨← state.members.addArrayHeader? path key, path ++ [key]⟩, ← nextLine? r)
    | _ => none
  | '[' :: r => do
    let ((path, key), r) ← readKey (r.length + 1) r
    match r with
    | ']' :: r => return (⟨← state.members.addHeader? path key, path ++ [key]⟩, ← nextLine? r)
    | _ => none
  | r =>
    match nextLine? r with
    | some r => some (state, r)
    | none => do
      let ((path, key), r) ← readKey (r.length + 1) r
      match r with
      | '=' :: r =>
        let (v, r) ← readValue (r.length + 1) 0 (r.dropWhile isGap)
        let members ← state.members.addKey? state.opened path key v
        return ({ state with members }, ← nextLine? r)
      | _ => none

/-- Reads all lines.  The fuel bounds their number. -/
def readLines : (fuel : Nat) → State → List Char → Option State
  | _, state, [] => some state
  | 0, _, _ :: _ => none
  | fuel + 1, state, cs => (readExpression state cs).bind fun (state, r) => readLines fuel state r

/-- A way to read documents: the values at the top level by their keys, or the reason why a text is
no document. -/
abbrev Reader := String → Except String (List (String × Value))

/-- The values at the top level of a document, by their keys. -/
def read? (text : String) : Option (List (String × Value)) :=
  let cs := match text.toList with
    | '\uFEFF' :: r => r
    | cs => cs
  (readLines (cs.length + 1) {} cs).map fun state =>
    state.members.map fun (key, node) => (key, node.toValue)

end SignedUpgrade.Toml
