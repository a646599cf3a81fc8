import SignedUpgrade.Pattern.Basic
import SignedUpgrade.Text.Hex

/-!
# Reading classes and escapes

The parts of a written pattern that stand for sets of characters.

* `Options` — what the options inside a pattern change;
* `readEscape` — an escape: a character, a set, or a condition on a place;
* `readClass` — a class between brackets, with ranges, nested classes and set operations.

Every reader gives nothing where the pattern is malformed.
-/

namespace SignedUpgrade.Pattern

open Text

/-- What the options inside a pattern change. -/
structure Options where
  ignoreCase : Bool := false
  multiLine : Bool := false
  dotAll : Bool := false
  /-- Whether a carriage return ends lines, too. -/
  wideLines : Bool := false
  /-- Whether classes are those of all scripts. -/
  anyScript : Bool := true
  /-- Whether blanks and comments are left out. -/
  verbose : Bool := false
  deriving DecidableEq, Repr

/-- The characters before a line end. -/
def dropComment : List Char → List Char
  | [] => []
  | c :: r => if c = '\n' then r else dropComment r

/-- A pattern from its next part on: in verbose patterns, without blanks and comments. -/
def skipSpace (options : Options) : (fuel : Nat) → List Char → List Char
  | 0, cs => cs
  | fuel + 1, cs =>
    if options.verbose then
      match cs with
      | c :: r =>
        if isBlank c then skipSpace options fuel r
        else if c = '#' then skipSpace options fuel (dropComment r)
        else cs
      | [] => []
    else cs

/-- A pattern from its next part on. -/
def nextPart (options : Options) (cs : List Char) : List Char :=
  skipSpace options cs.length cs

/-! ## Escapes -/

/-- What an escape stands for. -/
inductive Escape where
  | char (c : Char)
  | set (s : CharSet)
  | look (l : Look)
  deriving Repr

/-- The characters that have a meaning of their own somewhere in a pattern. -/
def isMeta (c : Char) : Bool :=
  "\\.+*?()|[]\x7b\x7d^$#&-~".toList.contains c

/-- The characters that stand for themselves after a backslash. -/
def isEscapable (c : Char) : Bool :=
  isMeta c || (c.toNat < 0x80 && !c.isAlphanum && c ≠ '<' && c ≠ '>')

/-- The value of a text of hexadecimal digits. -/
def hexNumber? (cs : List Char) : Option Nat :=
  if cs.isEmpty then none
  else cs.foldlM (fun n c => (Hex.value? c).map (n * 16 + ·)) 0

/-- The character with a code point. -/
def charOf? (n : Nat) : Option Char :=
  if n.isValidChar then some (Char.ofNat n) else none

/-- A character by its code point, with braces or as a number of digits.  Without the classes of all
scripts, the two-digit form stands for a byte, which is a character only in ASCII. -/
def readCode (options : Options) (width : Nat) : List Char → Option (Char × List Char)
  | '\x7b' :: r => do
    let digits := (r.takeWhile (· ≠ '\x7d')).filter fun c => !(options.verbose && isBlank c)
    let c ← (hexNumber? digits).bind charOf?
    match r.dropWhile (· ≠ '\x7d') with
    | _ :: rest => some (c, rest)
    | [] => none
  | cs => do
    if cs.length < width then none
    let c ← (hexNumber? (cs.take width)).bind charOf?
    if width = 2 ∧ !options.anyScript ∧ 0x7F < c.toNat then none
    return (c, cs.drop width)

/-- A set or its complement. -/
def negated (flag : Bool) (set : CharSet) : CharSet :=
  if flag then .complement set else set

/-- A set with all cases of its letters, where case is ignored. -/
def cased (options : Options) (set : CharSet) : CharSet :=
  if options.ignoreCase then .folded set else set

/-- The set of a property in braces: its name, or its name and value. -/
def propertyBody? (body : List Char) : Option CharSet :=
  match body with
  | '^' :: r => (propertyValue? r).map .complement
  | _ => propertyValue? body
where
  /-- The set of a property without a negation before it. -/
  propertyValue? (body : List Char) : Option CharSet :=
    let name := body.takeWhile fun c => c ≠ '=' && c ≠ ':'
    match body.dropWhile fun c => c ≠ '=' && c ≠ ':' with
    | _ :: value =>
      match name.getLast? with
      | some '!' => (CharSet.ofPropertyValue? name.dropLast value).map .complement
      | _ => CharSet.ofPropertyValue? name value
    | [] => CharSet.ofProperty? body

/-- A property after its letter. -/
def readProperty (options : Options) (negate : Bool) : List Char → Option (CharSet × List Char)
  | [] => none
  | '\x7b' :: r => do
    if !options.anyScript then none
    match r.dropWhile (· ≠ '\x7d') with
    | [] => none
    | _ :: rest =>
      let set ← propertyBody? (r.takeWhile (· ≠ '\x7d'))
      return (negated negate (cased options set), rest)
  | c :: r => do
    if !options.anyScript || c = '\\' then none
    let set ← CharSet.ofProperty? [c]
    return (negated negate (cased options set), r)

/-- A class by its letter: a capital letter stands for the complement. -/
def letterClass? (options : Options) (c : Char) : Option CharSet :=
  let set := match c.toLower with
    | 'd' => some (if options.anyScript then CharSet.decimal else .asciiDecimal)
    | 's' => some (if options.anyScript then CharSet.blank else .asciiBlank)
    | 'w' => some (if options.anyScript then CharSet.word else .asciiWord)
    | _ => none
  match set with
  | none => none
  | some set =>
    if c.isUpper then if options.anyScript then some (.complement set) else none else some set

/-- The kind of words that the options select. -/
def Options.words (options : Options) : WordKind :=
  if options.anyScript then .anyScript else .ascii

/-- The conditions on words that have a name in braces. -/
def namedEdges (kind : WordKind) : List (String × Look) :=
  [("start", .wordStart kind), ("end", .wordEnd kind), ("start-half", .noWordBefore kind),
   ("end-half", .noWordAfter kind)]

/-- The condition of a word edge after its letter.  Braces after it hold the name of a narrower
condition, unless what they hold cannot be a name. -/
def readEdge (options : Options) (cs : List Char) : Option (Look × List Char) :=
  let kind := options.words
  match cs with
  | '\x7b' :: r =>
    let r := nextPart options r
    let isName := fun (c : Char) => c.isAlpha || c == '-'
    match r with
    | [] => none
    | c :: _ =>
      if isName c then
        match r.dropWhile isName with
        | '\x7d' :: rest =>
          ((namedEdges kind).lookup (String.ofList (r.takeWhile isName))).map fun l => (l, rest)
        | _ => none
      else some (.wordEdge kind, cs)
  | _ => some (.wordEdge kind, cs)

/-- The characters that have an escape of one letter. -/
def letterChar? (c : Char) : Option Char :=
  match c with
  | 'a' => some '\x07'
  | 'f' => some '\x0C'
  | 't' => some '\t'
  | 'n' => some '\n'
  | 'r' => some '\r'
  | 'v' => some '\x0B'
  | _ => none

/-- What an escape stands for, after its backslash. -/
def readEscape (options : Options) : List Char → Option (Escape × List Char)
  | [] => none
  | c :: r =>
    if c = 'x' then (readCode options 2 r).map fun (c, r) => (.char c, r)
    else if c = 'u' then (readCode options 4 r).map fun (c, r) => (.char c, r)
    else if c = 'U' then (readCode options 8 r).map fun (c, r) => (.char c, r)
    else if c = 'p' ∨ c = 'P' then
      (readProperty options (c = 'P') r).map fun (s, r) => (.set s, r)
    else match letterClass? options c with
      | some set => some (.set set, r)
      | none =>
        if c ∈ ['D', 'S', 'W'] then none
        else if isEscapable c then some (.char c, r)
        else match letterChar? c with
          | some d => some (.char d, r)
          | none =>
            if c = 'A' then some (.look .textStart, r)
            else if c = 'z' then some (.look .textEnd, r)
            else if c = 'b' then (readEdge options r).map fun (l, r) => (.look l, r)
            else if c = 'B' then
              if options.anyScript then some (.look (.noWordEdge .anyScript), r) else none
            else if c = '<' then some (.look (.wordStart options.words), r)
            else if c = '>' then some (.look (.wordEnd options.words), r)
            else none

/-! ## Classes -/

/-- How two sets are joined in a class. -/
inductive SetOperation where
  | inter
  | difference
  | eitherOne
  deriving DecidableEq, Repr

/-- The set that an operation makes of two sets. -/
def SetOperation.apply : SetOperation → CharSet → CharSet → CharSet
  | .inter, a, b => .inter a b
  | .difference, a, b => .difference a b
  | .eitherOne, a, b => .eitherOne a b

/-- A named class of ASCII characters, after its opening bracket. -/
def readAsciiClass (options : Options) : List Char → Option (CharSet × List Char)
  | ':' :: r => do
    let (negate, r) := match r with
      | '^' :: r => (true, r)
      | _ => (false, r)
    match r.dropWhile (· ≠ ':') with
    | ':' :: ']' :: rest =>
      let set ← CharSet.asciiClasses.lookup (String.ofList (r.takeWhile (· ≠ ':')))
      return (negated negate (cased options set), rest)
    | _ => none
  | _ => none

/-- One item of a class: a character or a set. -/
def readClassItem (options : Options) : List Char → Option ((Char ⊕ CharSet) × List Char)
  | [] => none
  | '\\' :: r =>
    match readEscape options r with
    | some (.char c, r) => some (.inl c, r)
    | some (.set s, r) => some (.inr s, r)
    | _ => none
  | c :: r => some (.inl c, r)

/-- Whether a class may hold a character: without the classes of all scripts, only ASCII. -/
def mayHold (options : Options) (c : Char) : Bool :=
  options.anyScript || c.toNat < 0x80

/-- An item of a class, or a range that starts with it. -/
def readClassRange (options : Options) (cs : List Char) : Option (CharSet × List Char) := do
  let (first, r) ← readClassItem options cs
  let r := nextPart options r
  let single : Option (CharSet × List Char) :=
    match first with
    | .inl c => if mayHold options c then some (cased options (.only c), r) else none
    | .inr s => some (s, r)
  match r with
  | [] => none
  | '-' :: after =>
    match nextPart options after with
    | [] => none
    | ']' :: _ => single
    | '-' :: _ => single
    | after =>
      let (last, r) ← readClassItem options after
      match first, last with
      | .inl low, .inl high =>
        if low.toNat ≤ high.toNat && mayHold options low && mayHold options high then
          return (cased options (.range low.toNat high.toNat), r)
        else none
      | _, _ => none
  | _ => single

/-- The hyphens at the start of a class, which stand for themselves. -/
def leadingHyphens (options : Options) : (fuel : Nat) → List Char → Nat × List Char
  | 0, cs => (0, cs)
  | fuel + 1, '-' :: r =>
    let (n, rest) := leadingHyphens options fuel (nextPart options r)
    (n + 1, rest)
  | _ + 1, cs => (0, cs)

/-- The start of a class after its bracket: whether it is negated, and the set of the characters
there that stand for themselves only there. -/
def readClassStart (options : Options) (cs : List Char) : Bool × CharSet × List Char :=
  let cs := nextPart options cs
  let (negate, cs) := match cs with
    | '^' :: r => (true, nextPart options r)
    | _ => (false, cs)
  let (hyphens, cs) := leadingHyphens options cs.length cs
  if hyphens ≠ 0 then (negate, .only '-', cs)
  else match cs with
    | ']' :: r => (negate, .only ']', nextPart options r)
    | _ => (negate, .empty, cs)

/-- The rest of a class: `joined` is what stands before the last set operation, `items` what was
read after it.  The fuel bounds the number of items and nested classes. -/
def readClassBody (options : Options) : (fuel : Nat) → (negate : Bool) →
    (joined : Option (CharSet × SetOperation)) → (items : CharSet) → List Char →
    Option (CharSet × List Char)
  | 0, _, _, _, _ => none
  | fuel + 1, negate, joined, items, cs =>
    let whole := match joined with
      | some (set, operation) => operation.apply set items
      | none => items
    match nextPart options cs with
    | [] => none
    | '[' :: r =>
      match readAsciiClass options r with
      | some (set, r) => readClassBody options fuel negate joined (.union items set) r
      | none =>
        let (inner, start, r) := readClassStart options r
        match readClassBody options fuel inner none start r with
        | none => none
        | some (set, r) => readClassBody options fuel negate joined (.union items set) r
    | ']' :: r => if negate && !options.anyScript then none else some (negated negate whole, r)
    | '&' :: '&' :: r => readClassBody options fuel negate (some (whole, .inter)) .empty r
    | '-' :: '-' :: r => readClassBody options fuel negate (some (whole, .difference)) .empty r
    | '~' :: '~' :: r => readClassBody options fuel negate (some (whole, .eitherOne)) .empty r
    | cs =>
      match readClassRange options cs with
      | none => none
      | some (set, r) => readClassBody options fuel negate joined (.union items set) r

/-- A class after its opening bracket. -/
def readClass (options : Options) (cs : List Char) : Option (CharSet × List Char) :=
  let (negate, start, r) := readClassStart options cs
  readClassBody options (cs.length + 1) negate none start r

end SignedUpgrade.Pattern
