import SignedUpgrade.Pattern.Class

/-!
# Reading patterns

A written pattern is read from left to right into the form that it stands for.

* `Pattern` — a pattern as it was written, with its form;
* `Pattern.read?` — the pattern that a text writes, if it is well formed;
* `Pattern.selects` — whether a pattern matches somewhere in a text;
* `Pattern.Compiler` — any way to read patterns, of which `Pattern.read?` is one.

Patterns have no references back and no conditions on what stands further away; a text that asks for
them is not well formed.  Other compilers know more names of scripts and properties than this one,
and bound the room that a form takes in their own ways, and so the settings are loaded by whatever
compiler there is.
-/

namespace SignedUpgrade

namespace Pattern

open Text

/-! ## Repetitions -/

/-- A number in the braces of a repetition, which may have blanks around it. -/
def readBound (options : Options) (cs : List Char) : Option (Option Nat × List Char) :=
  let cs := trimStart cs
  let isPart := fun (c : Char) => c.isDigit || (options.verbose && isBlank c)
  let digits := (cs.takeWhile isPart).filter Char.isDigit
  let rest := trimStart (cs.dropWhile isPart)
  match asciiValue? digits with
  | none => some (none, rest)
  | some n => if n < UInt32.size then some (some n, rest) else none

/-- The bounds of a repetition, after the opening brace. -/
def readBounds (options : Options) (cs : List Char) :
    Option ((Nat × Option Nat) × List Char) := do
  let (least, r) ← readBound options (nextPart options cs)
  let least ← least
  match r with
  | '\x7d' :: r => return ((least, some least), r)
  | ',' :: r =>
    match nextPart options r with
    | '\x7d' :: r => return ((least, none), r)
    | r =>
      let (most, r) ← readBound options r
      let most ← most
      match r with
      | '\x7d' :: r => if least ≤ most then return ((least, some most), r) else none
      | _ => none
  | _ => none

/-- A repetition as reluctant as it may be asks for the same stretches. -/
def dropReluctance : List Char → List Char
  | '?' :: r => r
  | cs => cs

/-! ## Groups -/

/-- The letters of options, with the option that each of them sets. -/
def setOption? (c : Char) (value : Bool) (options : Options) : Option Options :=
  match c with
  | 'i' => some { options with ignoreCase := value }
  | 'm' => some { options with multiLine := value }
  | 's' => some { options with dotAll := value }
  | 'U' => some options
  | 'u' => some { options with anyScript := value }
  | 'R' => some { options with wideLines := value }
  | 'x' => some { options with verbose := value }
  | _ => none

/-- The options of a group, up to the character that ends them; `seen` are the letters so far. -/
def readOptions (options : Options) (value : Bool) (seen : List Char) :
    List Char → Option (Options × List Char × List Char)
  | [] => none
  | c :: r =>
    if c = ':' ∨ c = ')' then
      if seen.head? = some '-' then none else some (options, seen, c :: r)
    else if seen.contains c then none
    else if c = '-' then readOptions options false (c :: seen) r
    else match setOption? c value options with
      | some options => readOptions options value (c :: seen) r
      | none => none

/-- Whether a name of a group may start with a character. -/
def startsName (c : Char) : Bool :=
  c == '_' || isLetter c || category c == .letterNumber

/-- Whether a name of a group may go on with a character. -/
def continuesName (c : Char) : Bool :=
  startsName c || c == '.' || c == '[' || c == ']' || isDecimal c || category c == .otherNumber

/-- The name of a group, after its opening angle bracket. -/
def readName (cs : List Char) : Option (String × List Char) :=
  let name := cs.takeWhile (· ≠ '>')
  match name, cs.dropWhile (· ≠ '>') with
  | first :: more, _ :: rest =>
    if startsName first && more.all continuesName then some (String.ofList name, rest) else none
  | _, _ => none

/-- What stands at the start of a group. -/
inductive GroupStart where
  /-- A group whose contents follow. -/
  | group (options : Options) (name : Option String)
  /-- Options for the rest of the group around it. -/
  | options (options : Options)

/-- The start of a group, after its parenthesis. -/
def readGroupStart (options : Options) (cs : List Char) : Option (GroupStart × List Char) :=
  match nextPart options cs with
  | '?' :: 'P' :: '<' :: r => (readName r).map fun (name, r) => (.group options (some name), r)
  | '?' :: '<' :: r =>
    match r with
    | '=' :: _ | '!' :: _ => none
    | _ => (readName r).map fun (name, r) => (.group options (some name), r)
  | '?' :: r =>
    match readOptions options true [] r with
    | some (changed, _, ':' :: r) => some (.group changed none, r)
    | some (changed, seen, _ :: r) => if seen.isEmpty then none else some (.options changed, r)
    | _ => none
  | cs => some (.group options none, cs)

/-! ## Forms -/

/-- The items of a row.  Options take a place in it which nothing can repeat. -/
abbrev Row := List (Option Form)

/-- The form of a row, which is given in reverse. -/
def rowForm (row : Row) : Form :=
  match row.filterMap id with
  | [] => .nothing
  | last :: before => before.foldl (fun form item => .andThen item form) last

/-- A row with its last item repeated. -/
def repeatLast (row : Row) (least : Nat) (most : Option Nat) : Option Row :=
  match row with
  | some item :: before => some (some (.times item least most) :: before)
  | _ => none

/-- A form with one more choice. -/
def orForm (choices : Option Form) (form : Form) : Form :=
  match choices with
  | some choices => .orElse choices form
  | none => form

/-- The form of a character that stands for itself. -/
def charForm (options : Options) (c : Char) : Form :=
  .one (cased options (.only c))

/-- The form of a point. -/
def pointForm? (options : Options) : Option Form :=
  if !options.anyScript then none
  else if options.dotAll then some (.one .all)
  else if options.wideLines then
    some (.one (.complement (.union (.only '\n') (.only '\r'))))
  else some (.one (.complement (.only '\n')))

/-- The form of a start sign. -/
def startForm (options : Options) : Form :=
  .look (if options.multiLine then (if options.wideLines then .lineStartWide else .lineStart)
    else .textStart)

/-- The form of an end sign. -/
def endForm (options : Options) : Form :=
  .look (if options.multiLine then (if options.wideLines then .lineEndWide else .lineEnd)
    else .textEnd)

/-- The form of an escape. -/
def escapeForm (options : Options) : Escape → Form
  | .char c => charForm options c
  | .set s => .one s
  | .look l => .look l

/-- Reads the inside of a group, or the whole pattern if nothing is open around it.  `names` are the
names of the groups so far, `choices` is what stands before the last bar, and `row` what stands
after it.  The fuel bounds the number of items and nested groups. -/
def readForm : (fuel : Nat) → (inside : Bool) → (options : Options) → (names : List String) →
    (choices : Option Form) → (row : Row) → List Char → Option (Form × List String × List Char)
  | 0, _, _, _, _, _, _ => none
  | fuel + 1, inside, options, names, choices, row, cs =>
    let go := fun row cs => readForm fuel inside options names choices row cs
    let whole := orForm choices (rowForm row)
    match nextPart options cs with
    | [] => if inside then none else some (whole, names, [])
    | ')' :: r => if inside then some (whole, names, r) else none
    | '|' :: r => readForm fuel inside options names (some whole) [] r
    | '(' :: r =>
      match readGroupStart options r with
      | none => none
      | some (.options changed, r) =>
        readForm fuel inside changed names choices (none :: row) r
      | some (.group inner name, r) =>
        if name.any names.contains then none
        else match readForm fuel true inner (name.toList ++ names) none [] r with
          | none => none
          | some (form, names, r) =>
            readForm fuel inside options names choices (some form :: row) r
    | '[' :: r => (readClass options r).bind fun (set, r) => go (some (.one set) :: row) r
    | '*' :: r => (repeatLast row 0 none).bind fun row => go row (dropReluctance r)
    | '+' :: r => (repeatLast row 1 none).bind fun row => go row (dropReluctance r)
    | '?' :: r => (repeatLast row 0 (some 1)).bind fun row => go row (dropReluctance r)
    | '\x7b' :: r =>
      match readBounds options r with
      | none => none
      | some ((least, most), r) =>
        (repeatLast row least most).bind fun row => go row (dropReluctance r)
    | '\\' :: r =>
      (readEscape options r).bind fun (escape, r) => go (some (escapeForm options escape) :: row) r
    | '.' :: r => (pointForm? options).bind fun form => go (some form :: row) r
    | '^' :: r => go (some (startForm options) :: row) r
    | '$' :: r => go (some (endForm options) :: row) r
    | c :: r => go (some (charForm options c) :: row) r

/-- The form that a text writes, unless it takes too much room. -/
def formOf? (text : List Char) : Option Form :=
  ((readForm (text.length + 1) false {} [] none [] text).map (·.1)).filter fun form =>
    form.size ≤ Form.largestSize

end Pattern

/-- A pattern as it was written, and the form that it stands for. -/
structure Pattern where
  text : String
  form : Pattern.Form
  deriving DecidableEq, Repr, Inhabited

namespace Pattern

/-- A way to read patterns: the pattern that a text writes, or the reason why it writes none. -/
abbrev Compiler := String → Except String Pattern

/-- The pattern that a text writes. -/
def read? (text : String) : Option Pattern :=
  (formOf? text.toList).map fun form => { text, form }

/-- Whether a pattern matches somewhere in a text. -/
def selects (p : Pattern) (text : String) : Bool :=
  p.form.isIn text.toList

end Pattern

end SignedUpgrade
