import SignedUpgrade.Text.Digit

/-!
# Reading scripts

The programs of a rehearsal are short scripts of the shell, which end in some way, print something,
and repeat this.

* `Piece`, `Word` — a word: texts, quoted or not, and values that are put in;
* `Command` — a command and those it is made of;
* `Token.ofChars` — the words and marks of a script;
* `Command.read?` — the command that a script is.

What a rehearsal has no use for is no script here: pipes, patterns for files, documents within a
script, functions and files that are written.
-/

namespace SignedUpgrade.Rehearsal.Script

/-! ## Commands -/

/-- One piece of a word. -/
inductive Piece where
  /-- A text as it stands. -/
  | text (cs : List Char) (quoted : Bool)
  /-- The value of a parameter. -/
  | parameter (name : String) (quoted : Bool)
  /-- The value of a sum. -/
  | sum (cs : List Char)
  deriving DecidableEq, Repr

/-- A word.  One that is empty holds an empty quoted text. -/
abbrev Word := List Piece

/-- A redirection: a channel leads where another one leads, or nowhere. -/
structure Move where
  channel : Nat
  target : Option Nat
  deriving DecidableEq, Repr

/-- A command. -/
inductive Command where
  | nothing
  | simple (assignments : List (String × Word)) (words : List Word) (moves : List Move)
  | sequence (first second : Command)
  /-- The second one is carried out after success of the first one. -/
  | both (first second : Command)
  /-- The second one is carried out after failure of the first one. -/
  | either (first second : Command)
  | negated (c : Command)
  | branch (condition yes no : Command)
  /-- The body is repeated as long as the condition has the given outcome. -/
  | repeated (outcome : Bool) (condition body : Command)
  /-- The body is carried out for each of some words. -/
  | each (name : String) (words : List Word) (body : Command)
  deriving Repr

/-- Characters that start a name. -/
def startsName (c : Char) : Bool :=
  c.isAlpha || c = '_'

/-- Characters of a name. -/
def inName (c : Char) : Bool :=
  c.isAlphanum || c = '_'

/-- Parameters whose names are one character. -/
def isSpecial (c : Char) : Bool :=
  c.isDigit || ['@', '*', '#', '?', '$'].contains c

/-! ## Words -/

/-- What stands before a text in another one, and what stands behind it. -/
def cutAt (stop : List Char) : List Char → Option (List Char × List Char)
  | [] => none
  | c :: cs =>
    if stop.isPrefixOf (c :: cs) then some ([], (c :: cs).drop stop.length)
    else (cutAt stop cs).map fun (before, rest) => (c :: before, rest)

/-- The piece behind a dollar sign, and what is left. -/
def readValue (quoted : Bool) (cs : List Char) : Option (Piece × List Char) :=
  match cs with
  | '(' :: '(' :: cs => (cutAt [')', ')'] cs).map fun (inner, rest) => (.sum inner, rest)
  | '\x7b' :: cs =>
    (cutAt ['\x7d'] cs).map fun (name, rest) => (.parameter (String.ofList name) quoted, rest)
  | _ =>
    let name := if (cs.head?).any isSpecial then cs.take 1
      else if (cs.head?).any startsName then cs.takeWhile inName
      else []
    if name.isEmpty then some (.text ['$'] quoted, cs)
    else some (.parameter (String.ofList name) quoted, cs.drop name.length)

/-- The pieces up to the double quote that ends them, and what is left.  The fuel bounds the number
of characters. -/
def readQuoted : (fuel : Nat) → List Char → Option (Word × List Char)
  | 0, _ | _, [] => none
  | _ + 1, '"' :: cs => some ([], cs)
  | fuel + 1, '$' :: cs => do
    let (piece, cs) ← readValue true cs
    let (pieces, cs) ← readQuoted fuel cs
    return (piece :: pieces, cs)
  | fuel + 1, c :: cs => do
    let (own, cs) := match c, cs with
      | '\\', '\n' :: cs => ([], cs)
      | '\\', d :: cs => (if ['$', '\x60', '"', '\\'].contains d then [d] else ['\\', d], cs)
      | _, _ => ([c], cs)
    let (pieces, cs) ← readQuoted fuel cs
    return (.text own true :: pieces, cs)

/-- The pieces that start with a character, and what is left. -/
def readPieces (c : Char) (cs : List Char) : Option (Word × List Char) :=
  match c, cs with
  | '\\', '\n' :: cs => some ([], cs)
  | '\\', d :: cs => some ([.text [d] true], cs)
  | '\'', cs => (cutAt ['\''] cs).map fun (inner, rest) => ([.text inner true], rest)
  | '"', cs => (readQuoted (cs.length + 1) cs).map fun (pieces, rest) =>
    (if pieces.isEmpty then [.text [] true] else pieces, rest)
  | '$', cs => (readValue false cs).map fun (piece, rest) => ([piece], rest)
  | c, cs => some ([.text [c] false], cs)

/-- Characters that stand between words. -/
def endsWord (c : Char) : Bool :=
  [' ', '\t', '\n', ';', '&', '|', '<', '>', '(', ')'].contains c

/-- The word at the start of a text, and what is left. -/
def readWord : (fuel : Nat) → List Char → Option (Word × List Char)
  | 0, _ => none
  | _ + 1, [] => some ([], [])
  | fuel + 1, c :: cs =>
    if endsWord c then some ([], c :: cs)
    else do
      let (own, cs) ← readPieces c cs
      let (pieces, cs) ← readWord fuel cs
      return (own ++ pieces, cs)

/-- The unquoted text at the start of a word, and the pieces behind it. -/
def bareStart : Word → List Char × Word
  | .text cs false :: pieces =>
    let (more, rest) := bareStart pieces
    (cs ++ more, rest)
  | pieces => ([], pieces)

/-- The text of a word of which nothing is quoted and nothing is a value. -/
def bareText? (word : Word) : Option String :=
  match bareStart word with
  | (cs, []) => some (String.ofList cs)
  | _ => none

/-- The name and the value of a word that is an assignment. -/
def assignment? (word : Word) : Option (String × Word) :=
  let (cs, rest) := bareStart word
  let name := cs.takeWhile inName
  match cs.drop name.length with
  | '=' :: value =>
    if (name.head?).any startsName then some (String.ofList name, .text value false :: rest)
    else none
  | _ => none

/-! ## Tokens -/

/-- A word of a script, or what stands between words. -/
inductive Token where
  | word (w : Word)
  | move (m : Move)
  /-- The end of a command, or what joins two of them. -/
  | mark (text : String)
  deriving DecidableEq, Repr

namespace Token

/-- The text of a token that is a word without quotes and values. -/
def bare? : Token → Option String
  | word w => bareText? w
  | _ => none

/-- The redirection of a channel, and what is left. -/
def readMove (channel : Nat) (cs : List Char) : Option (Token × List Char) :=
  match cs with
  | '&' :: d :: rest =>
    if d.isDigit then some (move ⟨channel, some (Text.digitValue d)⟩, rest) else none
  | _ => do
    let (target, rest) ← readWord (cs.length + 1) (cs.dropWhile (· = ' '))
    if bareText? target = some "/dev/null" then return (move ⟨channel, none⟩, rest) else none

/-- The words and marks of a script.  The fuel bounds the number of characters. -/
def ofChars : (fuel : Nat) → List Char → Option (List Token)
  | 0, _ => none
  | _ + 1, [] => some []
  | fuel + 1, ' ' :: cs | fuel + 1, '\t' :: cs => ofChars fuel cs
  | fuel + 1, '#' :: cs => ofChars fuel (cs.dropWhile (· ≠ '\n'))
  | fuel + 1, '\n' :: cs | fuel + 1, ';' :: cs => (ofChars fuel cs).map (mark ";" :: ·)
  | fuel + 1, '&' :: '&' :: cs => (ofChars fuel cs).map (mark "&&" :: ·)
  | fuel + 1, '|' :: '|' :: cs => (ofChars fuel cs).map (mark "||" :: ·)
  | fuel + 1, c :: cs => do
    let (token, cs) ← match c, cs with
      | '>', cs => readMove 1 cs
      | '1', '>' :: cs => readMove 1 cs
      | '2', '>' :: cs => readMove 2 cs
      | c, cs =>
        if endsWord c then none
        else (readWord (cs.length + 2) (c :: cs)).map fun (w, cs) => (word w, cs)
    return token :: (← ofChars fuel cs)

end Token

/-! ## Commands of tokens -/

namespace Command

/-- A command of words, and what is left. -/
def readSimple (tokens : List Token) : Option (Command × List Token) :=
  let own := tokens.takeWhile fun token => !(token matches .mark _)
  let words := own.filterMap fun | .word w => some w | _ => none
  let moves := own.filterMap fun | .move m => some m | _ => none
  let assignments := (words.takeWhile fun w => (assignment? w).isSome).filterMap assignment?
  if own.isEmpty then none
  else some (simple assignments (words.drop assignments.length) moves, tokens.drop own.length)

/-- What is left behind a word that has to stand there, which may be on a line of its own. -/
def expect (text : String) : List Token → Option (List Token)
  | .mark ";" :: rest => expect text rest
  | token :: rest => if token.bare? = some text then some rest else none
  | [] => none

mutual

/-- Commands up to one of some words, or the end if the empty word is one of them; the word that
comes first, and what is left behind it.  The fuel bounds the number of tokens. -/
def readList (fuel : Nat) (ends : List String) (tokens : List Token) :
    Option (Command × String × List Token) :=
  match fuel, tokens with
  | 0, _ => none
  | _, [] => if ends.contains "" then some (nothing, "", []) else none
  | fuel + 1, .mark ";" :: tokens => readList fuel ends tokens
  | fuel + 1, token :: tokens =>
    match token.bare?.filter ends.contains with
    | some word => some (nothing, word, tokens)
    | none => do
      let (first, rest) ← readOne fuel (token :: tokens)
      let (first, rest) ← readJoined fuel first rest
      let (more, word, rest) ← readList fuel ends rest
      return (sequence first more, word, rest)

/-- A command with those that are joined to it, and what is left. -/
def readJoined (fuel : Nat) (first : Command) (tokens : List Token) :
    Option (Command × List Token) :=
  match fuel, tokens with
  | fuel + 1, .mark "&&" :: tokens => do
    let (second, rest) ← readOne fuel tokens
    readJoined fuel (both first second) rest
  | fuel + 1, .mark "||" :: tokens => do
    let (second, rest) ← readOne fuel tokens
    readJoined fuel (either first second) rest
  | _, tokens => some (first, tokens)

/-- One command, and what is left. -/
def readOne (fuel : Nat) (tokens : List Token) : Option (Command × List Token) :=
  match fuel, (tokens.head?).bind Token.bare? with
  | 0, _ => none
  | fuel + 1, some "!" => do
    let (c, rest) ← readOne fuel tokens.tail
    return (negated c, rest)
  | fuel + 1, some "if" => readBranch fuel tokens.tail
  | fuel + 1, some "while" => readLoop fuel true tokens.tail
  | fuel + 1, some "until" => readLoop fuel false tokens.tail
  | fuel + 1, some "for" =>
    match tokens.tail with
    | .word name :: tokens => do
      let name ← bareText? name
      let tokens ← expect "in" tokens
      let words := tokens.takeWhile fun token => token matches .word _
      let rest ← expect "do" (tokens.drop words.length)
      let (body, _, rest) ← readList fuel ["done"] rest
      return (each name (words.filterMap fun | .word w => some w | _ => none) body, rest)
    | _ => none
  | _ + 1, _ => readSimple tokens

/-- A command behind `if`, and what is left. -/
def readBranch (fuel : Nat) (tokens : List Token) : Option (Command × List Token) :=
  match fuel with
  | 0 => none
  | fuel + 1 => do
    let (condition, _, rest) ← readList fuel ["then"] tokens
    let (yes, word, rest) ← readList fuel ["elif", "else", "fi"] rest
    match word with
    | "elif" => do
      let (no, rest) ← readBranch fuel rest
      return (branch condition yes no, rest)
    | "else" => do
      let (no, _, rest) ← readList fuel ["fi"] rest
      return (branch condition yes no, rest)
    | _ => return (branch condition yes nothing, rest)

/-- A command behind `while` or `until`, and what is left. -/
def readLoop (fuel : Nat) (outcome : Bool) (tokens : List Token) :
    Option (Command × List Token) :=
  match fuel with
  | 0 => none
  | fuel + 1 => do
    let (condition, _, rest) ← readList fuel ["do"] tokens
    let (body, _, rest) ← readList fuel ["done"] rest
    return (repeated outcome condition body, rest)

end

/-- The command that a script is. -/
def read? (script : String) : Option Command := do
  let tokens ← Token.ofChars (script.length + 1) script.toList
  let (c, _, _) ← readList (4 * tokens.length + 4) [""] tokens
  return c

end Command

end SignedUpgrade.Rehearsal.Script
