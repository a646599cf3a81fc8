import SignedUpgrade.Net.Host

/-!
# Addresses

An address is read in the way of the web: blanks around it are dropped, dots in its path are
resolved, and every address has one written form, which is what failures show.

* `Url` — an address by its parts;
* `Url.text` — its written form;
* `Url.read?` — the address that a text stands for, on its own or seen from another address.
-/

namespace SignedUpgrade.Net

open Text

/-- The path of an address. -/
inductive UrlPath where
  /-- A text without structure, for addresses that lead to no place. -/
  | blob (text : String)
  | segments (list : List String)
  deriving DecidableEq, Repr

/-- An address by its parts, each in its written form. -/
structure Url where
  scheme : String
  user : String := ""
  password : Option String := none
  host : Option String := none
  port : Option Nat := none
  path : UrlPath := .segments []
  query : Option String := none
  fragment : Option String := none
  deriving DecidableEq, Repr

namespace Url

/-- The schemes with hosts and with a usual port. -/
def usualPorts : List (String × Nat) :=
  [("http", 80), ("https", 443), ("ws", 80), ("wss", 443), ("ftp", 21)]

/-- Whether a scheme is one of those that the web gives rules for. -/
def isSpecial (scheme : String) : Bool :=
  (usualPorts.lookup scheme).isSome || scheme == "file"

/-- Who asks, as it stands before a host. -/
def userText (u : Url) : String :=
  if u.user = "" ∧ u.password.isNone then ""
  else u.user ++ (match u.password with | some p => ":" ++ p | none => "") ++ "@"

/-- The written form of a path. -/
def pathText (u : Url) : String :=
  match u.path with
  | .blob text => text
  | .segments [] => ""
  | .segments list =>
    let text := String.join (list.map ("/" ++ ·))
    if u.host.isNone && "//".toList.isPrefixOf text.toList then "/." ++ text else text

/-- The written form of an address. -/
def text (u : Url) : String :=
  u.scheme ++ ":"
    ++ (match u.host with | some host => "//" ++ u.userText ++ host | none => "")
    ++ (match u.port with | some port => s!":{port}" | none => "")
    ++ u.pathText
    ++ (match u.query with | some query => "?" ++ query | none => "")
    ++ (match u.fragment with | some fragment => "#" ++ fragment | none => "")

/-- An address without the part that says who asks. -/
def withoutUser (u : Url) : Url :=
  { u with user := "", password := none }

/-! ## Reading -/

/-- The characters that are encoded in fragments. -/
def fragmentSet : List Char := " \"<>\x60".toList

/-- The characters that are encoded in paths. -/
def pathSet : List Char := fragmentSet ++ "#?\x7b\x7d".toList

/-- The characters that are encoded in the part that says who asks. -/
def userSet : List Char := pathSet ++ "/:;=@[\\]^|".toList

/-- The characters that are encoded in queries. -/
def querySet (special : Bool) : List Char :=
  " \"#<>".toList ++ (if special then ['\''] else [])

/-- Whether a character parts the segments of a path. -/
def isSlash (special : Bool) (c : Char) : Bool :=
  c == '/' || (special && c == '\\')

/-- A text without the blanks and controls around it, and without line ends and tabs. -/
def cleaned (text : List Char) : List Char :=
  let isEdge := fun (c : Char) => c.toNat ≤ 0x20
  let inner := ((text.dropWhile isEdge).reverse.dropWhile isEdge).reverse
  inner.filter fun c => c ≠ '\t' && c ≠ '\n' && c ≠ '\r'

/-- The scheme at the start of a text, and what follows its colon. -/
def readScheme (cs : List Char) : Option (String × List Char) :=
  let isPart := fun (c : Char) => c.isAlphanum || c == '+' || c == '-' || c == '.'
  match cs with
  | c :: _ =>
    if c.isAlpha then
      match cs.dropWhile isPart with
      | ':' :: r => some (String.ofList ((cs.takeWhile isPart).map Char.toLower), r)
      | _ => none
    else none
  | [] => none

/-- The query and the fragment at the end of an address. -/
def readEnd (special : Bool) (cs : List Char) : Option String × Option String :=
  let fragmentOf := fun (cs : List Char) => match cs with
    | '#' :: r => some (String.ofList (percentEncode fragmentSet r))
    | _ => none
  match cs with
  | '?' :: r =>
    (some (String.ofList (percentEncode (querySet special) (r.takeWhile (· ≠ '#')))),
      fragmentOf (r.dropWhile (· ≠ '#')))
  | _ => (none, fragmentOf cs)

/-- The pieces of a text between slashes. -/
def pieces (special : Bool) (cs : List Char) : List (List Char) :=
  splitOn '/' (cs.map fun c => if isSlash special c then '/' else c)

/-- Whether a segment stands for the place it is at. -/
def isDot (segment : String) : Bool :=
  segment == "." || segment == "%2e" || segment == "%2E"

/-- Whether a segment stands for the place above. -/
def isDoubleDot (segment : String) : Bool :=
  let shown := lower segment
  shown == ".." || shown == ".%2e" || shown == "%2e." || shown == "%2e%2e"

/-- The segments that are reached from some segments, which are given in reverse. -/
def resolve (reached : List String) : List String → List String
  | [] => reached.reverse
  | [last] =>
    if isDoubleDot last then ("" :: reached.tail).reverse
    else if isDot last then ("" :: reached).reverse
    else (last :: reached).reverse
  | segment :: more =>
    if isDoubleDot segment then resolve reached.tail more
    else if isDot segment then resolve reached more
    else resolve (segment :: reached) more

/-- An address with the path, query and fragment that a text gives, seen from some segments. -/
def withPath (u : Url) (start : List String) (cs : List Char) : Url :=
  let special := isSpecial u.scheme
  let isEnd := fun (c : Char) => c == '?' || c == '#'
  let segments := (pieces special (cs.takeWhile (!isEnd ·))).map fun piece =>
    String.ofList (percentEncode pathSet piece)
  let (query, fragment) := readEnd special (cs.dropWhile (!isEnd ·))
  { u with path := .segments (resolve start.reverse segments), query, fragment }

/-- The path after a host. -/
def withRootPath (u : Url) (cs : List Char) : Url :=
  let special := isSpecial u.scheme
  match cs with
  | c :: r =>
    if isSlash special c then u.withPath [] r
    else if special then u.withPath [] cs
    else let (query, fragment) := readEnd special cs; { u with query, fragment }
  | [] => if special then u.withPath [] [] else u

/-- The part that says who asks, and the rest. -/
def readUser (u : Url) (cs : List Char) : Url × List Char :=
  match (splitOn '@' cs).reverse with
  | host :: (first :: more) =>
    let who := joinWith '@' (first :: more).reverse
    let encode := fun (cs : List Char) => String.ofList (percentEncode userSet cs)
    match who.dropWhile (· ≠ ':') with
    | _ :: [] => ({ u with user := encode (who.takeWhile (· ≠ ':')) }, host)
    | _ :: password =>
      ({ u with user := encode (who.takeWhile (· ≠ ':')), password := some (encode password) }, host)
    | [] => ({ u with user := encode who }, host)
  | _ => (u, cs)

/-- The host and the text after its colon. -/
def splitPort : (inBrackets : Bool) → List Char → List Char × Option (List Char)
  | _, [] => ([], none)
  | inBrackets, c :: r =>
    if c = ':' ∧ !inBrackets then ([], some r)
    else
      let inside := if c = '[' then true else if c = ']' then false else inBrackets
      let (host, port) := splitPort inside r
      (c :: host, port)

/-- A port; the usual one of a scheme is left out. -/
def readPort (scheme : String) (digits : Option (List Char)) : Option (Option Nat) :=
  match digits with
  | none | some [] => some none
  | some digits =>
    match asciiValue? digits with
    | none => none
    | some n =>
      if 65535 < n then none
      else if usualPorts.lookup scheme = some n then some none
      else some (some n)

/-- An address after the two slashes before its host. -/
def readAuthority (scheme : String) (cs : List Char) : Option Url := do
  let special := isSpecial scheme
  let isEnd := fun (c : Char) => isSlash special c || c == '?' || c == '#'
  let (u, place) := readUser { scheme } (cs.takeWhile (!isEnd ·))
  let (hostText, portText) := splitPort false place
  if hostText.isEmpty && (special || portText.isSome || u.userText ≠ "") then none
  let host ← if hostText.isEmpty then some "" else readHost special hostText
  let port ← readPort scheme portText
  return { u with host := some host, port }.withRootPath (cs.dropWhile (!isEnd ·))

/-- The slashes at the start of a text, counted, and the rest. -/
def leadingSlashes (special : Bool) (cs : List Char) : Nat × List Char :=
  ((cs.takeWhile (isSlash special)).length, cs.dropWhile (isSlash special))

/-- An address of a file, after its scheme. -/
def readFile (cs : List Char) : Option Url :=
  let u : Url := { scheme := "file", host := some "" }
  match cs with
  | a :: b :: r =>
    if isSlash true a && isSlash true b then do
      let isEnd := fun (c : Char) => isSlash true c || c == '?' || c == '#'
      let hostText := r.takeWhile (!isEnd ·)
      let host ← if hostText.isEmpty then some "" else readHost true hostText
      let host := if host = "localhost" then "" else host
      return { u with host := some host }.withRootPath (r.dropWhile (!isEnd ·))
    else some (u.withRootPath cs)
  | _ => some (u.withRootPath cs)

/-- An address after its scheme. -/
def readAfterScheme (scheme : String) (cs : List Char) : Option Url :=
  if scheme = "file" then readFile cs
  else if isSpecial scheme then readAuthority scheme (leadingSlashes true cs).2
  else match cs with
    | '/' :: '/' :: r => readAuthority scheme r
    | '/' :: r => some ({ scheme : Url }.withPath [] r)
    | _ =>
      let isEnd := fun (c : Char) => c == '?' || c == '#'
      let (query, fragment) := readEnd false (cs.dropWhile (!isEnd ·))
      let blob := String.ofList (percentEncode [] (cs.takeWhile (!isEnd ·)))
      some { scheme, path := .blob blob, query, fragment }

/-- The segments of an address. -/
def segments (u : Url) : List String :=
  match u.path with
  | .segments list => list
  | .blob _ => []

/-- The address that a text without a scheme stands for, seen from another one. -/
def readRelative (base : Url) (cs : List Char) : Option Url :=
  let special := isSpecial base.scheme
  let (slashes, r) := leadingSlashes special cs
  if 2 ≤ slashes then
    readAuthority base.scheme (if special then r else cs.drop 2)
  else if slashes = 1 then some (base.withPath [] r)
  else match cs with
    | [] => some { base with fragment := none }
    | '?' :: _ =>
      let (query, fragment) := readEnd special cs
      some { base with query, fragment }
    | '#' :: _ => some { base with fragment := (readEnd special cs).2 }
    | _ => some (base.withPath base.segments.dropLast cs)

/-- The address that a text stands for. -/
def read? (text : String) : Option Url := do
  let (scheme, r) ← readScheme (cleaned text.toList)
  readAfterScheme scheme r

/-- The address that a text stands for, seen from another one. -/
def readFrom? (base : Url) (text : String) : Option Url :=
  let cs := cleaned text.toList
  match readScheme cs with
  | some (scheme, r) =>
    if scheme = base.scheme ∧ isSpecial scheme ∧ (leadingSlashes true r).1 < 2 then
      readRelative base r
    else readAfterScheme scheme r
  | none =>
    match base.path with
    | .blob _ => none
    | .segments _ => readRelative base cs

end Url

end SignedUpgrade.Net
