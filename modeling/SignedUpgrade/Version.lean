import SignedUpgrade.Failure.Basic
import SignedUpgrade.Text.Blank
import SignedUpgrade.Text.Digit

/-!
# Versions

Versions reach the updater as free text: what the installed program prints about itself, and the
tags of releases.  A version is the first triple `major.minor.patch` of such a text; whatever stands
around it is ignored.

* `Version` — a triple of 64-bit numbers, ordered from left to right;
* `firstTriple` — the digits of the first triple of a text;
* `Version.extract` — the version that a text holds, or the failure that names the text.
-/

namespace SignedUpgrade

open Text

/-- A version. -/
structure Version where
  major : UInt64
  minor : UInt64
  patch : UInt64
  deriving DecidableEq, Repr

namespace Version

/-- The lowest version, which stands for a version that is not known. -/
def unknown : Version :=
  ⟨0, 0, 0⟩

instance : Inhabited Version := ⟨unknown⟩

/-- Whether a version comes before another one: the first part that differs decides. -/
def before (a b : Version) : Bool :=
  a.major < b.major
    || (a.major == b.major && (a.minor < b.minor || (a.minor == b.minor && a.patch < b.patch)))

instance : LT Version := ⟨fun a b => a.before b = true⟩

instance : LE Version := ⟨fun a b => ¬ b < a⟩

instance (a b : Version) : Decidable (a < b) :=
  inferInstanceAs (Decidable (a.before b = true))

instance (a b : Version) : Decidable (a ≤ b) :=
  inferInstanceAs (Decidable (¬ b < a))

instance : Ord Version :=
  ⟨fun a b => if a < b then .lt else if b < a then .gt else .eq⟩

/-- The text of a version. -/
def text (v : Version) : String :=
  s!"{v.major}.{v.minor}.{v.patch}"

end Version

/-! ## Finding a version in a text

A triple is three runs of decimal digits of any script with single dots between them.  Where the
first triple has digits that carry no value, or a number too large, the text holds no version: a
later triple is not looked for. -/

/-- The digits of the triple that starts at the beginning of a text, with the third run as long as
it goes. -/
def tripleHere? (cs : List Char) : Option (List Char × List Char × List Char) :=
  let a := cs.takeWhile isDecimal
  match a, cs.dropWhile isDecimal with
  | _ :: _, '.' :: r =>
    let b := r.takeWhile isDecimal
    match b, r.dropWhile isDecimal with
    | _ :: _, '.' :: r =>
      let c := r.takeWhile isDecimal
      match c with
      | _ :: _ => some (a, b, c)
      | [] => none
    | _, _ => none
  | _, _ => none

/-- The digits of the first triple of a text. -/
def firstTriple : List Char → Option (List Char × List Char × List Char)
  | [] => none
  | c :: r =>
    match tripleHere? (c :: r) with
    | some triple => some triple
    | none => firstTriple r

/-- The version whose parts are given by their digits. -/
def Version.ofDigits? (triple : List Char × List Char × List Char) : Option Version := do
  let major ← word64? triple.1
  let minor ← word64? triple.2.1
  let patch ← word64? triple.2.2
  return ⟨major, minor, patch⟩

/-- The version that a text holds, if it holds one. -/
def Version.find? (text : String) : Option Version :=
  (firstTriple text.toList).bind Version.ofDigits?

/-- The version that a text holds.  A text without one fails with its trimmed form. -/
def Version.extract (text : String) : Except Failure Version :=
  match Version.find? text with
  | some v => .ok v
  | none => .error (.versionParse (trimmed text))

/-- The version that a text holds, or the lowest version where it holds none. -/
def Version.extractOrUnknown (text : String) : Version :=
  (Version.find? text).getD .unknown

end SignedUpgrade
