/-!
# Blank characters, trimming and lines

Settings, versions and program output reach the updater as free text.  This file holds the three
ways in which such text is cut before it is read:

* `isBlank` — the Unicode property `White_Space`, which decides what counts as "nothing there";
* `trim` — a text without the blanks at its two ends;
* `lines` — the lines of a text, each without its line end.
-/

namespace SignedUpgrade.Text

/-- The characters with the Unicode property `White_Space`. -/
def isBlank (c : Char) : Bool :=
  let n := c.toNat
  (0x9 ≤ n && n ≤ 0xD) || n == 0x20 || n == 0x85 || n == 0xA0 || n == 0x1680
    || (0x2000 ≤ n && n ≤ 0x200A) || n == 0x2028 || n == 0x2029 || n == 0x202F || n == 0x205F
    || n == 0x3000

/-- The control characters, which are the Unicode category `Cc`. -/
def isControl (c : Char) : Bool :=
  c.toNat < 0x20 || (0x7F ≤ c.toNat && c.toNat ≤ 0x9F)

/-- A text without the blanks at its start. -/
def trimStart (cs : List Char) : List Char :=
  cs.dropWhile isBlank

/-- A text without the blanks at its end. -/
def trimEnd (cs : List Char) : List Char :=
  (cs.reverse.dropWhile isBlank).reverse

/-- A text without the blanks at its start and at its end. -/
def trim (cs : List Char) : List Char :=
  trimEnd (trimStart cs)

/-- A string without the blanks at its two ends. -/
def trimmed (s : String) : String :=
  String.ofList (trim s.toList)

/-- A string that holds nothing but blanks, the empty one included. -/
def allBlank (s : String) : Bool :=
  s.toList.all isBlank

/-- Every character that core calls white space is blank. -/
theorem isBlank_of_isWhitespace {c : Char} (h : c.isWhitespace = true) : isBlank c = true := by
  simp only [Char.isWhitespace, Bool.or_eq_true, decide_eq_true_eq] at h
  rcases h with ((h | h) | h) | h <;> subst h <;> decide

/-! ## Lines

A line feed ends a line.  What follows the last line feed is a line of its own only if there is
something there, so a text that ends in a line feed has no empty last line. -/

/-- The texts before each line feed, and the text after the last one. -/
def segments : List Char → List (List Char) × List Char
  | [] => ([], [])
  | c :: r =>
    match segments r with
    | (ended, rest) =>
      if c = '\n' then ([] :: ended, rest)
      else match ended with
        | [] => ([], c :: rest)
        | s :: more => ((c :: s) :: more, rest)

/-- A text without the one carriage return that stands at its end. -/
def dropCarriageReturn (cs : List Char) : List Char :=
  if cs.getLast? = some '\r' then cs.dropLast else cs

/-- The lines of a text.  A carriage return directly before a line feed belongs to the line end;
one at the end of an unfinished last line belongs to that line. -/
def lines (cs : List Char) : List (List Char) :=
  match segments cs with
  | (ended, []) => ended.map dropCarriageReturn
  | (ended, rest) => ended.map dropCarriageReturn ++ [rest]

end SignedUpgrade.Text
