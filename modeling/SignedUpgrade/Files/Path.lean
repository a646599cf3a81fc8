import SignedUpgrade.Text.Split

/-!
# Paths

A path is a text in which slashes separate names.  It is shown as it was given; what it leads to
depends on its components.

* `Path.components` — the names on the way, without empty ones and without dots that lead nowhere;
* `Path.join` — a path below another one;
* `Path.parent?`, `Path.fileName?`, `Path.stem` — the parts of a path at its end.
-/

namespace SignedUpgrade

open Text

/-- A path as it was given. -/
structure Path where
  text : String
  deriving DecidableEq, Repr, Inhabited

/-- One step of a path. -/
inductive Component where
  /-- The start at the top of the tree. -/
  | root
  /-- A leading dot: the place where relative paths start. -/
  | here
  /-- Two dots: the directory above. -/
  | above
  /-- A name. -/
  | name (text : String)
  deriving DecidableEq, Repr

namespace Path

instance : Coe String Path := ⟨Path.mk⟩

/-- The texts between the slashes of a path. -/
def pieces (p : Path) : List String :=
  (splitOn '/' p.text.toList).map String.ofList

/-- Whether a path starts at the top of the tree. -/
def isAbsolute (p : Path) : Bool :=
  p.text.toList.head? == some '/'

/-- The component of a piece that is not the first one of a relative path. -/
def component? (piece : String) : Option Component :=
  if piece = "" || piece = "." then none
  else if piece = ".." then some .above
  else some (.name piece)

/-- The components of a path. -/
def components (p : Path) : List Component :=
  match p.pieces with
  | [] => []
  | first :: more =>
    let start :=
      if p.isAbsolute then some .root
      else if first = "." then some .here
      else component? first
    start.toList ++ more.filterMap component?

/-- A path below another one.  An absolute path leads to the same place from everywhere. -/
def join (dir : Path) (name : String) : Path :=
  if Path.isAbsolute name || dir.text = "" then name
  else if dir.text.toList.getLast? = some '/' then ⟨dir.text ++ name⟩
  else ⟨dir.text ++ "/" ++ name⟩

/-- The text that a component stands for. -/
def componentText : Component → String
  | .root => ""
  | .here => "."
  | .above => ".."
  | .name text => text

/-- A path with the given components. -/
def ofComponents : List Component → Path
  | [] => ⟨""⟩
  | [.root] => ⟨"/"⟩
  | cs => ⟨"/".intercalate (cs.map componentText)⟩

/-- The path to the directory that holds what a path leads to. -/
def parent? (p : Path) : Option Path :=
  match p.components.getLast? with
  | none | some .root => none
  | some _ => some (ofComponents p.components.dropLast)

/-- The name at the end of a path. -/
def fileName? (p : Path) : Option String :=
  match p.components.getLast? with
  | some (.name text) => some text
  | _ => none

/-- A name without its last extension.  A dot at the beginning starts no extension. -/
def withoutExtension (name : List Char) : List Char :=
  match (name.reverse.dropWhile (· ≠ '.')).drop 1 with
  | [] => name
  | before => before.reverse

/-- The name at the end of a path without its extension; empty if the path ends in no name. -/
def stem (p : Path) : String :=
  match p.fileName? with
  | some name => String.ofList (withoutExtension name.toList)
  | none => ""

end Path

end SignedUpgrade
