import SignedUpgrade.Failure.Basic
import SignedUpgrade.Files.Path
import SignedUpgrade.Text.Utf8

/-!
# File trees

The files that the updater and the programs it launches see, and the operations on them.

* `FileTree` — what stands at which place, and the directory that relative paths start from;
* `FileTree.get?` — the view that all operations are described by;
* `FileTree.resolve` — the place that a path leads to;
* `FileTree.createDirectories`, `write`, `append`, `read`, `removeFile`, `removeAll` — the
  operations, each of which fails with the system's own error.
-/

namespace SignedUpgrade

open Text

/-- A place in the tree: the names from the top down to it. -/
abbrev Location := List String

/-- What can stand at a place. -/
inductive Entry where
  | file (content : Bytes) (executable : Bool)
  | directory
  deriving DecidableEq, Repr, Inhabited

namespace IoFault

/-- Nothing stands where a path leads. -/
def missing : IoFault := ⟨.notFound, "No such file or directory (os error 2)"⟩

/-- The operation is not permitted there. -/
def denied : IoFault := ⟨.permissionDenied, "Permission denied (os error 13)"⟩

/-- Something stands already where a new entry should be. -/
def occupied : IoFault := ⟨.alreadyExists, "File exists (os error 17)"⟩

/-- A file stands where a directory is needed. -/
def notDirectory : IoFault := ⟨.other, "Not a directory (os error 20)"⟩

/-- A directory stands where a file is needed. -/
def isDirectory : IoFault := ⟨.other, "Is a directory (os error 21)"⟩

/-- A name is longer than a directory can hold. -/
def nameTooLong : IoFault := ⟨.other, "File name too long (os error 36)"⟩

/-- A path holds the character that ends names. -/
def nulInName : IoFault := ⟨.other, "file name contained an unexpected NUL byte"⟩

/-- A file that was to be read as text is no text. -/
def notText : IoFault := ⟨.other, "stream did not contain valid UTF-8"⟩

/-- No part of a path could be created. -/
def noTree : IoFault := ⟨.other, "failed to create whole tree"⟩

end IoFault

/-- A tree of files and directories.  The top of the tree is a directory and is not listed. -/
structure FileTree where
  entries : List (Location × Entry) := []
  /-- The directory that relative paths start from. -/
  workingDirectory : Location := []
  /-- The directories that the system refuses to remove. -/
  pinned : List Location := []
  deriving Repr, Inhabited

namespace FileTree

/-- What stands at a place. -/
def get? (t : FileTree) (l : Location) : Option Entry :=
  if l = [] then some .directory else t.entries.lookup l

/-- The tree with an entry at a place, whatever stood there. -/
def put (t : FileTree) (l : Location) (e : Entry) : FileTree :=
  { t with entries := (l, e) :: t.entries.filter (·.1 ≠ l) }

/-- The tree without the entry at a place. -/
def erase (t : FileTree) (l : Location) : FileTree :=
  { t with entries := t.entries.filter (·.1 ≠ l) }

/-- The tree without a place and everything below it. -/
def eraseBelow (t : FileTree) (l : Location) : FileTree :=
  { t with entries := t.entries.filter fun e => !l.isPrefixOf e.1 }

/-- The longest name that a directory can hold, in bytes. -/
def longestName : Nat := 255

/-- The length, in bytes, from which on a path is refused as a whole. -/
def longestPath : Nat := 4096

/-- Follows the pieces of a path from a place.  Every place on the way has to be a directory; the
place at the end need not exist. -/
def walk (t : FileTree) (l : Location) : List String → Except IoFault Location
  | [] => .ok l
  | piece :: more =>
    match t.get? l with
    | none => .error .missing
    | some (.file ..) => .error .notDirectory
    | some .directory =>
      if piece = "" || piece = "." then t.walk l more
      else if piece = ".." then t.walk l.dropLast more
      else if piece.utf8ByteSize > longestName then .error .nameTooLong
      else t.walk (l ++ [piece]) more

/-- The place that a path leads to. -/
def resolve (t : FileTree) (p : Path) : Except IoFault Location :=
  if p.text = "" then .error .missing
  else if p.text.toList.contains '\x00' then .error .nulInName
  else if p.text.utf8ByteSize ≥ longestPath then .error .nameTooLong
  else t.walk (if p.isAbsolute then [] else t.workingDirectory) p.pieces

/-- What stands where a path leads. -/
def at? (t : FileTree) (p : Path) : Option Entry :=
  match t.resolve p with
  | .ok l => t.get? l
  | .error _ => none

/-- Whether something stands where a path leads. -/
def holds (t : FileTree) (p : Path) : Bool :=
  (t.at? p).isSome

/-- Whether a path leads to a directory. -/
def hasDirectory (t : FileTree) (p : Path) : Bool :=
  t.at? p == some .directory

/-- Whether a path leads to a file. -/
def hasFile (t : FileTree) (p : Path) : Bool :=
  match t.at? p with
  | some (.file ..) => true
  | _ => false

/-! ## Directories -/

/-- A path without the slashes at its end. -/
def withoutLastSlash (p : Path) : Path :=
  match p.text.toList.reverse.dropWhile (· = '/') with
  | [] => p
  | rest => ⟨String.ofList rest.reverse⟩

/-- The place of a new entry: its parent directory has to exist. -/
def placeForNew (t : FileTree) (p : Path) : Except IoFault Location := do
  let l ← t.resolve p
  match t.get? l.dropLast with
  | none => .error .missing
  | some (.file ..) => .error .notDirectory
  | some .directory => .ok l

/-- The tree with one new directory. -/
def createDirectory (t : FileTree) (p : Path) : Except IoFault FileTree := do
  let l ← t.placeForNew (withoutLastSlash p)
  match t.get? l with
  | some _ => .error .occupied
  | none => .ok (t.put l .directory)

/-- Creates a directory after the directories above it.  The fuel bounds the number of directories
above, which is less than the length of the path. -/
def createDirectoriesFrom (t : FileTree) (p : Path) : Nat → Except IoFault FileTree
  | 0 => .error .noTree
  | fuel + 1 =>
    if p.text = "" then .ok t
    else match t.createDirectory p with
      | .ok t => .ok t
      | .error fault =>
        if fault.kind = .notFound then
          match p.parent? with
          | none => .error .noTree
          | some parent =>
            match t.createDirectoriesFrom parent fuel with
            | .error fault => .error fault
            | .ok t =>
              match t.createDirectory p with
              | .ok t => .ok t
              | .error fault => if t.hasDirectory p then .ok t else .error fault
        else if t.hasDirectory p then .ok t
        else .error fault

/-- The tree with a directory and all directories above it.  One that exists is left alone. -/
def createDirectories (t : FileTree) (p : Path) : Except IoFault FileTree :=
  t.createDirectoriesFrom p (p.text.length + 1)

/-- The places directly below a place. -/
def childrenOf (t : FileTree) (l : Location) : List Location :=
  (t.entries.map (·.1)).filter fun e => e ≠ [] && e.dropLast = l

/-- The places directly below the directory that a path leads to. -/
def children (t : FileTree) (p : Path) : Except IoFault (List Location) := do
  let l ← t.resolve p
  match t.get? l with
  | none => .error .missing
  | some (.file ..) => .error .notDirectory
  | some .directory => .ok (t.childrenOf l)

/-! ## Files -/

/-- The bytes of a file. -/
def read (t : FileTree) (p : Path) : Except IoFault Bytes := do
  let l ← t.resolve p
  match t.get? l with
  | none => .error .missing
  | some .directory => .error .isDirectory
  | some (.file content _) => .ok content

/-- The text of a file. -/
def readText (t : FileTree) (p : Path) : Except IoFault String := do
  let content ← t.read p
  match Utf8.decodeStrict content with
  | some text => .ok text
  | none => .error .notText

/-- Opens the file that a path leads to for writing: its place and what it holds so far.  A file
that does not exist is new and empty. -/
def openForWriting (t : FileTree) (p : Path) : Except IoFault (Location × Bytes × Bool) := do
  let l ← t.placeForNew (withoutLastSlash p)
  if withoutLastSlash p ≠ p then .error .isDirectory
  match t.get? l with
  | some .directory => .error .isDirectory
  | some (.file content executable) => .ok (l, content, executable)
  | none => .ok (l, [], false)

/-- The tree with a file of the given content, in place of what the file held. -/
def write (t : FileTree) (p : Path) (content : Bytes) : Except IoFault FileTree := do
  let (l, _, executable) ← t.openForWriting p
  return t.put l (.file content executable)

/-- The tree with bytes added at the end of a file. -/
def append (t : FileTree) (p : Path) (added : Bytes) : Except IoFault FileTree := do
  let (l, content, executable) ← t.openForWriting p
  return t.put l (.file (content ++ added) executable)

/-! ## Removal -/

/-- The tree without a file. -/
def removeFile (t : FileTree) (p : Path) : Except IoFault FileTree := do
  let l ← t.resolve p
  match t.get? l with
  | none => .error .missing
  | some .directory => .error .isDirectory
  | some (.file ..) => .ok (t.erase l)

/-- Whether the system refuses to remove the directory at a place, or one below it. -/
def isPinned (t : FileTree) (l : Location) : Bool :=
  t.pinned.any l.isPrefixOf

/-- The tree without a directory and everything below it.  Nothing is removed if there is a directory
among them that the system refuses to remove. -/
def removeAll (t : FileTree) (p : Path) : Except IoFault FileTree := do
  let l ← t.resolve p
  match t.get? l with
  | none => .error .missing
  | some (.file ..) => .error .notDirectory
  | some .directory => if t.isPinned l then .error .denied else .ok (t.eraseBelow l)

/-! ## What the operations do to the view -/

/-- Leaving out the entries of one place changes nothing at another one. -/
theorem lookup_filter_ne {l m : Location} (h : m ≠ l) (es : List (Location × Entry)) :
    (es.filter (·.1 ≠ l)).lookup m = es.lookup m := by
  induction es with
  | nil => rfl
  | cons a r ih =>
    obtain ⟨k, x⟩ := a
    by_cases hk : k = l
    · have hmk : (m == k) = false := by simpa [hk] using h
      rw [List.filter_cons_of_neg (by simp [hk]), ih, List.lookup_cons, hmk]
    · rw [List.filter_cons_of_pos (by simp [hk]), List.lookup_cons, List.lookup_cons, ih]

/-- An entry that was put is found at its place, and every other place is as before. -/
theorem get?_put (t : FileTree) {l : Location} (m : Location) (e : Entry) (h : l ≠ []) :
    (t.put l e).get? m = if m = l then some e else t.get? m := by
  by_cases hm : m = []
  · simp [get?, hm, Ne.symm h]
  · by_cases hl : m = l
    · simp [get?, put, hl, h]
    · have hne : (m == l) = false := by simpa using hl
      simp only [get?, put, hm, hl, if_false, List.lookup_cons, hne]
      exact lookup_filter_ne hl t.entries

end FileTree

end SignedUpgrade
