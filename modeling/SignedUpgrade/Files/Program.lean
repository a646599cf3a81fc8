import SignedUpgrade.Files.FileTree

/-!
# Finding programs

A program that is known by its name is looked for in the directories of the search path.

* `FileTree.program?` — the path of the program that a name stands for.
-/

namespace SignedUpgrade

open Text

/-- Whether a path leads to a program. -/
def FileTree.hasProgram (t : FileTree) (p : Path) : Bool :=
  match t.at? p with
  | some (.file _ executable) => executable
  | _ => false

/-- The path to a place from the top. -/
def Path.ofLocation (l : Location) : Path :=
  ⟨"/" ++ "/".intercalate l⟩

/-- The path from the top that leads to the same place as another one. -/
def FileTree.fromTop (t : FileTree) (p : Path) : Path :=
  if p.isAbsolute then p
  else Path.ofComponents ((Path.ofLocation t.workingDirectory).components
    ++ p.components.dropWhile (· = .here))

/-- The program that a name stands for.  A name of several steps is a path; any other one is looked
for in the directories of the search path. -/
def FileTree.program? (t : FileTree) (searchPath : Option String) (name : String) : Option Path :=
  let path : Path := name
  if 1 < path.components.length then some (t.fromTop path) |>.filter t.hasProgram
  else if name = "" then none
  else do
    let directories := (splitOn ':' (← searchPath).toList).map fun d => Path.mk (String.ofList d)
    (directories.map fun d => d.join name).find? t.hasProgram

end SignedUpgrade
