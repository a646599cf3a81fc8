import SignedUpgrade.Files.Program

/-!
# Additions to files

A file that only grows can be brought up to date by what was added at its end.

* `added?` — what was added at the end of a content;
* `FileTree.additions` — what was added to the files of a tree.
-/

namespace SignedUpgrade

open Text

/-- What was added at the end of a content, if it only grew. -/
def added? : (before after : Bytes) → Option Bytes
  | [], after => some after
  | b :: before, a :: after => if b = a then added? before after else none
  | _ :: _, [] => none

/-- Only what grew from the earlier content has an addition, and it is the rest. -/
theorem added?_eq_some_iff {before after rest : Bytes} :
    added? before after = some rest ↔ after = before ++ rest := by
  induction before generalizing after with
  | nil => simp [added?]
  | cons b before ih =>
    cases after with
    | nil => simp [added?]
    | cons a after =>
      by_cases h : b = a
      · simp [added?, h, ih]
      · simp [added?, h, Ne.symm h]

/-- The content of the file at a place; a place without one counts as an empty file. -/
def FileTree.contentAt (t : FileTree) (l : Location) : Bytes :=
  match t.get? l with
  | some (.file content _) => content
  | _ => []

/-- What was added to each file of a tree that grew since an earlier tree. -/
def FileTree.additions (before after : FileTree) : List (Path × Bytes) :=
  after.entries.filterMap fun (l, _) =>
    ((added? (before.contentAt l) (after.contentAt l)).filter (· ≠ [])).map fun rest =>
      (Path.ofLocation l, rest)

end SignedUpgrade
