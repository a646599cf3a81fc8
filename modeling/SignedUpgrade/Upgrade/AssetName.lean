import SignedUpgrade.Files.Path
import SignedUpgrade.Text.Blank

/-!
# Names of assets

What the feed tells is not trusted, and the name of an asset least of all, since a file gets it.

* `AssetName.isPlain` — whether a name has nothing in it that could lead elsewhere;
* `AssetName.isSafe` — whether, in addition, it is a path of exactly one step.
-/

namespace SignedUpgrade.AssetName

open Text

/-- The characters that part names, on any platform. -/
def parts : List Char := ['/', '\\', ':']

/-- Whether a name is not empty, names no place that exists everywhere, and has no character that
parts names and no control character. -/
def isPlain (name : String) : Bool :=
  name ≠ "" && !(name.toList.any parts.contains) && !(name.toList.any isControl)
    && name ≠ "." && name ≠ ".."

/-- Whether a path is one step down. -/
def isOneStep (p : Path) : Bool :=
  match p.components with
  | [.name _] => true
  | _ => false

/-- Whether a file may have a name. -/
def isSafe (name : String) : Bool :=
  isPlain name && isOneStep name

end SignedUpgrade.AssetName
