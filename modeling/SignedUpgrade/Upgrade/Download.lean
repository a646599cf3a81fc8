import SignedUpgrade.Net.Client
import SignedUpgrade.Release.Basic
import SignedUpgrade.Text.Sha256
import SignedUpgrade.Upgrade.AssetName

/-!
# Downloads

An asset is fetched into a file that has its name.  The content is hashed, written and counted piece
by piece as it arrives.

* `Downloaded` — a file that was fetched as a whole;
* `Download.Received` — the hash and the size of what has arrived;
* `download` — fetches an asset into a directory.
-/

namespace SignedUpgrade

open Net Text

/-- A file that was fetched as a whole. -/
structure Downloaded where
  path : Path
  sha256 : String
  /-- The size in bytes. -/
  size : UInt64
  deriving DecidableEq, Repr

namespace Download

variable {σ : Type}

/-- What is accepted as an installer. -/
def accept : String := "*/*"

/-- The failure to fetch an asset. -/
def failed (asset : Asset) (reason : String) : Failure :=
  .downloadFailed asset.url reason

/-- What is known of a content that is on its way. -/
structure Received where
  hash : Sha256.Progress := {}
  size : UInt64 := 0

/-- Takes one more piece into account. -/
def Received.add (received : Received) (piece : Bytes) : Received where
  hash := received.hash.add piece
  size := received.size + .ofNat piece.length

/-- Adds pieces to a file one by one, hashes and counts them on the way. -/
def receive (path : Path) (received : Received) : List Bytes → Attempt σ Received
  | [] => pure received
  | piece :: more => do
    Attempt.onFiles (·.append path piece)
    receive path (received.add piece) more

/-- Writes the body of a response to a new file, in place of one that is there. -/
def save (asset : Asset) (path : Path) (body : Body) : Attempt σ Received := do
  Attempt.onFiles (·.write path [])
  let received ← receive path {} body.chunks
  if body.complete then return received else throw (failed asset notDecoded)

end Download

/-- Fetches an asset into a directory.  Nothing is requested for an asset without a safe name. -/
def download {σ : Type} (network : Network σ) (asset : Asset) (directory : Path) :
    Attempt σ Downloaded := do
  if !AssetName.isSafe asset.name then throw (.invalidAssetName asset.name)
  let path := directory.join asset.name
  Attempt.debug ("Downloading " ++ asset.url ++ " to " ++ path.text)
  Attempt.note (.action (.downloadRequest asset.url))
  match ← Attempt.ofWork (Work.onSite (fetchSuccess network Download.accept asset.url)) with
  | .error reason => throw (Download.failed asset reason)
  | .ok response =>
    let received ← Download.save asset path response.body
    let sha256 := Hex.encode received.hash.digest
    Attempt.debug ("Downloaded " ++ toString received.size ++ " bytes, sha256 " ++ sha256)
    return { path, sha256, size := received.size }

end SignedUpgrade
