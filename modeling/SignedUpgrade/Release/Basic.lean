import SignedUpgrade.Json.Decode
import SignedUpgrade.Json.Write
import SignedUpgrade.Pattern.Reader

/-!
# Releases

A release has a tag and assets, of which one is the installer.  The feed tells it as one object; all
other members of that object are left out.

* `Asset`, `Release` — what is read of a release;
* `Release.json` — the written form;
* `Release.ofLetters` — reads a release from a response body or a text;
* `Release.matching` — the assets whose names a pattern selects.
-/

namespace SignedUpgrade

open Json Text

/-- A file that belongs to a release. -/
structure Asset where
  name : String
  /-- Where the file can be fetched. -/
  url : String
  deriving DecidableEq, Repr, Inhabited

/-- A release. -/
structure Release where
  tag : String
  assets : List Asset
  deriving DecidableEq, Repr, Inhabited

namespace Asset

/-- The written form of an asset. -/
def json (a : Asset) : String :=
  object [("name", quoted a.name), ("browser_download_url", quoted a.url)]

/-- An asset as far as it is read. -/
structure Partial where
  name : Option String := none
  url : Option String := none

/-- The fields of an asset. -/
def shape : Shape Partial where
  name := "ReleaseAsset"
  start := {}
  fields := [
    { name := "name"
      isSet := (·.name.isSome)
      want := fun record letters =>
        (wantString letters).map fun (n, r) => ({ record with name := some n }, r) },
    { name := "browser_download_url"
      isSet := (·.url.isSome)
      want := fun record letters =>
        (wantString letters).map fun (u, r) => ({ record with url := some u }, r) }]

/-- Reads an asset. -/
def want (letters : Letters) : Except Fault (Asset × Letters) :=
  (wantRecord shape letters).map fun (record, rest) =>
    ({ name := record.name.getD "", url := record.url.getD "" }, rest)

end Asset

namespace Release

/-- The written form of a release. -/
def json (r : Release) : String :=
  object [("tag_name", quoted r.tag), ("assets", list (r.assets.map Asset.json))]

/-- A release as far as it is read. -/
structure Partial where
  tag : Option String := none
  assets : Option (List Asset) := none

/-- The fields of a release. -/
def shape : Shape Partial where
  name := "ReleaseDescriptor"
  start := {}
  fields := [
    { name := "tag_name"
      isSet := (·.tag.isSome)
      want := fun record letters =>
        (wantString letters).map fun (t, r) => ({ record with tag := some t }, r) },
    { name := "assets"
      optional := true
      isSet := (·.assets.isSome)
      want := fun record letters =>
        (wantList Asset.want letters).map fun (as, r) => ({ record with assets := some as }, r) }]

/-- Reads a release; one that tells no assets has none. -/
def want (letters : Letters) : Except Fault (Release × Letters) :=
  (wantRecord shape letters).map fun (record, rest) =>
    ({ tag := record.tag.getD "", assets := record.assets.getD [] }, rest)

/-- The release that a document tells. -/
def ofLetters (letters : Letters) : Except Fault Release :=
  decode want letters

/-- The release that a response body tells. -/
def ofBody (body : Bytes) : Except Fault Release :=
  ofLetters (Utf8.decode body)

/-- The assets whose names a pattern selects. -/
def matching (r : Release) (pattern : Pattern) : List Asset :=
  r.assets.filter fun a => pattern.selects a.name

end Release

end SignedUpgrade
