import SignedUpgrade.Release.Basic
import SignedUpgrade.Version

/-!
# The decision on an upgrade

The installed version is compared with the one that the tag of the latest release holds.

* `Decision` — to do nothing, or to install an asset;
* `decide` — the decision, which fails where it is not clear which asset is the installer.
-/

namespace SignedUpgrade

/-- What to do about a release. -/
inductive Decision where
  /-- The installed version is not older than the release. -/
  | noActionNeeded (current latest : Version)
  /-- The release is newer and has one installer. -/
  | upgradeTo (current version : Version) (installer : Asset)
  deriving DecidableEq, Repr

namespace Decision

/-- A decision in one line. -/
def text : Decision → String
  | .noActionNeeded current latest =>
    "Certbot " ++ current.text ++ " is up to date (latest is " ++ latest.text ++ ")"
  | .upgradeTo current version installer =>
    "Certbot " ++ current.text ++ " can be upgraded to " ++ version.text ++ " using "
      ++ installer.name

end Decision

namespace Release

/-- The decision on a release.  A tag without a version counts as the lowest version, so it never
leads to an upgrade; assets matter only for a newer release, of which exactly one has to be the
installer. -/
def decide (r : Release) (pattern : Pattern) (current : Version) : Except Failure Decision :=
  let latest := Version.extractOrUnknown r.tag
  if latest ≤ current then .ok (.noActionNeeded current latest)
  else match r.matching pattern with
    | [installer] => .ok (.upgradeTo current latest installer)
    | [] => .error (.noInstallerAsset r.tag pattern.text)
    | several => .error (.ambiguousInstallerAsset r.tag pattern.text several.length)

end Release

end SignedUpgrade
