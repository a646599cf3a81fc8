import SignedUpgrade.Audit.Reporter
import SignedUpgrade.Json.Write
import SignedUpgrade.Net.Client
import SignedUpgrade.Release.Basic
import SignedUpgrade.Rehearsal.Cast
import SignedUpgrade.Signature.Inspector

/-!
# The stage of a rehearsal

On a stage every party of an upgrade is played, and what was asked of each of them is kept.

* `Stage` — the casts of programs, the memories of events, the servers and the records of all;
* `Stage.runner`, `Stage.inspector`, `Stage.network`, `Stage.memory` — the parties;
* `Release.announcement` — a release as a feed of the rehearsal tells it.
-/

namespace SignedUpgrade.Rehearsal

open Json Net Text

/-- What a server of a rehearsal does with the requests for one address. -/
inductive Route where
  /-- It closes the connection without a response. -/
  | close
  /-- It never responds. -/
  | hang
  | respond (r : Net.Response)
  deriving Repr

/-- The parties of a rehearsal and what was asked of them. -/
structure Stage where
  casts : List Cast := []
  memories : List (List Event) := []
  /-- The files that a rehearsed inspector was given. -/
  inspected : List Path := []
  /-- Whether the servers can be reached at all. -/
  online : Bool := true
  routes : List (String × Route) := []
  requests : List Request := []

namespace Stage

/-- A cast of the stage. -/
def cast (stage : Stage) (i : Nat) : Cast :=
  (stage.casts[i]?).getD {}

/-- The stage with another cast in the place of one. -/
def withCast (stage : Stage) (i : Nat) (cast : Cast) : Stage :=
  { stage with casts := stage.casts.set i cast }

/-- Makes a call to a cast of the stage. -/
def call (i : Nat) (c : Call) (site : Site Stage) : Except Failure Output × Site Stage :=
  let cast := site.outside.cast i
  let (result, after) := cast.answer c
  (result, { site with
    files := cast.effectsOf c.program site.files
    outside := site.outside.withCast i after })

/-- The runner that starts the programs of a cast. -/
def runner (i : Nat) : Runner Stage where
  run program arguments limit := call i { program, arguments, limit }
  runWithTail program arguments tail limit :=
    call i { program, arguments, tail := some tail, limit }

/-- A runner that knows no tails. -/
def plainRunner (i : Nat) : Runner Stage where
  run := (runner i).run

/-- The inspector that has the same report on every file. -/
def inspector (report : SignatureReport) : Inspector Stage := fun path site =>
  let outside := site.outside
  (.ok report, { site with outside := { outside with inspected := outside.inspected ++ [path] } })

/-- A report on a file with a good signature. -/
def goodReport (key : Bytes) : SignatureReport where
  status := .valid
  message := "Signature verified."
  subject := some "CN=Electronic Frontier Foundation"
  signerKey := some key

/-- A report on a file that failed the check. -/
def badReport (status : SignatureStatus) : SignatureReport where
  status
  message := "Signature check failed."
  subject := none
  signerKey := none

/-- The sink of one of the memories. -/
def memory (i : Nat) : Sink Stage :=
  .memory fun event stage =>
    { stage with memories := stage.memories.set i ((stage.memories[i]?).getD [] ++ [event]) }

/-- A sink that keeps nothing. -/
def brokenSink : Sink Stage where
  name := "broken"
  record _ site := (.error (.configuration (.stated "sink unavailable")), site)

/-- What becomes of a request. -/
def responseTo (stage : Stage) (request : Request) : Answer :=
  match stage.routes.lookup request.url with
  | none => .response { status := 404 }
  | some .close => .refused
  | some .hang => .silent
  | some (.respond r) => .response r

/-- The servers of the stage. -/
def network : Network Stage := fun request site =>
  let stage := site.outside
  if stage.online then
    (stage.responseTo request,
      { site with outside := { stage with requests := stage.requests ++ [request] } })
  else (.refused, site)

end Stage

end SignedUpgrade.Rehearsal

namespace SignedUpgrade.Release

open Json

/-- An asset in an announcement. -/
def announcedAsset (a : Asset) : String :=
  object [("browser_download_url", quoted a.url), ("name", quoted a.name)]

/-- A release as a feed of a rehearsal tells it. -/
def announcement (r : Release) : String :=
  object [("assets", list (r.assets.map announcedAsset)), ("name", quoted ("Certbot " ++ r.tag)),
    ("tag_name", quoted r.tag)]

end SignedUpgrade.Release
