import SignedUpgrade.Upgrade.Updater
import Mathlib.Tactic.Lemma

/-!
# Watching the parties of an updater

What an updater does to the outside can be seen only where it turns to one of its parties.  A
**watched** party answers and acts exactly as the party itself; beside that, every visit to it is
taken down, with the question, the answer and the files before and after.

* `Visit` — one visit to a party;
* `watch` — lets a party act and takes the visit down;
* `Updater.watched` — the updater all of whose parties are watched.  One more sink stands behind
  its sinks, the **witness**, which takes down every event that is reported;
* `Updater.history`, `Updater.checkHistory` — the visits of one run and of one check, in order.

The history is kept in the state of the outside, where neither the updater nor any party can reach
it.
-/

namespace SignedUpgrade

open Net

/-! ## Visits -/

/-- What a party was asked and what it answered. -/
inductive Exchange where
  /-- A program was started. -/
  | command (program : Path) (arguments : List String) (limit : Option Nat)
      (answer : Except Failure Output)
  /-- A program was started with a last argument that is not quoted. -/
  | tailCommand (program : Path) (arguments : List String) (tail : String) (limit : Option Nat)
      (answer : Except Failure Output)
  /-- A request went out to the network. -/
  | request (request : Request) (answer : Answer)
  /-- An inspector looked at a file. -/
  | inspection (path : Path) (answer : Except Failure SignatureReport)
  /-- A sink was offered an event. -/
  | offer (sink : String) (event : Event) (answer : Except Failure Unit)
  /-- The witness took an event down. -/
  | event (event : Event)

/-- One visit to a party: the exchange, and the files before and after. -/
structure Visit where
  exchange : Exchange
  before : FileTree
  after : FileTree

/-- The state of an outside that is watched. -/
structure Watched (σ : Type) where
  inner : σ
  history : List Visit := []

variable {σ : Type}

/-- A watched site as the parties see it. -/
def Site.bare (site : Site (Watched σ)) : Site σ where
  files := site.files
  outside := site.outside.inner
  log := site.log

/-- Lets a party act and takes the visit down. -/
def watch {α : Type} (party : Site σ → α × Site σ) (exchange : α → Exchange)
    (site : Site (Watched σ)) : α × Site (Watched σ) :=
  let (answer, after) := party site.bare
  let visit : Visit :=
    { exchange := exchange answer, before := site.files, after := after.files }
  (answer, {
    files := after.files
    outside := { inner := after.outside, history := site.outside.history ++ [visit] }
    log := after.log })

/-! ## Watched parties -/

/-- A runner that is watched. -/
def Runner.watched (r : Runner σ) : Runner (Watched σ) where
  run program arguments limit :=
    watch (r.run program arguments limit) (.command program arguments limit)
  runWithTail program arguments tail limit :=
    watch (r.runWithTail program arguments tail limit) (.tailCommand program arguments tail limit)

/-- A network that is watched. -/
def Net.Network.watched (n : Network σ) : Network (Watched σ) := fun request =>
  watch (n request) (.request request)

/-- An inspector that is watched. -/
def Inspector.watched (i : Inspector σ) : Inspector (Watched σ) := fun path =>
  watch (i path) (.inspection path)

/-- A sink that is watched. -/
def Sink.watched (s : Sink σ) : Sink (Watched σ) where
  name := s.name
  record event := watch (s.record event) (.offer s.name event)

/-- The sink that takes every event down and does nothing else. -/
def Sink.witness : Sink (Watched σ) where
  name := "witness"
  record event := watch (fun site => (.ok (), site)) fun _ => .event event

/-- Watched sinks, with the witness behind them. -/
def Reporter.watched (r : Reporter σ) : Reporter (Watched σ) :=
  r.map Sink.watched ++ [Sink.witness]

/-- A resolver whose parties are watched. -/
def Resolver.watched (r : Resolver σ) : Resolver (Watched σ) where
  runner := r.runner.watched
  network := Network.watched r.network
  reporter := r.reporter.watched
  command := r.command
  feedUrl := r.feedUrl
  pattern := r.pattern
  wording := r.wording
  searchPath := r.searchPath

/-- An executor whose parties are watched. -/
def Executor.watched (e : Executor σ) : Executor (Watched σ) where
  runner := e.runner.watched
  network := Network.watched e.network
  inspector := Inspector.watched e.inspector
  reporter := e.reporter.watched
  trustedKey := e.trustedKey
  installDirectory := e.installDirectory
  stagingParent := e.stagingParent

/-- An updater whose parties are watched. -/
def Updater.watched (u : Updater σ) : Updater (Watched σ) where
  resolver := u.resolver.watched
  executor := u.executor.watched
  reporter := u.reporter.watched

/-! ## Worlds with a history -/

namespace World

/-- A watched world as it is without the history. -/
def bare (w : World (Watched σ)) : World σ :=
  { w with toSite := w.toSite.bare }

/-- A world in which nothing was watched so far. -/
def watched (w : World σ) : World (Watched σ) :=
  { w with toSite := { files := w.files, outside := { inner := w.outside }, log := w.log } }

/-- The visits so far. -/
def history (w : World (Watched σ)) : List Visit :=
  w.outside.history

end World

/-- The visits that a check pays to the parties, in order. -/
def Updater.checkHistory (u : Updater σ) (w : World σ) : List Visit :=
  (u.watched.check.outcome w.watched).2.history

/-- The visits that a run pays to the parties, in order. -/
def Updater.history (u : Updater σ) (w : World σ) : List Visit :=
  (u.watched.run.outcome w.watched).2.history

end SignedUpgrade
