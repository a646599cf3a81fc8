import SignedUpgrade.Proofs.Files.Reach
import SignedUpgrade.Proofs.Upgrade.Gate

/-!
# The conduct of an updater

The parties of an updater may do what they like with the files.  What the updater does itself is
little, and each mark of a trace shows either a visit to one of its parties or one of four changes.

* `Paid` — the visits that an updater pays;
* `OwnChange` — the changes that it makes itself;
* `Conduct` — traces of such visits and changes, in which a change may depend on the visit before;
* `Running.conduct` — every run is conducted like this.
-/

namespace SignedUpgrade

open Net Text

variable {σ : Type}

/-! ## Visits and changes -/

/-- All sinks that an updater reports to. -/
def Updater.sinks (u : Updater σ) : Reporter σ :=
  u.resolver.reporter ++ u.executor.reporter ++ u.reporter

/-- The visits that an updater pays. -/
inductive Paid (u : Updater σ) : Visit → Prop where
  | offer {sink : Sink σ} (mem : sink ∈ u.sinks) (event : Event) (site : Site σ) :
      Paid u (.of (sink.record event) (.offer sink.name event) site)
  | witnessed (event : Event) (t : FileTree) : Paid u (witnessed event t)
  | version (program : Path) (site : Site σ) : Paid u (u.resolver.commandVisit program site)
  | feed (request : Request) (site : Site σ) :
      Paid u (.of (u.resolver.network request) (.request request) site)
  | download (request : Request) (site : Site σ) :
      Paid u (.of (u.executor.network request) (.request request) site)
  | inspection (path : Path) (site : Site σ) : Paid u (inspectionVisit u.executor path site)
  | launch (program : Path) (tail : String) (site : Site σ) :
      Paid u (launchVisit u.executor program tail site)

/-- The changes that an executor makes itself, after a visit. -/
inductive OwnChange (e : Executor σ) (name : String) (last : Option Visit) (t t' : FileTree) :
    Prop where
  /-- The staging directory is made. -/
  | staged (creation : t.createDirectories (e.stagingDirectory name) = .ok t')
  /-- An asset is saved in it. -/
  | saved {asset : String} (safe : AssetName.isSafe asset = true)
      (writes : FileTree.Writes ((e.stagingDirectory name).join asset) t t')
  /-- It is removed with everything in it. -/
  | discarded (removal : t.removeAll (e.stagingDirectory name) = .ok t')
  /-- The uninstaller is removed, right after it succeeded. -/
  | uninstalled (site : Site σ) (just : last = some (uninstallerVisit e site))
      (ended : uninstallerEnding e site = .ok ()) (removal : t.removeFile e.uninstaller = .ok t')

/-! ## Conduct -/

variable (u : Updater σ) (name : String)

/-- What a mark may show after a visit. -/
def Mark.Fits (last : Option Visit) : Mark → Prop
  | visit v => Paid u v
  | change t t' => OwnChange u.executor name last t t'
  | _ => True

/-- The marks of a trace fit, each of them after the last visit before it. -/
def Fitting : Option Visit → List Mark → Prop
  | _, [] => True
  | last, m :: ms => m.Fits u name last ∧ Fitting (m.visit?.or last) ms

/-- A trace fits, whatever visit came before. -/
def Conduct (ms : List Mark) : Prop :=
  ∀ last, Fitting u name last ms

variable {u name} {ms ns : List Mark}

namespace Conduct

lemma nil : Conduct u name [] :=
  fun _ => trivial

lemma cons {m : Mark} (fits : ∀ last, m.Fits u name last) (h : Conduct u name ms) :
    Conduct u name (m :: ms) :=
  fun last => ⟨fits last, h _⟩

/-- Traces that fit in any place can be put one behind the other. -/
lemma append (h : Conduct u name ms) (h' : Conduct u name ns) : Conduct u name (ms ++ ns) := by
  intro last
  have all := h last
  clear h
  induction ms generalizing last with
  | nil => exact h' last
  | cons m ms ih => exact ⟨all.1, ih _ all.2⟩

lemma visits {vs : List Visit} (paid : ∀ v ∈ vs, Paid u v) : Conduct u name (vs.map .visit) := by
  induction vs with
  | nil => exact nil
  | cons v vs ih =>
    exact cons (fun _ => paid v List.mem_cons_self)
      (ih fun v mem => paid v (List.mem_cons_of_mem _ mem))

end Conduct

/-! ## The conduct of the steps -/

/-- The visits of a report are paid to the sinks of the reporter. -/
lemma Offered.sinks {event : Event} {r : Reporter σ} {vs : List Visit} (h : Offered event r vs) :
    ∀ v ∈ vs, ∃ sink ∈ r, ∃ site, v = .of (sink.record event) (.offer sink.name event) site := by
  induction h with
  | nil => simp
  | cons site _ ih =>
    intro v mem
    rcases List.mem_cons.1 mem with rfl | mem
    · exact ⟨_, List.mem_cons_self, site, rfl⟩
    · obtain ⟨sink, known, visit⟩ := ih v mem
      exact ⟨sink, List.mem_cons_of_mem _ known, visit⟩

/-- The offers of an event to sinks of the updater are visits that it pays. -/
lemma Offered.paid {event : Event} {r : Reporter σ} {vs : List Visit} (h : Offered event r vs)
    (sinks : ∀ sink ∈ r, sink ∈ u.sinks) : ∀ v ∈ vs, Paid u v := by
  intro v mem
  obtain ⟨sink, known, site, rfl⟩ := h.sinks v mem
  exact .offer (sinks sink known) event site

/-- A report to sinks of the updater changes nothing. -/
lemma Reported.conduct {r : Reporter σ} {severity : Severity} {message : String}
    (h : Reported r severity message ms) (sinks : ∀ sink ∈ r, sink ∈ u.sinks) :
    Conduct u name ms := by
  obtain ⟨time, vs, t, offered, rfl⟩ := h
  refine .cons (fun _ => trivial) (.visits fun v mem => ?_)
  rcases List.mem_append.1 mem with mem | mem
  · exact offered.paid sinks v mem
  · rw [List.mem_singleton.1 mem]
    exact .witnessed _ t

lemma Updater.resolver_sinks (u : Updater σ) : ∀ sink ∈ u.resolver.reporter, sink ∈ u.sinks :=
  fun _ mem => List.mem_append_left _ (List.mem_append_left _ mem)

lemma Updater.executor_sinks (u : Updater σ) : ∀ sink ∈ u.executor.reporter, sink ∈ u.sinks :=
  fun _ mem => List.mem_append_left _ (List.mem_append_right _ mem)

lemma Updater.reporter_sinks (u : Updater σ) : ∀ sink ∈ u.reporter, sink ∈ u.sinks :=
  fun _ mem => List.mem_append_right _ mem

/-- Each visit of a fetch is paid to the network that is asked. -/
lemma Net.Asked.asks {n : Network σ} {accept : String} {redirects : Nat} {url : Url}
    {answer : Except String Response} {vs : List Visit}
    (h : Asked n accept redirects url answer vs) :
    ∀ v ∈ vs, ∃ url site, v = askVisit n accept url site := by
  induction h with
  | unaskable => simp
  | @refused _ url site | @silent _ url site | @last _ url _ site | @exhausted url _ _ site =>
    intro v mem
    exact ⟨url, site, List.mem_singleton.1 mem⟩
  | @redirected _ url _ _ _ _ site _ _ _ _ ih =>
    intro v mem
    rcases List.mem_cons.1 mem with rfl | mem
    · exact ⟨url, site, rfl⟩
    · exact ih v mem

lemma Net.Fetched.asks {n : Network σ} {accept url : String} {answer : Except String Response}
    {vs : List Visit} (h : Fetched n accept url answer vs) :
    ∀ v ∈ vs, ∃ url site, v = askVisit n accept url site := by
  cases h with
  | noAddress => simp
  | failed _ asked => exact asked.asks
  | answered _ asked => exact asked.asks

/-- The visits of a download are paid. -/
lemma Net.Fetched.paid {accept url : String} {answer : Except String Response} {vs : List Visit}
    (h : Fetched u.executor.network accept url answer vs) : ∀ v ∈ vs, Paid u v := by
  intro v mem
  obtain ⟨url, site, rfl⟩ := h.asks v mem
  exact .download _ site

lemma Downloading.conduct {asset : Asset} {r : Except Failure Downloaded}
    (h : Downloading u.executor.network asset (u.executor.stagingDirectory name) r ms) :
    Conduct u name ms := by
  have saves : ∀ {vs : List Visit} {body : Body} {r : Except Failure Download.Received}
      {t t' : FileTree}, (∀ v ∈ vs, Paid u v) → AssetName.isSafe asset.name = true →
      Saving asset ((u.executor.stagingDirectory name).join asset.name) body r t t' →
      Conduct u name (.note (.action (.downloadRequest asset.url))
        :: (vs.map .visit ++ [.change t t'])) := by
    intro vs body r t t' paid safe saving
    refine .cons (fun _ => trivial) ((Conduct.visits paid).append ?_)
    exact .cons (fun _ => .saved safe saving.writes) .nil
  cases h with
  | unsafeName => exact .nil
  | unanswered _ fetched => exact .cons (fun _ => trivial) (.visits fetched.paid)
  | unsaved safe fetched saving => exact saves fetched.paid safe saving
  | saved safe fetched saving => exact saves fetched.paid safe saving

lemma Fetching.conduct {version : Version} {asset : Asset} {r : Except Failure Downloaded}
    (h : Fetching u.executor (u.executor.stagingDirectory name) version asset r ms) :
    Conduct u name ms := by
  cases h with
  | failed reported downloading =>
    exact (reported.conduct u.executor_sinks).append downloading.conduct
  | fetched reported downloading told =>
    exact (reported.conduct u.executor_sinks).append
      (downloading.conduct.append (told.conduct u.executor_sinks))

lemma Verifying.conduct {path : Path} {r : Except Failure Unit}
    (h : Verifying u.executor path r ms) : Conduct u name ms := by
  cases h with
  | refused site =>
    exact .cons (fun _ => trivial) (.cons (fun _ => .inspection path site) .nil)
  | accepted site _ told =>
    exact .cons (fun _ => trivial)
      (.cons (fun _ => .inspection path site) (told.conduct u.executor_sinks))

/-- The uninstaller is removed with no visit between its end and the removal. -/
lemma Uninstalling.conduct {r : Except Failure Unit} (h : Uninstalling u.executor r ms) :
    Conduct u name ms := by
  have launches : ∀ site rest, (∀ last, last = some (uninstallerVisit u.executor site) →
      Fitting u name last rest) → Conduct u name (uninstallerMarks u.executor site ++ rest) := by
    intro site rest fits last
    exact ⟨trivial, .launch _ _ site, fits _ rfl⟩
  cases h with
  | failed site reported ending =>
    refine (reported.conduct u.executor_sinks).append ?_
    simpa using launches site [] fun _ _ => trivial
  | removed site reported ending removal =>
    refine (reported.conduct u.executor_sinks).append (launches site _ fun last just => ?_)
    exact ⟨.uninstalled site just ending removal, trivial⟩
  | gone site reported | kept site reported =>
    exact (reported.conduct u.executor_sinks).append
      (launches site _ fun _ _ => ⟨trivial, trivial⟩)

lemma OldUninstalled.conduct {r : Except Failure Unit} (h : OldUninstalled u.executor r ms) :
    Conduct u name ms := by
  cases h with
  | present _ uninstalling => exact .cons (fun _ => trivial) uninstalling.conduct
  | absent _ reported => exact .cons (fun _ => trivial) (reported.conduct u.executor_sinks)

lemma Installing.conduct {path : Path} {version : Version} {asset : Asset}
    {r : Except Failure Unit} (h : Installing u.executor path version asset r ms) :
    Conduct u name ms := by
  cases h with
  | ended site reported =>
    exact (reported.conduct u.executor_sinks).append
      (.cons (fun _ => trivial) (.cons (fun _ => .launch _ _ site) .nil))

lemma Stepping.conduct {version : Version} {asset : Asset} {r : Except StepFailure Unit}
    (h : Stepping u.executor (u.executor.stagingDirectory name) version asset r ms) :
    Conduct u name ms := by
  cases h with
  | unfetched fetching => exact fetching.conduct
  | unverified fetching verifying => exact fetching.conduct.append verifying.conduct
  | notUninstalled fetching verifying uninstalled =>
    exact fetching.conduct.append (verifying.conduct.append uninstalled.conduct)
  | notInstalled fetching verifying uninstalled installing =>
    exact fetching.conduct.append
      (verifying.conduct.append (uninstalled.conduct.append installing.conduct))
  | installed fetching verifying uninstalled installing reported =>
    exact fetching.conduct.append (verifying.conduct.append (uninstalled.conduct.append
      (installing.conduct.append (reported.conduct u.executor_sinks))))

lemma Cleaned.conduct (h : Cleaned (u.executor.stagingDirectory name) ms) :
    Conduct u name ms := by
  rcases h with ⟨t, t', removal, rfl⟩ | ⟨t, rfl⟩
  · exact .cons (fun _ => .discarded removal) .nil
  · exact .cons (fun _ => trivial) .nil

/-- The name of the staging directory is the one that is handed out next. -/
lemma Executing.conduct {s s' : Scene} {version : Version} {asset : Asset}
    {r : Except StepFailure Unit} (h : Executing u.executor version asset r ms)
    (leads : Leads s ms s') : Conduct u (s.names s.namesUsed) ms := by
  cases h with
  | unstaged => exact .cons (fun _ => trivial) (.cons (fun _ => trivial) .nil)
  | staged creation stepping cleaned =>
    obtain ⟨_, ⟨rfl, _⟩, _⟩ := leads.uncons
    exact .cons (fun _ => trivial) (.cons (fun _ => .staged creation)
      (stepping.conduct.append cleaned.conduct))

lemma VersionTold.conduct {v : Version} (h : VersionTold u.resolver v ms) :
    Conduct u name ms := by
  have asked : ∀ t site, Conduct u name (u.resolver.versionMarks t site) := fun _ site =>
    .cons (fun _ => trivial)
      (.cons (fun _ => trivial) (.cons (fun _ => .version _ site) .nil))
  cases h with
  | told site => exact asked _ site
  | untold site _ reported => exact (asked _ site).append (reported.conduct u.resolver_sinks)

lemma ReleaseTold.conduct {answer : Except Failure Release} (h : ReleaseTold u.resolver answer ms) :
    Conduct u name ms := by
  cases h with
  | answered fetched =>
    refine .cons (fun _ => trivial) (.visits fun v mem => ?_)
    obtain ⟨url, site, rfl⟩ := fetched.asks v mem
    exact .feed _ site

lemma VersionsTold.conduct {answer : Except Failure (Version × Release)}
    (h : VersionsTold u.resolver answer ms) : Conduct u name ms := by
  cases h with
  | failed version answer | tagged version answer => exact version.conduct.append answer.conduct
  | untagged version answer reported =>
    exact version.conduct.append (answer.conduct.append (reported.conduct u.resolver_sinks))

lemma Aborting.conduct {f : StepFailure} (h : Aborting u f ms) : Conduct u name ms := by
  obtain ⟨told, reported, rfl⟩ := h
  exact .cons (fun _ => trivial) (reported.conduct u.reporter_sinks)

lemma Resolving.conduct {answer : Except Failure Decision} (h : Resolving u answer ms) :
    Conduct u name ms := by
  cases h with
  | noRelease versions aborting =>
    exact .cons (fun _ => trivial) (versions.conduct.append aborting.conduct)
  | undecided versions _ aborting =>
    exact .cons (fun _ => trivial)
      (versions.conduct.append (.cons (fun _ => trivial) aborting.conduct))
  | decided versions =>
    exact .cons (fun _ => trivial) (versions.conduct.append (.cons (fun _ => trivial) .nil))

/-- **Every run is conducted like this**, with one of the fresh names for its staging directory. -/
theorem Running.conduct {s s' : Scene} {r : Except Failure Outcome} (h : Running u r ms)
    (leads : Leads s ms s') : ∃ i, Conduct u (s.names i) ms := by
  have installs : ∀ {version : Version} {asset : Asset} {r : Except StepFailure Unit}
      {start ns told os rest : List Mark}, Executing u.executor version asset r os →
      Leads s (start ++ (ns ++ (told ++ .enter .downloading :: (os ++ rest)))) s' →
      ∃ i, Conduct u (s.names i) os := by
    intro version asset r start ns told os rest executing leads
    rw [← List.append_assoc, ← List.append_assoc] at leads
    obtain ⟨_, before, rest⟩ := leads.split
    obtain ⟨s₁, entered, rest⟩ := rest.uncons
    obtain ⟨_, steps, _⟩ := rest.split
    have names : s₁.names = s.names := by
      rw [(entered : s₁ = _)]
      exact before.names_eq
    rw [← names]
    exact ⟨_, executing.conduct steps⟩
  cases h with
  | failed started resolving =>
    exact ⟨0, (started.conduct u.reporter_sinks).append resolving.conduct⟩
  | upToDate started resolving reported =>
    exact ⟨0, (started.conduct u.reporter_sinks).append (resolving.conduct.append
      (.cons (fun _ => trivial) (reported.conduct u.reporter_sinks)))⟩
  | notInstalled started resolving reported executing aborting =>
    obtain ⟨i, conduct⟩ := installs executing leads
    exact ⟨i, (started.conduct u.reporter_sinks).append (resolving.conduct.append
      ((reported.conduct u.reporter_sinks).append
        (.cons (fun _ => trivial) (conduct.append aborting.conduct))))⟩
  | installed started resolving reported executing =>
    obtain ⟨i, conduct⟩ := installs executing leads
    exact ⟨i, (started.conduct u.reporter_sinks).append (resolving.conduct.append
      ((reported.conduct u.reporter_sinks).append
        (.cons (fun _ => trivial) (conduct.append (.cons (fun _ => trivial) .nil)))))⟩

end SignedUpgrade
