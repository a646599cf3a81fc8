import SignedUpgrade.Proofs.Tracing.Upgrade

/-!
# Deeds

What an updater does to the outside, apart from its reports, falls into **deeds**: each is one
action, carried out by one call of one party.  A fetch is one call, however many redirections it
follows.

* `Visit.isAct`, `acts` — the visits that are paid in order to act, and not in order to report;
* `Deed` — an action with the visits by which it was carried out;
* `Deed.CarriedOut` — which visits carry an action out;
* `Does` — a trace falls into deeds, and into nothing else.
-/

namespace SignedUpgrade

open Net

variable {σ : Type}

/-! ## Acts -/

/-- Whether a visit is paid in order to act, and not in order to report. -/
def Visit.isAct (v : Visit) : Bool :=
  match v.exchange with
  | .offer .. | .event _ => false
  | _ => true

/-- The visits that are paid in order to act. -/
def acts (vs : List Visit) : List Visit :=
  vs.filter Visit.isAct

/-- The action that an entry of the journal is about. -/
@[simp]
def Note.action? : Note → Option Action
  | action a => some a
  | event .. => none

/-- The actions of a journal. -/
def actionsOf (ns : List Note) : List Action :=
  ns.filterMap Note.action?

@[simp] lemma acts_nil : acts [] = [] := rfl

@[simp] lemma acts_append (vs us : List Visit) : acts (vs ++ us) = acts vs ++ acts us := by
  simp [acts]

@[simp] lemma acts_cons (v : Visit) (vs : List Visit) :
    acts (v :: vs) = if v.isAct then v :: acts vs else acts vs := by
  simp [acts, List.filter_cons]

@[simp] lemma actionsOf_nil : actionsOf [] = [] := rfl

@[simp] lemma actionsOf_append (ns os : List Note) :
    actionsOf (ns ++ os) = actionsOf ns ++ actionsOf os := by
  simp [actionsOf]

@[simp] lemma actionsOf_cons (n : Note) (ns : List Note) :
    actionsOf (n :: ns) = n.action?.toList ++ actionsOf ns := by
  cases n <;> rfl

@[simp] lemma isAct_witnessed (event : Event) (t : FileTree) :
    (witnessed event t).isAct = false := rfl

@[simp] lemma isAct_command (r : Resolver σ) (program : Path) (site : Site σ) :
    (r.commandVisit program site).isAct = true := rfl

@[simp] lemma isAct_inspection (e : Executor σ) (path : Path) (site : Site σ) :
    (inspectionVisit e path site).isAct = true := rfl

@[simp] lemma isAct_launch (e : Executor σ) (program : Path) (tail : String) (site : Site σ) :
    (launchVisit e program tail site).isAct = true := rfl

lemma acts_offered {event : Event} {r : Reporter σ} {vs : List Visit} (h : Offered event r vs) :
    acts vs = [] := by
  refine List.filter_eq_nil_iff.2 fun v mem => ?_
  obtain ⟨name, answer, offer⟩ := h.offers v mem
  simp [Visit.isAct, offer]

lemma Reported.acts {r : Reporter σ} {severity : Severity} {message : String} {ms : List Mark}
    (h : Reported r severity message ms) : acts (visitsOf ms) = [] := by
  obtain ⟨time, vs, t, offered, rfl⟩ := h
  simp [acts_offered offered]

/-- All visits of a fetch are paid in order to act. -/
lemma acts_fetched {n : Network σ} {accept url : String} {answer : Except String Response}
    {vs : List Visit} (h : Fetched n accept url answer vs) : acts vs = vs := by
  refine List.filter_eq_self.2 fun v mem => ?_
  obtain ⟨request, answer, ask⟩ := h.requests v mem
  simp [Visit.isAct, ask]

/-! ## Deeds -/

/-- An action with the visits by which it was carried out. -/
structure Deed where
  action : Action
  visits : List Visit

/-- An action is carried out by one call of the party that it needs. -/
inductive Deed.CarriedOut (u : Updater σ) : Deed → Prop where
  /-- The version command is asked for its version and given a minute. -/
  | versionCommand (program : Path) (site : Site σ) :
      CarriedOut u ⟨.versionCommand program, [u.resolver.commandVisit program site]⟩
  | feedRequest {answer : Except String Response} {vs : List Visit}
      (fetched : Fetched u.resolver.network Resolver.accept u.resolver.feedUrl answer vs) :
      CarriedOut u ⟨.feedRequest u.resolver.feedUrl, vs⟩
  | downloadRequest {url : String} {answer : Except String Response} {vs : List Visit}
      (fetched : Fetched u.executor.network Download.accept url answer vs) :
      CarriedOut u ⟨.downloadRequest url, vs⟩
  | inspection (path : Path) (site : Site σ) :
      CarriedOut u ⟨.inspection path, [inspectionVisit u.executor path site]⟩
  /-- The uninstaller asks nothing, works in place and is given all the time it needs. -/
  | uninstaller (site : Site σ) :
      CarriedOut u ⟨.uninstaller u.executor.uninstaller, [uninstallerVisit u.executor site]⟩
  /-- The installer asks nothing and is given all the time it needs. -/
  | installer (path : Path) (site : Site σ) :
      CarriedOut u ⟨.installer path, [installerVisit u.executor path site]⟩

/-- A trace falls into deeds: all acts are visits of the deeds, and the journal tells the same
actions in the same order. -/
structure Does (u : Updater σ) (ms : List Mark) (ds : List Deed) : Prop where
  acts : acts (visitsOf ms) = ds.flatMap (·.visits)
  journal : actionsOf (notesOf ms) = ds.map (·.action)
  carriedOut : ∀ d ∈ ds, d.CarriedOut u

namespace Does

variable {u : Updater σ} {ms ns : List Mark} {ds es : List Deed}

lemma nothing (acts : SignedUpgrade.acts (visitsOf ms) = [])
    (journal : actionsOf (notesOf ms) = []) : Does u ms [] :=
  ⟨by simpa using acts, by simpa using journal, by simp⟩

/-- What was done falls into the deeds of the first part and those of the second. -/
lemma append (h : Does u ms ds) (h' : Does u ns es) : Does u (ms ++ ns) (ds ++ es) := by
  refine ⟨?_, ?_, ?_⟩
  · simp [h.acts, h'.acts]
  · simp [h.journal, h'.journal]
  · intro d mem
    rcases List.mem_append.1 mem with mem | mem
    · exact h.carriedOut d mem
    · exact h'.carriedOut d mem

lemma one {d : Deed} (acts : SignedUpgrade.acts (visitsOf ms) = d.visits)
    (journal : actionsOf (notesOf ms) = [d.action]) (carriedOut : d.CarriedOut u) :
    Does u ms [d] :=
  ⟨by simpa using acts, by simpa using journal, by simpa using carriedOut⟩

/-- A report is no deed. -/
lemma reported {r : Reporter σ} {severity : Severity} {message : String}
    (h : Reported r severity message ms) : Does u ms [] := by
  refine nothing h.acts ?_
  obtain ⟨time, vs, t, _, rfl⟩ := h
  rw [notesOf_cons, notesOf_map_visit]
  rfl

/-- What comes after a mark that is no deed is all there is. -/
lemma cons {m : Mark} (visit : m.visit? = none) (note : m.note? = none) (h : Does u ms ds) :
    Does u (m :: ms) ds := by
  refine ⟨?_, ?_, h.carriedOut⟩
  · rw [visitsOf_cons, visit]
    exact h.acts
  · rw [notesOf_cons, note]
    exact h.journal

end Does

/-! ## The deeds of the steps -/

variable {u : Updater σ} {ms : List Mark}

lemma ReleaseTold.does {answer : Except Failure Release} (h : ReleaseTold u.resolver answer ms) :
    ∃ response vs, Fetched u.resolver.network Resolver.accept u.resolver.feedUrl response vs
      ∧ u.resolver.releaseOf response = answer
      ∧ Does u ms [⟨.feedRequest u.resolver.feedUrl, vs⟩] := by
  cases h with
  | @answered response vs fetched =>
    refine ⟨response, vs, fetched, rfl, .one ?_ ?_ (.feedRequest fetched)⟩
    · simp [acts_fetched fetched]
    · simp

/-- How the download of an asset can fail, and what was done until then. -/
inductive DownloadFails (u : Updater σ) (asset : Asset) : Failure → List Deed → Prop where
  | unsafeName (name : AssetName.isSafe asset.name = false) :
      DownloadFails u asset (.invalidAssetName asset.name) []
  | unanswered {reason : String} {vs : List Visit}
      (fetched : Fetched u.executor.network Download.accept asset.url (.error reason) vs) :
      DownloadFails u asset (Download.failed asset reason) [⟨.downloadRequest asset.url, vs⟩]
  | unsaved {response : Response} {vs : List Visit} {f : Failure}
      (fetched : Fetched u.executor.network Download.accept asset.url (.ok response) vs)
      (cause : (∃ fault, f = .io fault) ∨ f = Download.failed asset notDecoded) :
      DownloadFails u asset f [⟨.downloadRequest asset.url, vs⟩]

lemma Fetching.does_failed {directory : Path} {version : Version} {asset : Asset} {f : Failure}
    (h : Fetching u.executor directory version asset (.error f) ms) :
    ∃ ds, Does u ms ds ∧ DownloadFails u asset f ds := by
  cases h with
  | @failed _ start _ reported downloading =>
    cases downloading with
    | unsafeName name => exact ⟨[], by simpa using Does.reported reported, .unsafeName name⟩
    | @unanswered reason vs name fetched =>
      refine ⟨_, (Does.reported reported).append (.one ?_ ?_ (.downloadRequest fetched)),
        .unanswered fetched⟩
      · simp [acts_fetched fetched]
      · simp
    | @unsaved response vs _ t t' name fetched saving =>
      refine ⟨_, (Does.reported reported).append (.one ?_ ?_ (.downloadRequest fetched)),
        .unsaved fetched (saving.failed f rfl)⟩
      · simp [acts_fetched fetched]
      · simp

lemma Verifying.does_refused {path : Path} {f : Failure}
    (h : Verifying u.executor path (.error f) ms) :
    ∃ site, Does u ms [⟨.inspection path, [inspectionVisit u.executor path site]⟩]
      ∧ u.executor.verdict path (u.executor.inspector path site).1 = .error f := by
  cases h with
  | refused site verdict =>
    refine ⟨site, .one ?_ ?_ (.inspection path site), verdict⟩
    · simp
    · simp

lemma Installing.does {path : Path} {version : Version} {asset : Asset} {r : Except Failure Unit}
    (h : Installing u.executor path version asset r ms) :
    ∃ site, Does u ms [⟨.installer path, [installerVisit u.executor path site]⟩]
      ∧ installerEnding u.executor path asset site = r := by
  cases h with
  | ended site reported =>
    refine ⟨site, (Does.reported reported).append (.one ?_ ?_ (.installer path site)), rfl⟩
    · simp [installerVisit]
    · simp

/-- Removing a staging directory is no deed. -/
lemma Cleaned.does {directory : Path} (h : Cleaned directory ms) : Does u ms [] := by
  rcases h with ⟨t, t', _, rfl⟩ | ⟨t, rfl⟩
  · exact .nothing rfl rfl
  · exact .nothing rfl rfl

/-- The end of a call in a failure is no deed. -/
lemma Aborting.does {f : StepFailure} (h : Aborting u f ms) : Does u ms [] := by
  obtain ⟨told, reported, rfl⟩ := h
  exact (Does.reported reported).cons rfl rfl

/-! ## The deeds before an installation -/

/-- The installed version as far as it can be found out. -/
def Resolver.installed (r : Resolver σ) (program : Path) (site : Site σ) : Version :=
  match r.toldVersion program site with
  | .ok v => v
  | .error _ => .unknown

/-- The deeds before an installation. -/
def preparationDeeds (u : Updater σ) (program : Path) (site : Site σ) (vs : List Visit) :
    List Deed :=
  [⟨.versionCommand program, [u.resolver.commandVisit program site]⟩,
    ⟨.feedRequest u.resolver.feedUrl, vs⟩]

lemma VersionTold.does {v : Version} (h : VersionTold u.resolver v ms) :
    ∃ program site, v = u.resolver.installed program site
      ∧ Does u ms [⟨.versionCommand program, [u.resolver.commandVisit program site]⟩] := by
  have asked : ∀ t site, Does u (u.resolver.versionMarks t site)
      [⟨.versionCommand (u.resolver.program t),
        [u.resolver.commandVisit (u.resolver.program t) site]⟩] := by
    intro t site
    refine .one ?_ ?_ (.versionCommand _ site)
    · simp [Resolver.versionMarks]
    · simp [Resolver.versionMarks]
  cases h with
  | told site answer => exact ⟨_, site, by simp [Resolver.installed, answer], asked _ site⟩
  | untold site answer reported =>
    exact ⟨_, site, by simp [Resolver.installed, answer],
      (asked _ site).append (.reported reported)⟩

/-- Both versions are found out by one command and one request. -/
lemma VersionsTold.does {answer : Except Failure (Version × Release)}
    (h : VersionsTold u.resolver answer ms) :
    ∃ program site response vs, Does u ms (preparationDeeds u program site vs)
      ∧ Fetched u.resolver.network Resolver.accept u.resolver.feedUrl response vs
      ∧ answer = (u.resolver.releaseOf response).map fun release =>
          (u.resolver.installed program site, release) := by
  cases h with
  | failed version answer =>
    obtain ⟨program, site, _, first⟩ := version.does
    obtain ⟨response, vs, fetched, release, second⟩ := answer.does
    refine ⟨program, site, response, vs, first.append second, fetched, ?_⟩
    rw [release]
    rfl
  | tagged version answer =>
    obtain ⟨program, site, rfl, first⟩ := version.does
    obtain ⟨response, vs, fetched, release, second⟩ := answer.does
    refine ⟨program, site, response, vs, first.append second, fetched, ?_⟩
    rw [release]
    rfl
  | untagged version answer reported =>
    obtain ⟨program, site, rfl, first⟩ := version.does
    obtain ⟨response, vs, fetched, release, second⟩ := answer.does
    refine ⟨program, site, response, vs, first.append (second.append (.reported reported)),
      fetched, ?_⟩
    rw [release]
    rfl

/-- What a decision was made on. -/
inductive Prepared (u : Updater σ) : Except StepFailure Decision → List Deed → Prop where
  | noRelease {program : Path} {site : Site σ} {response : Except String Response} {vs : List Visit}
      {f : Failure}
      (fetched : Fetched u.resolver.network Resolver.accept u.resolver.feedUrl response vs)
      (release : u.resolver.releaseOf response = .error f) :
      Prepared u (.error ⟨.start, f⟩) (preparationDeeds u program site vs)
  | undecided {program : Path} {site : Site σ} {response : Except String Response}
      {vs : List Visit} {release : Release} {f : Failure}
      (fetched : Fetched u.resolver.network Resolver.accept u.resolver.feedUrl response vs)
      (released : u.resolver.releaseOf response = .ok release)
      (decision : release.decide u.resolver.pattern (u.resolver.installed program site)
        = .error f) :
      Prepared u (.error ⟨.versionChecked, f⟩) (preparationDeeds u program site vs)
  | decided {program : Path} {site : Site σ} {response : Except String Response}
      {vs : List Visit} {release : Release} {decision : Decision}
      (fetched : Fetched u.resolver.network Resolver.accept u.resolver.feedUrl response vs)
      (released : u.resolver.releaseOf response = .ok release)
      (decided : release.decide u.resolver.pattern (u.resolver.installed program site)
        = .ok decision) :
      Prepared u (.ok decision) (preparationDeeds u program site vs)

lemma Prepared.eq_preparationDeeds {result : Except StepFailure Decision} {ds : List Deed}
    (h : Prepared u result ds) : ∃ program site vs, ds = preparationDeeds u program site vs := by
  cases h with
  | noRelease | undecided | decided => exact ⟨_, _, _, rfl⟩

/-- Without a release there is nothing to decide on. -/
lemma VersionsTold.prepared_failed {f : Failure} (h : VersionsTold u.resolver (.error f) ms) :
    ∃ ds, Does u ms ds ∧ Prepared u (.error ⟨.start, f⟩) ds := by
  obtain ⟨program, site, response, vs, does, fetched, answer⟩ := h.does
  cases released : u.resolver.releaseOf response with
  | ok release => simp [released, Except.map] at answer
  | error f =>
    simp only [released, Except.map, Except.error.injEq] at answer
    rw [answer]
    exact ⟨_, does, .noRelease fetched released⟩

/-- With both versions, the decision is made on them. -/
lemma VersionsTold.prepared {current : Version} {release : Release}
    (h : VersionsTold u.resolver (.ok (current, release)) ms) :
    ∃ ds, Does u ms ds
      ∧ (∀ f, release.decide u.resolver.pattern current = .error f →
          Prepared u (.error ⟨.versionChecked, f⟩) ds)
      ∧ ∀ decision, release.decide u.resolver.pattern current = .ok decision →
          Prepared u (.ok decision) ds := by
  obtain ⟨program, site, response, vs, does, fetched, answer⟩ := h.does
  cases released : u.resolver.releaseOf response with
  | error f => simp [released, Except.map] at answer
  | ok release =>
    simp only [released, Except.map, Except.ok.injEq, Prod.mk.injEq] at answer
    obtain ⟨rfl, rfl⟩ := answer
    refine ⟨_, does, ?_, ?_⟩
    · intro f decision
      exact .undecided fetched released decision
    · intro decision decided
      exact .decided fetched released decided

/-- A decision is made on one command and one request, and so is the failure to make it. -/
lemma Resolving.does {answer : Except Failure Decision} (h : Resolving u answer ms) :
    ∃ result ds, answer = result.mapError (·.failure) ∧ Does u ms ds ∧ Prepared u result ds := by
  cases h with
  | noRelease versions aborting =>
    obtain ⟨ds, does, prepared⟩ := versions.prepared_failed
    refine ⟨_, ds, rfl, .cons rfl rfl ?_, prepared⟩
    simpa using does.append aborting.does
  | undecided versions decision aborting =>
    obtain ⟨ds, does, prepared, _⟩ := versions.prepared
    refine ⟨_, ds, rfl, .cons rfl rfl ?_, prepared _ decision⟩
    simpa using does.append (aborting.does.cons rfl rfl)
  | decided versions decided =>
    obtain ⟨ds, does, _, prepared⟩ := versions.prepared
    refine ⟨_, ds, rfl, .cons rfl rfl ?_, prepared _ decided⟩
    simpa using does.append (.nothing rfl rfl)

end SignedUpgrade
