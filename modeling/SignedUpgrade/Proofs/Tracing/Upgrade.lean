import SignedUpgrade.Proofs.Tracing.Installation
import SignedUpgrade.Proofs.Watching.Transparent

/-!
# The trace of an upgrade

Before anything is installed the versions are compared, and a decision is made.  The relations
follow the calls of an updater down to the installation, and give for each result the traces that
lead to it.

* `VersionTold` — the installed version is found out;
* `ReleaseTold` — the latest release is found out;
* `VersionsTold` — both of them;
* `Resolving` — the decision is made;
* `Checking`, `Running` — the two calls of an updater;
* `CarryingOut` — what a run does about a decision;
* `Traced` — how a trace tells what a call of the updater itself, which is not watched, has changed.
-/

namespace SignedUpgrade

open Net

variable {σ : Type}

/-! ## Versions -/

namespace Resolver

variable (r : Resolver σ)

/-- The program that tells the installed version. -/
def program (t : FileTree) : Path :=
  (t.program? r.searchPath r.command).getD r.command

/-- The visit that a runner gets for the installed version. -/
def commandVisit (program : Path) (site : Site σ) : Visit :=
  .of (r.runner.run program ["--version"] (some versionLimit))
    (.command program ["--version"] (some versionLimit)) site

/-- The version that a program tells at a site. -/
def toldVersion (program : Path) (site : Site σ) : Except Failure Version :=
  (r.runner.run program ["--version"] (some versionLimit) site).1.bind (versionOf r.command)

/-- The marks of asking for the installed version. -/
def versionMarks (t : FileTree) (site : Site σ) : List Mark :=
  [.look t, .note (.action (.versionCommand (r.program t))),
    .visit (r.commandVisit (r.program t) site)]

/-- What is reported where the installed version cannot be found out. -/
def untoldText (f : Failure) : String :=
  "Could not determine the installed Certbot version, assuming 0.0.0: " ++ f.message

/-- What is reported about a tag without a version. -/
def untaggedText (release : Release) : String :=
  "Release tag '" ++ release.tag ++ "' does not contain a version, treating it as 0.0.0"

end Resolver

/-- The trace of finding out the installed version. -/
inductive VersionTold (r : Resolver σ) : Version → List Mark → Prop where
  | told {v : Version} {t : FileTree} (site : Site σ)
      (answer : r.toldVersion (r.program t) site = .ok v) : VersionTold r v (r.versionMarks t site)
  | untold {f : Failure} {t : FileTree} {warned : List Mark} (site : Site σ)
      (answer : r.toldVersion (r.program t) site = .error f)
      (reported : Reported r.reporter .warning (Resolver.untoldText f) warned) :
      VersionTold r .unknown (r.versionMarks t site ++ warned)

/-- The trace of finding out the latest release. -/
inductive ReleaseTold (r : Resolver σ) : Except Failure Release → List Mark → Prop where
  | answered {answer : Except String Response} {vs : List Visit}
      (fetched : Fetched r.network Resolver.accept r.feedUrl answer vs) :
      ReleaseTold r (r.releaseOf answer)
        (.note (.action (.feedRequest r.feedUrl)) :: vs.map .visit)

/-- The trace of finding out both. -/
inductive VersionsTold (r : Resolver σ) :
    Except Failure (Version × Release) → List Mark → Prop where
  | failed {v : Version} {f : Failure} {ms ns : List Mark} (version : VersionTold r v ms)
      (answer : ReleaseTold r (.error f) ns) : VersionsTold r (.error f) (ms ++ ns)
  | tagged {v : Version} {release : Release} {ms ns : List Mark} (version : VersionTold r v ms)
      (answer : ReleaseTold r (.ok release) ns) : VersionsTold r (.ok (v, release)) (ms ++ ns)
  | untagged {v : Version} {release : Release} {ms ns warned : List Mark}
      (version : VersionTold r v ms) (answer : ReleaseTold r (.ok release) ns)
      (reported : Reported r.reporter .warning (Resolver.untaggedText release) warned) :
      VersionsTold r (.ok (v, release)) (ms ++ (ns ++ warned))

namespace Resolver

variable (r : Resolver σ)

lemma readInstalled_runs :
    Steps.Runs r.watched.readInstalled fun result ms => ∃ t site,
      result = r.toldVersion (r.program t) site ∧ ms = r.versionMarks t site := by
  refine .liftBind .files ?_
  rintro t _ rfl
  refine .liftBind (.note _) ?_
  rintro _ _ rfl
  refine .bind (.onSite (.party (r.runner.run (r.program t) ["--version"] (some versionLimit))
    (.command (r.program t) ["--version"] (some versionLimit)))) ?_ ?_
  · rintro output _ ⟨site, answer, rfl⟩
    refine .ofExcept ⟨t, site, ?_, rfl⟩
    rw [toldVersion, ← answer]
    rfl
  · rintro f _ ⟨site, answer, rfl⟩
    refine ⟨t, site, ?_, rfl⟩
    rw [toldVersion, ← answer]
    rfl

lemma currentVersion_runs : Work.Runs r.watched.currentVersion (VersionTold r) := by
  refine Work.Runs.bind r.readInstalled_runs ?_
  rintro answer _ ⟨t, site, told, rfl⟩
  cases answer with
  | ok v =>
    refine .bind (.debug _) ?_
    rintro _ _ rfl
    refine .pure ?_
    simpa using VersionTold.told site told.symm
  | error f =>
    refine .bind (r.reporter.report_runs _ _) ?_
    intro _ warned reported
    refine .pure ?_
    simpa using VersionTold.untold site told.symm reported

lemma latestRelease_runs : Steps.Runs r.watched.latestRelease (ReleaseTold r) := by
  refine .liftBind (.debug _) ?_
  rintro _ _ rfl
  refine .liftBind (.note (.action (.feedRequest r.feedUrl))) ?_
  rintro _ _ rfl
  refine .liftBind (.onSite (fetchSuccess_visits r.network accept r.feedUrl)) ?_
  rintro answer _ ⟨vs, rfl, fetched⟩
  have told := ReleaseTold.answered fetched
  refine .bind (T := fun result ms => result = r.releaseOf answer ∧ ms = [])
    (.ofExcept ⟨rfl, rfl⟩) ?_ ?_
  · rintro release _ ⟨result, rfl⟩
    rw [← result] at told
    refine .liftBind (.debug _) ?_
    rintro _ _ rfl
    refine .pure ?_
    simpa using told
  · rintro f _ ⟨result, rfl⟩
    rw [← result] at told
    simpa using told

lemma versions_runs : Steps.Runs r.watched.versions (VersionsTold r) := by
  refine .liftBind r.currentVersion_runs ?_
  intro current ms version
  refine .bind r.latestRelease_runs ?_ ?_
  · intro release ns answer
    by_cases tagged : (Version.find? release.tag).isNone = true
    · simp only [tagged, if_true]
      refine .liftBind (r.reporter.report_runs _ _) ?_
      intro _ warned reported
      refine .pure ?_
      simpa using VersionsTold.untagged version answer reported
    · simp only [tagged]
      refine .pure ?_
      simpa using VersionsTold.tagged version answer
  · intro f ns answer
    exact .failed version answer

end Resolver

/-! ## Decisions -/

/-- The trace of the end of a call in a failure. -/
def Aborting (u : Updater σ) (f : StepFailure) (ms : List Mark) : Prop :=
  ∃ told, Reported u.reporter .error (Updater.abortMessage f) told ∧ ms = .enter .aborted :: told

/-- The trace of a decision.  A failure ends the call, so its trace ends with the report of it. -/
inductive Resolving (u : Updater σ) : Except Failure Decision → List Mark → Prop where
  | noRelease {f : Failure} {ms told : List Mark} (versions : VersionsTold u.resolver (.error f) ms)
      (aborting : Aborting u ⟨.start, f⟩ told) :
      Resolving u (.error f) (.enter .start :: (ms ++ told))
  | undecided {current : Version} {release : Release} {f : Failure} {ms told : List Mark}
      (versions : VersionsTold u.resolver (.ok (current, release)) ms)
      (decision : release.decide u.resolver.pattern current = .error f)
      (aborting : Aborting u ⟨.versionChecked, f⟩ told) :
      Resolving u (.error f) (.enter .start :: (ms ++ .enter .versionChecked :: told))
  | decided {current : Version} {release : Release} {decision : Decision} {ms : List Mark}
      (versions : VersionsTold u.resolver (.ok (current, release)) ms)
      (decided : release.decide u.resolver.pattern current = .ok decision) :
      Resolving u (.ok decision) (.enter .start :: (ms ++ [.enter .versionChecked]))

/-- The trace of a check. -/
inductive Checking (u : Updater σ) : Except Failure Decision → List Mark → Prop where
  | failed {f : Failure} {ms : List Mark} (resolving : Resolving u (.error f) ms) :
      Checking u (.error f) ms
  | decided {decision : Decision} {ms told : List Mark} (resolving : Resolving u (.ok decision) ms)
      (reported : Reported u.reporter .information decision.text told) :
      Checking u (.ok decision) (ms ++ told)

namespace Updater

/-- What is reported at the beginning of a run. -/
def startingText : String :=
  "Starting Certbot auto-upgrade..."

/-- What is reported where there is nothing to install. -/
def upToDateText (current latest : Version) : String :=
  "Certbot " ++ current.text ++ " is up to date (latest release is " ++ latest.text
    ++ "), nothing to do."

/-- What is reported before an installation. -/
def upgradingText (current version : Version) : String :=
  "Upgrading Certbot from " ++ current.text ++ " to " ++ version.text ++ "."

end Updater

/-- The trace of what a run does about a decision. -/
inductive CarryingOut (u : Updater σ) :
    Decision → Except Failure Outcome → List Mark → Prop where
  | upToDate {current latest : Version} {told : List Mark}
      (reported : Reported u.reporter .information (Updater.upToDateText current latest) told) :
      CarryingOut u (.noActionNeeded current latest) (.ok (.upToDate current latest))
        (.enter .noActionNeeded :: told)
  | notInstalled {current version : Version} {installer : Asset} {f : StepFailure}
      {told ns ended : List Mark}
      (reported : Reported u.reporter .information (Updater.upgradingText current version) told)
      (executing : Executing u.executor version installer (.error f) ns)
      (aborting : Aborting u f ended) :
      CarryingOut u (.upgradeTo current version installer) (.error f.failure)
        (told ++ .enter .downloading :: (ns ++ ended))
  | installed {current version : Version} {installer : Asset} {told ns : List Mark}
      (reported : Reported u.reporter .information (Updater.upgradingText current version) told)
      (executing : Executing u.executor version installer (.ok ()) ns) :
      CarryingOut u (.upgradeTo current version installer) (.ok (.installed current version))
        (told ++ .enter .downloading :: (ns ++ [.enter .done]))

/-- The trace of a run. -/
inductive Running (u : Updater σ) : Except Failure Outcome → List Mark → Prop where
  | failed {f : Failure} {start ms : List Mark}
      (started : Reported u.reporter .information Updater.startingText start)
      (resolving : Resolving u (.error f) ms) : Running u (.error f) (start ++ ms)
  | upToDate {current latest : Version} {start ms told : List Mark}
      (started : Reported u.reporter .information Updater.startingText start)
      (resolving : Resolving u (.ok (.noActionNeeded current latest)) ms)
      (reported : Reported u.reporter .information (Updater.upToDateText current latest) told) :
      Running u (.ok (.upToDate current latest))
        (start ++ (ms ++ .enter .noActionNeeded :: told))
  | notInstalled {current version : Version} {installer : Asset} {f : StepFailure}
      {start ms told ns ended : List Mark}
      (started : Reported u.reporter .information Updater.startingText start)
      (resolving : Resolving u (.ok (.upgradeTo current version installer)) ms)
      (reported : Reported u.reporter .information (Updater.upgradingText current version) told)
      (executing : Executing u.executor version installer (.error f) ns)
      (aborting : Aborting u f ended) :
      Running u (.error f.failure)
        (start ++ (ms ++ (told ++ .enter .downloading :: (ns ++ ended))))
  | installed {current version : Version} {installer : Asset} {start ms told ns : List Mark}
      (started : Reported u.reporter .information Updater.startingText start)
      (resolving : Resolving u (.ok (.upgradeTo current version installer)) ms)
      (reported : Reported u.reporter .information (Updater.upgradingText current version) told)
      (executing : Executing u.executor version installer (.ok ()) ns) :
      Running u (.ok (.installed current version))
        (start ++ (ms ++ (told ++ .enter .downloading :: (ns ++ [.enter .done]))))

/-- What is done about a decision completes the trace of a run. -/
lemma CarryingOut.running {u : Updater σ} {decision : Decision} {answer : Except Failure Outcome}
    {start ms ns : List Mark} (h : CarryingOut u decision answer ns)
    (started : Reported u.reporter .information Updater.startingText start)
    (resolving : Resolving u (.ok decision) ms) : Running u answer (start ++ (ms ++ ns)) := by
  cases h with
  | upToDate reported => exact .upToDate started resolving reported
  | notInstalled reported executing aborting =>
    exact .notInstalled started resolving reported executing aborting
  | installed reported executing => exact .installed started resolving reported executing

namespace Updater

variable (u : Updater σ)

lemma abort_runs {α : Type} (f : StepFailure) :
    Steps.Runs (u.watched.abort (α := α) f) fun r ms => r = .error f.failure ∧ Aborting u f ms := by
  refine .liftBind (.enter _) ?_
  rintro _ _ rfl
  refine .liftBind (u.reporter.report_runs _ _) ?_
  intro _ told reported
  refine .throw ⟨rfl, told, reported, ?_⟩
  simp

lemma resolve_runs : Steps.Runs u.watched.resolve (Resolving u) := by
  refine .liftBind (.enter _) ?_
  rintro _ _ rfl
  refine .liftBind u.resolver.versions_runs ?_
  rintro (f | ⟨current, release⟩) ms versions
  · refine (u.abort_runs ⟨.start, f⟩).mono ?_
    rintro _ told ⟨rfl, aborting⟩
    simpa using Resolving.noRelease versions aborting
  · refine .liftBind (.enter _) ?_
    rintro _ _ rfl
    have same : u.watched.resolver.pattern = u.resolver.pattern := rfl
    rw [same]
    cases decision : release.decide u.resolver.pattern current with
    | error f =>
      refine (u.abort_runs ⟨.versionChecked, f⟩).mono ?_
      rintro _ told ⟨rfl, aborting⟩
      exact .undecided versions decision aborting
    | ok decided => exact .pure (.decided versions decision)

lemma check_runs : Steps.Runs u.watched.check (Checking u) := by
  refine .bind u.resolve_runs ?_ ?_
  · intro decision ms resolving
    refine .liftBind (u.reporter.report_runs _ _) ?_
    intro _ told reported
    refine .pure ?_
    simpa using Checking.decided resolving reported
  · intro f ms resolving
    exact .failed resolving

lemma carryOut_runs (decision : Decision) :
    Steps.Runs (u.watched.carryOut decision) (CarryingOut u decision) := by
  cases decision with
  | noActionNeeded current latest =>
    refine .liftBind (.enter _) ?_
    rintro _ _ rfl
    refine .liftBind (u.reporter.report_runs _ _) ?_
    intro _ told reported
    refine .pure ?_
    simpa using CarryingOut.upToDate reported
  | upgradeTo current version installer =>
    refine .liftBind (u.reporter.report_runs _ _) ?_
    intro _ told reported
    refine .liftBind (.enter _) ?_
    rintro _ _ rfl
    refine .liftBind (u.executor.execute_runs version installer) ?_
    rintro (f | _) ns executing
    · refine (u.abort_runs f).mono ?_
      rintro _ ended ⟨rfl, aborting⟩
      simpa using CarryingOut.notInstalled reported executing aborting
    · refine .liftBind (.enter _) ?_
      rintro _ _ rfl
      refine .pure ?_
      simpa using CarryingOut.installed reported executing

lemma run_runs : Steps.Runs u.watched.run (Running u) := by
  refine .liftBind (u.reporter.report_runs _ _) ?_
  intro _ start started
  refine .bind u.resolve_runs ?_ ?_
  · intro decision ms resolving
    exact (u.carryOut_runs decision).mono fun _ _ carrying => carrying.running started resolving
  · intro f ms resolving
    exact .failed started resolving

end Updater

/-! ## Calls that are not watched

A call of an updater does what the watched call does.  So the trace of the watched call tells what
the updater itself has done to the world.
-/

/-- A trace tells how a call has changed the world. -/
structure Traced (w w' : World σ) (history : List Visit) (ms : List Mark) : Prop where
  leads : ∃ s, Leads w.watched.scene ms s ∧ s.files = w'.files
  history : history = visitsOf ms
  journal : w'.journal = w.journal ++ notesOf ms
  state : w'.state = (statesOf ms).getLastD w.state

lemma Work.Runs.traced {β : Type} {m : Work (Watched σ) β} {m₀ : Work σ β}
    {T : β → List Mark → Prop} (runs : Work.Runs m T) (mirrors : Work.Mirrors m m₀) (w : World σ) :
    ∃ ms, Traced w (m₀ w).2 (m w.watched).2.history ms ∧ T (m₀ w).1 ms := by
  obtain ⟨ms, leads, t⟩ := runs w.watched
  have same : m₀ w = ((m w.watched).1, (m w.watched).2.bare) := mirrors w.watched
  rw [same]
  exact ⟨ms, ⟨⟨_, leads, rfl⟩, leads.history_eq, leads.journal_eq, leads.state_eq⟩, t⟩

lemma Steps.Runs.traced {ε α : Type} {x : ExceptT ε (StateM (World (Watched σ))) α}
    {x₀ : ExceptT ε (StateM (World σ)) α} {T : Except ε α → List Mark → Prop}
    (runs : Steps.Runs x T) (mirrors : Steps.Mirrors x x₀) (w : World σ) :
    ∃ ms, Traced w (x₀.run w).2 (x.run w.watched).2.history ms ∧ T (x₀.run w).1 ms :=
  Work.Runs.traced runs mirrors w

/-- What a trace tells of a watched world, and of the same world if it is not watched. -/
lemma Leads.told {w : World σ} {v : World (Watched σ)} {ms : List Mark}
    (leads : Leads w.watched.scene ms v.scene) :
    v.history = visitsOf ms ∧ v.bare.journal = w.journal ++ notesOf ms
      ∧ v.bare.namesUsed = w.namesUsed + (namesOf ms).length :=
  ⟨leads.history_eq, leads.journal_eq, leads.namesUsed_eq⟩

namespace Updater

variable (u : Updater σ) (w : World σ)

/-- A check leaves one of the traces of a check. -/
lemma check_traced :
    ∃ ms, Traced w (u.check.outcome w).2 (u.checkHistory w) ms
      ∧ Checking u (u.check.outcome w).1 ms :=
  u.check_runs.traced u.check_mirrors w

/-- A run leaves one of the traces of a run. -/
lemma run_traced :
    ∃ ms, Traced w (u.run.outcome w).2 (u.history w) ms ∧ Running u (u.run.outcome w).1 ms :=
  u.run_runs.traced u.run_mirrors w

end Updater

end SignedUpgrade
