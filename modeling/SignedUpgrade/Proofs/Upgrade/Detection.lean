import SignedUpgrade.Proofs.Upgrade.Ascent
import SignedUpgrade.Proofs.Upgrade.Feed

/-!
# What becomes of an installed version that is not told

Whatever the version command answers, the upgrade goes on: a version that cannot be found out is
taken for the lowest one.  The warnings keep this apart from a program that tells the lowest version
itself, and a tag without a version has a warning of its own.

* `Output.Tells` — a program that ran to its end tells a version;
* `Work.Runs.events`, `Reporter.report_events` — the events that steps add to those before them;
* `WarnsIf` — one warning if something is the case;
* `Resolver.Degrades` — the versions that are found out, and the warnings about them;
* `Resolver.versions_degrade` — **every version that is not told costs one warning, and nothing but
  the feed fails**.
-/

namespace SignedUpgrade

open Net Text

variable {σ : Type}

/-! ## What the version command tells -/

/-- A program that ended with exit code 0 tells a version: on standard output or, where none can be
read from there for whatever reason, on standard error. -/
inductive Output.Tells (o : Output) (v : Version) : Prop where
  | onOutput (ended : o.code = some 0) (extracted : Version.extract o.stdout = .ok v)
  | onErrors {f : Failure} (ended : o.code = some 0) (nothing : Version.extract o.stdout = .error f)
      (extracted : Version.extract o.stderr = .ok v)

/-- The version that is taken from an output is the one that the output tells. -/
lemma Resolver.versionOf_eq_ok_iff {command : String} {o : Output} {v : Version} :
    Resolver.versionOf command o = .ok v ↔ o.Tells v := by
  constructor
  · intro taken
    by_cases ended : o.code = some 0
    · rw [Resolver.versionOf, Output.check_of_ended command ended] at taken
      simp only [bind, Except.bind] at taken
      cases extracted : Version.extract o.stdout with
      | ok v' =>
        rw [extracted] at taken
        exact .onOutput ended (extracted.trans taken)
      | error f =>
        rw [extracted] at taken
        exact .onErrors ended extracted taken
    · have failed : o.check command = .error (.processFailed command o.code o.stderr) := by
        simp [Output.check, Output.succeeded, ended]
      rw [Resolver.versionOf, failed] at taken
      cases taken
  · rintro (⟨ended, extracted⟩ | ⟨ended, nothing, extracted⟩)
    · exact Resolver.versionOf_of_stdout ended extracted
    · rw [Resolver.versionOf, Output.check_of_ended command ended]
      simp only [bind, Except.bind, nothing, extracted]

/-- A version can be read from the tag of a release. -/
def Release.IsTagged (release : Release) : Prop :=
  ∃ v, Version.extract release.tag = .ok v

lemma Release.isTagged_iff {release : Release} :
    release.IsTagged ↔ (Version.find? release.tag).isNone = false := by
  unfold Release.IsTagged Version.extract
  cases Version.find? release.tag with
  | none => simp
  | some v => simp

/-! ## The events so far -/

/-- The events that the witness took down so far. -/
def World.events (w : World (Watched σ)) : List Event :=
  eventsOf w.history

/-- Steps add the events of their trace to those before them. -/
lemma Work.Runs.events {β : Type} {m : Work (Watched σ) β} {T : β → List Mark → Prop}
    (runs : Work.Runs m T) (w : World (Watched σ)) :
    ∃ ms, T (m w).1 ms ∧ (m w).2.events = w.events ++ eventsOf (visitsOf ms) := by
  obtain ⟨ms, leads, trace⟩ := runs w
  refine ⟨ms, trace, ?_⟩
  have history : (m w).2.history = w.history ++ visitsOf ms := leads.history_eq
  rw [World.events, history, eventsOf_append]
  rfl

/-- Steps whose traces hold no event add none. -/
lemma Work.Runs.no_events {β : Type} {m : Work (Watched σ) β} {T : β → List Mark → Prop}
    (runs : Work.Runs m T) (silent : ∀ a ms, T a ms → eventsOf (visitsOf ms) = [])
    (w : World (Watched σ)) : (m w).2.events = w.events := by
  obtain ⟨ms, trace, events⟩ := runs.events w
  rw [events, silent _ _ trace, List.append_nil]

/-- A report is one event. -/
lemma Reporter.report_events (r : Reporter σ) (severity : Severity) (message : String)
    (w : World (Watched σ)) : ∃ time, (r.watched.report severity message w).2.events
      = w.events ++ [Event.mk time severity message] := by
  obtain ⟨ms, reported, events⟩ := (r.report_runs severity message).events w
  obtain ⟨time, told⟩ := reported.events
  exact ⟨time, by rw [events, told]⟩

/-! ## Warnings -/

/-- One warning and nothing else. -/
def IsOneWarning (events : List Event) : Prop :=
  ∃ event, events = [event] ∧ event.severity = .warning

/-- One warning if something is the case, and otherwise nothing. -/
def WarnsIf (p : Prop) (events : List Event) : Prop :=
  (p → IsOneWarning events) ∧ (¬ p → events = [])

lemma isOneWarning (time : Timestamp) (message : String) :
    IsOneWarning [⟨time, .warning, message⟩] :=
  ⟨_, rfl, rfl⟩

namespace WarnsIf

variable {p : Prop} {events : List Event}

lemma severity (h : WarnsIf p events) : ∀ event ∈ events, event.severity = .warning := by
  by_cases holds : p
  · obtain ⟨event, rfl, warning⟩ := h.1 holds
    simpa using warning
  · simp [h.2 holds]

lemma countP [Decidable p] (h : WarnsIf p events) :
    events.countP (·.severity = .warning) = if p then 1 else 0 := by
  rw [List.countP_eq_length.2 fun event mem => decide_eq_true (h.severity event mem)]
  split
  · obtain ⟨event, rfl, _⟩ := h.1 ‹p›
    rfl
  · rw [h.2 ‹¬ p›, List.length_nil]

end WarnsIf

namespace Resolver

variable (r : Resolver σ) (w : World σ)

/-- The answer to the version command. -/
def reply : Except Failure Output :=
  (r.runner.run (r.program w.files) ["--version"] (some versionLimit) w.toSite).1

/-- The version command tells a version. -/
def Finds (v : Version) : Prop :=
  ∃ o, r.reply w = .ok o ∧ o.Tells v

/-- The release that the feed tells when it is asked after the version command. -/
def released : Except Failure Release :=
  (r.latestRelease.outcome (r.currentVersion w).2).1

/-- The feed tells a release, and no version can be read from its tag. -/
def MeetsUntagged : Prop :=
  ∃ release, r.released w = .ok release ∧ ¬ release.IsTagged

/-- The events of finding out the installed version. -/
def currentEvents : List Event :=
  (r.watched.currentVersion w.watched).2.events

/-- The events of finding out both versions. -/
def versionsEvents : List Event :=
  (r.watched.versions.outcome w.watched).2.events

/-! ## Steps that report nothing -/

/-- The version command is asked in the world as it is. -/
lemma readInstalled_outcome :
    (r.readInstalled.outcome w).1 = (r.reply w).bind (versionOf r.command) := by
  have asked : ∀ (party : Site σ → Except Failure Output × Site σ) (w : World σ),
      ((do
        let output ← Attempt.onSite party
        (versionOf r.command output : Except Failure Version) : Attempt σ Version).run w).1
      = (party w.toSite).1.bind (versionOf r.command) := by
    intro party w
    rw [Attempt.run_bind]
    simp only [Attempt.onSite, Work.onSite, ExceptT.run, ExceptT.mk]
    rcases party w.toSite with ⟨_ | output, site⟩
    · rfl
    · rfl
  exact asked _ _

lemma readInstalled_events (w : World (Watched σ)) :
    (r.watched.readInstalled.outcome w).2.events = w.events := by
  refine Work.Runs.no_events r.readInstalled_runs ?_ w
  rintro _ _ ⟨t, site, _, rfl⟩
  simp [versionMarks]

lemma latestRelease_events (w : World (Watched σ)) :
    (r.watched.latestRelease.outcome w).2.events = w.events := by
  refine Work.Runs.no_events r.latestRelease_runs ?_ w
  rintro _ _ ⟨fetched⟩
  simp [eventsOf_fetched fetched]

/-! ## The installed version -/

/-- If a version is read, it is the installed one, and nothing is reported. -/
lemma currentVersion_of_ok {v : Version} {w : World (Watched σ)}
    (read : (r.watched.readInstalled.outcome w).1 = .ok v) :
    (r.watched.currentVersion w).1 = v ∧ (r.watched.currentVersion w).2.events = w.events := by
  rw [currentVersion, bind_run, read, ← r.readInstalled_events w]
  exact ⟨rfl, rfl⟩

/-- If none is read, the lowest one stands for it, and the failure is reported as a warning. -/
lemma currentVersion_of_error {f : Failure} {w : World (Watched σ)}
    (failed : (r.watched.readInstalled.outcome w).1 = .error f) :
    (r.watched.currentVersion w).1 = .unknown
      ∧ ∃ time, (r.watched.currentVersion w).2.events
        = w.events ++ [Event.mk time .warning (untoldText f)] := by
  rw [currentVersion, bind_run, failed, ← r.readInstalled_events w]
  exact ⟨rfl, r.reporter.report_events .warning (untoldText f) _⟩

/-- What is read from the watched version command is what it tells. -/
lemma readInstalled_watched :
    (r.watched.readInstalled.outcome w.watched).1 = (r.reply w).bind (versionOf r.command) :=
  r.watched.readInstalled_outcome w.watched

lemma readInstalled_eq_ok_iff {v : Version} :
    (r.watched.readInstalled.outcome w.watched).1 = .ok v ↔ r.Finds w v := by
  rw [readInstalled_watched, Finds]
  cases r.reply w with
  | ok o => simp [Except.bind, versionOf_eq_ok_iff]
  | error f => simp [Except.bind]

lemma currentVersion_mirrors : Work.Mirrors r.watched.currentVersion r.currentVersion :=
  (Likeness.bare_resolvers r).currentVersion.mirrors

lemma currentVersion_watched :
    (r.watched.currentVersion w.watched).1 = (r.currentVersion w).1 :=
  (congrArg Prod.fst (r.currentVersion_mirrors w.watched)).symm

/-! ## Both versions -/

/-- What is still done when both versions are there. -/
def passOn (current : Version) (release : Release) : Attempt σ (Version × Release) := do
  if (Version.find? release.tag).isNone then
    r.reporter.warn (untaggedText release)
  return (current, release)

lemma versions_eq : r.versions.outcome w
    = (r.latestRelease >>= r.passOn (r.currentVersion w).1).run (r.currentVersion w).2 := rfl

variable {r w} in
lemma passOn_of_isTagged {current : Version} {release : Release} (tagged : release.IsTagged) :
    (r.passOn current release).run w = (.ok (current, release), w) := by
  rw [passOn, Release.isTagged_iff.1 tagged]
  rfl

variable {r w} in
lemma passOn_of_not_isTagged {current : Version} {release : Release}
    (untagged : ¬ release.IsTagged) : (r.passOn current release).run w
      = (.ok (current, release), (r.reporter.report .warning (untaggedText release) w).2) := by
  rw [Release.isTagged_iff, Bool.not_eq_false] at untagged
  rw [passOn, untagged]
  rfl

/-- Of the two versions only the latest one can fail to be found out. -/
lemma versions_outcome :
    (r.versions.outcome w).1 = (r.released w).map (Prod.mk (r.currentVersion w).1) := by
  rw [versions_eq, Attempt.run_bind]
  unfold released Attempt.outcome
  rcases r.latestRelease.run (r.currentVersion w).2 with ⟨f | release, w'⟩
  · rfl
  · by_cases tagged : release.IsTagged
    · simp only [passOn_of_isTagged tagged, Except.map]
    · simp only [passOn_of_not_isTagged tagged, Except.map]

/-- A tag without a version costs one warning, after those about the installed version. -/
lemma versions_events (w : World (Watched σ)) : ∃ ofTag,
    (r.watched.versions.outcome w).2.events = (r.watched.currentVersion w).2.events ++ ofTag
      ∧ WarnsIf (r.watched.MeetsUntagged w) ofTag := by
  have silent := r.latestRelease_events (r.watched.currentVersion w).2
  rw [versions_eq, Attempt.run_bind, ← silent]
  unfold MeetsUntagged released Attempt.outcome
  rcases r.watched.latestRelease.run (r.watched.currentVersion w).2 with ⟨f | release, w'⟩
  · exact ⟨[], by simp [WarnsIf]⟩
  · by_cases tagged : release.IsTagged
    · refine ⟨[], ?_⟩
      simp [passOn_of_isTagged tagged, WarnsIf, tagged]
    · obtain ⟨time, events⟩ := r.reporter.report_events .warning (untaggedText release) w'
      refine ⟨[⟨time, .warning, untaggedText release⟩], ?_, fun _ => isOneWarning time _,
        fun met => absurd ⟨release, rfl, tagged⟩ met⟩
      simp only [passOn_of_not_isTagged tagged]
      exact events

lemma released_watched : r.watched.released w.watched = r.released w := by
  have current : (r.currentVersion w).2 = (r.watched.currentVersion w.watched).2.bare :=
    congrArg Prod.snd (r.currentVersion_mirrors w.watched)
  have latest := (Likeness.bare_resolvers r).latestRelease.mirrors
    (r.watched.currentVersion w.watched).2
  rw [← current] at latest
  exact (congrArg Prod.fst latest).symm

/-! ## Main statement -/

open Classical in
/-- What is found out about the two versions, and which warnings it costs. -/
structure Degrades : Prop where
  /-- A version that is told is the installed one, whichever it is, and costs no event. -/
  told : ∀ v, r.Finds w v → (r.currentVersion w).1 = v ∧ r.currentEvents w = []
  /-- The lowest version stands for one that is not told, with one warning. -/
  untold : (¬ ∃ v, r.Finds w v) →
    (r.currentVersion w).1 = .unknown ∧ IsOneWarning (r.currentEvents w)
  /-- Both versions are found out if the feed tells a release. -/
  found : ∀ release, r.released w = .ok release →
    (r.versions.outcome w).1 = .ok ((r.currentVersion w).1, release)
  /-- Nothing but the feed makes this fail, and its failure is passed on. -/
  fails : ∀ f, (r.versions.outcome w).1 = .error f ↔ r.released w = .error f
  /-- The installed version is reported on first, and then the tag. -/
  events : ∃ ofTag, r.versionsEvents w = r.currentEvents w ++ ofTag
    ∧ WarnsIf (r.MeetsUntagged w) ofTag
  /-- There is one warning for each of the two that tells no version. -/
  count : (r.versionsEvents w).countP (·.severity = .warning)
    = (if ¬ ∃ v, r.Finds w v then 1 else 0) + if r.MeetsUntagged w then 1 else 0
  /-- Nothing is worse than a warning. -/
  severity : ∀ event ∈ r.versionsEvents w, event.severity = .warning

lemma currentVersion_of_finds {v : Version} (finds : r.Finds w v) :
    (r.currentVersion w).1 = v ∧ r.currentEvents w = [] := by
  obtain ⟨value, events⟩ := r.currentVersion_of_ok ((r.readInstalled_eq_ok_iff w).2 finds)
  rw [currentVersion_watched] at value
  exact ⟨value, events⟩

lemma currentVersion_of_not_finds (untold : ¬ ∃ v, r.Finds w v) :
    (r.currentVersion w).1 = .unknown ∧ IsOneWarning (r.currentEvents w) := by
  cases read : (r.watched.readInstalled.outcome w.watched).1 with
  | ok v => exact absurd ⟨v, (r.readInstalled_eq_ok_iff w).1 read⟩ untold
  | error f =>
    obtain ⟨value, time, events⟩ := r.currentVersion_of_error read
    rw [currentVersion_watched] at value
    refine ⟨value, ?_⟩
    rw [currentEvents, events]
    exact isOneWarning time _

lemma currentEvents_warnsIf : WarnsIf (¬ ∃ v, r.Finds w v) (r.currentEvents w) := by
  refine ⟨fun untold => (r.currentVersion_of_not_finds w untold).2, fun told => ?_⟩
  obtain ⟨v, finds⟩ := not_not.1 told
  exact (r.currentVersion_of_finds w finds).2

lemma versionsEvents_eq : ∃ ofTag, r.versionsEvents w = r.currentEvents w ++ ofTag
    ∧ WarnsIf (r.MeetsUntagged w) ofTag := by
  have met : r.watched.MeetsUntagged w.watched ↔ r.MeetsUntagged w := by
    rw [MeetsUntagged, released_watched, MeetsUntagged]
  obtain ⟨ofTag, events, warns⟩ := r.versions_events w.watched
  rw [met] at warns
  exact ⟨ofTag, events, warns⟩

/-- **An installed version that is not told costs one warning and nothing else.**  Whatever the
version command answers, the version that it tells is the installed one, or else the lowest version
stands for it, with a warning.  A tag without a version costs one more, and only the feed can make
this fail. -/
theorem versions_degrade (r : Resolver σ) (w : World σ) : r.Degrades w := by
  classical
  have ofVersion := r.currentEvents_warnsIf w
  obtain ⟨ofTag, events, warns⟩ := r.versionsEvents_eq w
  exact {
    told := fun _ finds => r.currentVersion_of_finds w finds
    untold := r.currentVersion_of_not_finds w
    found := by
      intro release released
      rw [versions_outcome, released, Except.map]
    fails := by
      intro f
      rw [versions_outcome]
      cases r.released w with
      | ok release => simp [Except.map]
      | error f' => simp [Except.map]
    events := ⟨ofTag, events, warns⟩
    count := by rw [events, List.countP_append, ofVersion.countP, warns.countP]
    severity := by
      rw [events]
      intro event mem
      rcases List.mem_append.1 mem with mem | mem
      · exact ofVersion.severity event mem
      · exact warns.severity event mem }

/-- A resolver whose version command answers in a given way. -/
def replying (answer : Except Failure Output) : Resolver Unit :=
  { fed [] with runner := { run := fun _ _ _ site => (answer, site) } }

/-- The lowest version, told behind a number that is too large. -/
def behindOverflow : Resolver Unit :=
  replying (.ok ⟨some 0, "certbot 18446744073709551616.0.0", "certbot 0.0.0"⟩)

/-- A version that is printed by a program that fails. -/
def besidesFailure : Resolver Unit :=
  replying (.ok ⟨some 1, "certbot 2.0.0", ""⟩)

/-- The lowest version costs no warning if it is told, and one if it stands for another one. -/
theorem versions_degrade_apart :
    ((behindOverflow.currentVersion fedWorld).1 = .unknown
      ∧ behindOverflow.currentEvents fedWorld = [])
    ∧ (besidesFailure.currentVersion fedWorld).1 = .unknown
      ∧ IsOneWarning (besidesFailure.currentEvents fedWorld) := by
  refine ⟨(versions_degrade _ _).told .unknown ⟨_, rfl, ?_⟩, (versions_degrade _ _).untold ?_⟩
  · have tooLarge : Version.find? "certbot 18446744073709551616.0.0" = none := by decide +kernel
    have lowest : Version.find? "certbot 0.0.0" = some .unknown := by decide +kernel
    refine .onErrors (f := .versionParse (trimmed "certbot 18446744073709551616.0.0")) rfl ?_ ?_
    · rw [Version.extract, tooLarge]
    · rw [Version.extract, lowest]
  · rintro ⟨v, o, answer, tells⟩
    cases answer
    rcases tells with ⟨ended, _⟩ | ⟨ended, _, _⟩
    · cases ended
    · cases ended

end Resolver

end SignedUpgrade
