import SignedUpgrade.CommandLine.Program
import SignedUpgrade.Proofs.Settings.Asking
import SignedUpgrade.Proofs.Upgrade.Answers
import SignedUpgrade.Proofs.Upgrade.Reports

/-!
# A program that was started

A program that is to carry out a call looks for its settings first.  What it finds decides which
settings are in charge of where events go, and whether there is an updater to call at all.

* `Updater.ofSettings_eq_ok` — what is known of an updater that was made of settings;
* `Host.choose` — looks for the settings, and chooses those that are in charge;
* `Started` — a program that was started in order to carry out a call;
* `Started.history` — the visits that it pays to its parties;
* `Started.exitCode_of_fails`, `Started.exitCode_of_not_fails` — the exit code tells whether it
  fails;
* `Started.traced` — the trace that it leaves, with the sinks that its reports go to.
-/

namespace SignedUpgrade

open CommandLine

variable {σ : Type}

/-! ## Calls -/

namespace Updater

variable (u : Updater σ) (w : World σ)

/-- A call leaves a trace whose reports all go to the reporter of the updater. -/
lemma account_traced (call : Call) {r : Reporter σ} (all : u.ReportsTo r) :
    ∃ ms, Traced w (u.account w call).2 (u.account w call).1.visits ms ∧ Reporting r ms := by
  cases call with
  | check =>
    obtain ⟨ms, traced, checking⟩ := u.check_traced w
    rw [account_check]
    dsimp only
    exact ⟨ms, traced, all.checking checking⟩
  | run =>
    obtain ⟨ms, traced, running⟩ := u.run_traced w
    rw [account_run]
    dsimp only
    exact ⟨ms, traced, all.running running⟩

/-- An updater that was made of settings is one between two networks. -/
lemma ofSettings_eq_ok {s : Settings} {p : Parties σ} {u : Updater σ}
    (made : ofSettings s p = .ok u) : ∃ feed installers, u = between s p feed installers := by
  unfold ofSettings at made
  cases reached : p.connect s.feedTimeout with
  | error reason =>
    rw [reached] at made
    cases made
  | ok feed =>
    rw [reached] at made
    dsimp only at made
    cases reached' : p.connect s.downloadTimeout with
    | error reason =>
      rw [reached'] at made
      cases made
    | ok installers =>
      rw [reached'] at made
      exact ⟨feed, installers, (Except.ok.inj made).symm⟩

end Updater

/-- The command that asks for a call. -/
def Call.command : Call → Command
  | .check => .check
  | .run => .run

namespace CommandLine

/-! ## The settings in charge -/

/-- What comes of looking for the settings: the settings in charge, and the updater that they make,
or the failure that leaves none.  After a failure the settings in charge say where it is reported. -/
structure Choice (σ : Type) where
  settings : Settings
  updater : Except Failure (Updater σ)

namespace Choice

variable {c : Choice σ}

/-- The failure that leaves no updater. -/
def failure (c : Choice σ) : Option Failure :=
  match c.updater with
  | .error failure => some failure
  | .ok _ => none

lemma failure_eq_some_iff {f : Failure} : c.failure = some f ↔ c.updater = .error f := by
  rw [failure]
  cases c.updater with
  | error f' => simp
  | ok u => simp

lemma failure_eq_none_iff : c.failure = none ↔ ∃ u, c.updater = .ok u := by
  rw [failure]
  cases c.updater with
  | error f => simp
  | ok u => simp

end Choice

namespace Host

variable (host : Host σ) (config : Option Path) (w : World σ)

/-- Looks for the settings.  Where the sources cannot be opened, the environment alone says where
that is reported; where they can be opened but not all settings be read, all sources say it; and
where all settings can be read, they say it themselves, even if they make no updater. -/
def choose : Work σ (Choice σ) := do
  match ← Work.onSite
      (Store.standard host.formats.table host.directories host.environment config).run with
  | .error failure =>
    let settings ← Work.onSite
      (Settings.loadAudit host.directories.defaults host.environment.store)
    return { settings, updater := .error failure }
  | .ok store =>
    match ← Work.onSite
        (Settings.load host.formats.pattern host.directories.defaults store).run with
    | .error failure =>
      let settings ← Work.onSite (Settings.loadAudit host.directories.defaults store)
      return { settings, updater := .error failure }
    | .ok settings => return { settings, updater := host.updater settings }

/-- Whoever looks for the settings writes to the log and touches nothing else. -/
lemma choose_logged : ∃ site, w.toSite.Logged site
    ∧ (host.choose config w).2 = { w with toSite := site } := by
  obtain ⟨opens, quiet⟩ :=
    Store.standard_logs host.formats.table host.directories host.environment config w.toSite
  rw [choose, bind_run]
  simp only [Work.onSite]
  rcases goes : (Store.standard host.formats.table host.directories host.environment config).run
    w.toSite with ⟨failure | store, site⟩
  · rw [goes] at opens
    exact ⟨_, opens.trans (Settings.loadAudit_logged host.environment.store_isQuiet _ site), rfl⟩
  · rw [goes] at opens
    have quiet := quiet store (by rw [goes])
    obtain ⟨loads, -⟩ :=
      Settings.load_logs quiet host.formats.pattern host.directories.defaults site
    dsimp only
    rw [bind_run]
    simp only [Work.onSite]
    rcases goes : (Settings.load host.formats.pattern host.directories.defaults store).run site
      with ⟨failure | settings, site'⟩
    · rw [goes] at loads
      exact ⟨_, (opens.trans loads).trans (Settings.loadAudit_logged quiet _ site'), rfl⟩
    · rw [goes] at loads
      exact ⟨site', opens.trans loads, rfl⟩

/-- An updater is made of the settings in charge. -/
lemma choose_updater {u : Updater σ} (ready : (host.choose config w).1.updater = .ok u) :
    host.updater (host.choose config w).1.settings = .ok u := by
  rw [choose, bind_run] at ready ⊢
  generalize Work.onSite
    (Store.standard host.formats.table host.directories host.environment config).run w = opened
    at ready ⊢
  obtain ⟨_ | store, w₁⟩ := opened
  · cases ready
  · dsimp only at ready ⊢
    rw [bind_run] at ready ⊢
    generalize Work.onSite
      (Settings.load host.formats.pattern host.directories.defaults store).run w₁ = loaded
      at ready ⊢
    obtain ⟨_ | settings, w₂⟩ := loaded
    · cases ready
    · exact ready

/-- A failure that leaves no updater is reported; without one there is an updater. -/
lemma setUp_choose :
    (∀ f, (host.choose config w).1.updater = .error f → ∃ problem, host.setUp config w
      = (.error problem,
          ((Reporter.ofSettings (host.choose config w).1.settings host.runner).error
            (setUpMessage f) (host.choose config w).2).2))
    ∧ ∀ u, (host.choose config w).1.updater = .ok u →
      host.setUp config w = (.ok u, (host.choose config w).2) := by
  rw [choose, setUp, bind_run, bind_run]
  generalize Work.onSite
    (Store.standard host.formats.table host.directories host.environment config).run w = opened
  obtain ⟨_ | store, w₁⟩ := opened
  · refine ⟨?_, by rintro _ ⟨⟩⟩
    rintro _ ⟨⟩
    exact ⟨_, rfl⟩
  · dsimp only
    rw [bind_run, bind_run]
    generalize Work.onSite
      (Settings.load host.formats.pattern host.directories.defaults store).run w₁ = loaded
    obtain ⟨_ | settings, w₂⟩ := loaded
    · refine ⟨?_, by rintro _ ⟨⟩⟩
      rintro _ ⟨⟩
      exact ⟨_, rfl⟩
    · dsimp only
      cases host.updater settings with
      | error failure =>
        refine ⟨?_, by rintro _ ⟨⟩⟩
        rintro _ ⟨⟩
        exact ⟨_, rfl⟩
      | ok updater =>
        refine ⟨by rintro _ ⟨⟩, ?_⟩
        rintro _ ⟨⟩
        rfl

variable {host w} {options : Options}

lemma perform_of_failed (call : Call) {problem : Problem} {w' : World σ}
    (failed : host.setUp (options.config.map Path.mk) w = (.error problem, w')) :
    host.perform { command := call.command, options } w = (.error problem, w') := by
  cases call with
  | check | run =>
    rw [perform]
    dsimp only [Call.command]
    rw [withUpdater, bind_run, failed]
    rfl

/-- With an updater, steps of it are carried out, and the end of them is told. -/
lemma withUpdater_of_ready {α : Type} (steps : Updater σ → Attempt σ α) (lines : α → List String)
    {config : Option Path} {u : Updater σ} {w' : World σ}
    (ready : host.setUp config w = (.ok u, w')) :
    (host.withUpdater config steps lines w).2 = ((steps u).outcome w').2
      ∧ ((∃ problem, (host.withUpdater config steps lines w).1 = .error problem)
        ↔ ∃ f, ((steps u).outcome w').1 = .error f) := by
  rw [withUpdater, bind_run, ready]
  dsimp only
  rw [bind_run]
  rcases (steps u).outcome w' with ⟨f | result, w''⟩
  · refine ⟨rfl, fun _ => ⟨f, rfl⟩, fun _ => ⟨_, rfl⟩⟩
  · refine ⟨rfl, ?_, ?_⟩
    · rintro ⟨_, ⟨⟩⟩
    · rintro ⟨_, ⟨⟩⟩

/-- With an updater, the order is carried out by a call of it. -/
lemma perform_of_ready (call : Call) {u : Updater σ} {w' : World σ}
    (ready : host.setUp (options.config.map Path.mk) w = (.ok u, w')) :
    (host.perform { command := call.command, options } w).2 = (u.account w' call).2
      ∧ ((∃ problem, (host.perform { command := call.command, options } w).1 = .error problem)
        ↔ ∃ f, (u.account w' call).1.result = .error f) := by
  cases call with
  | check =>
    obtain ⟨world, fails⟩ := withUpdater_of_ready Updater.check decisionLines ready
    rw [u.account_check]
    dsimp only
    exact ⟨world, fails.trans exists_map_error_iff.symm⟩
  | run =>
    obtain ⟨world, fails⟩ := withUpdater_of_ready Updater.run outcomeLines ready
    rw [u.account_run]
    dsimp only
    exact ⟨world, fails.trans exists_map_error_iff.symm⟩

end Host

/-! ## Programs that were started -/

/-- A program that was started in order to carry out a call. -/
structure Started (σ : Type) where
  host : Host σ
  world : World σ
  arguments : List String
  call : Call
  options : Options
  /-- The arguments ask for the call. -/
  reads : Order.ofArguments arguments = .ok { command := call.command, options }

namespace Started

variable (x : Started σ)

/-- What comes of looking for the settings. -/
def choice : Choice σ :=
  (x.host.choose (x.options.config.map Path.mk) x.world).1

/-- The world after looking for the settings. -/
def ready : World σ :=
  (x.host.choose (x.options.config.map Path.mk) x.world).2

/-- The reporter of the settings in charge. -/
def reporter : Reporter σ :=
  .ofSettings x.choice.settings x.host.runner

/-- How the program ends, and the world that it leaves. -/
def ended : Report × World σ :=
  x.host.run x.arguments x.world

/-- The visits to the parties, in order: to the sinks that a failure without an updater is reported
to, or those of the call. -/
def history : List Visit :=
  match x.choice.updater with
  | .error failure =>
    (x.reporter.watched.error (Host.setUpMessage failure) x.ready.watched).2.history
  | .ok u => (u.account x.ready x.call).1.visits

lemma ready_logged : ∃ site, x.world.toSite.Logged site
    ∧ x.ready = { x.world with toSite := site } :=
  x.host.choose_logged _ _

lemma ended_eq : ∃ shown, x.ended
    = (Host.reportOf shown (x.host.perform { command := x.call.command, options := x.options }
          x.world).1,
        (x.host.perform { command := x.call.command, options := x.options } x.world).2) := by
  rw [ended, Host.run, x.reads]
  exact ⟨_, rfl⟩

lemma exitCode_reportOf (shown : List String) (result : Except Problem (List String)) :
    (Host.reportOf shown result).exitCode = 0 ∧ (¬ ∃ problem, result = .error problem)
      ∨ (Host.reportOf shown result).exitCode = 1 ∧ ∃ problem, result = .error problem := by
  cases result with
  | ok => exact .inl ⟨rfl, by simp⟩
  | error problem => exact .inr ⟨rfl, problem, rfl⟩

/-- The program fails without an updater, or if the call fails. -/
inductive Fails : Prop where
  | unready {f : Failure} (failed : x.choice.updater = .error f)
  | called {u : Updater σ} {f : Failure} (ready : x.choice.updater = .ok u)
      (failed : (u.account x.ready x.call).1.result = .error f)

variable {x} in
/-- With an updater, the program fails if the call does. -/
lemma fails_of_ready {u : Updater σ} (ready : x.choice.updater = .ok u) :
    x.Fails ↔ ∃ f, (u.account x.ready x.call).1.result = .error f := by
  constructor
  · rintro (failed | ⟨ready', failed⟩)
    · cases ready.symm.trans failed
    · cases ready.symm.trans ready'
      exact ⟨_, failed⟩
  · rintro ⟨f, failed⟩
    exact .called ready failed

variable {x} in
/-- An updater that was found reports to the sinks in charge. -/
lemma reportsTo {u : Updater σ} (ready : x.choice.updater = .ok u) : u.ReportsTo x.reporter := by
  obtain ⟨feed, installers, rfl⟩ := Updater.ofSettings_eq_ok (x.host.choose_updater _ _ ready)
  exact ⟨rfl, rfl, rfl⟩

/-- The exit code tells whether the program fails. -/
lemma exitCode_cases : x.ended.1.exitCode = 0 ∧ ¬ x.Fails ∨ x.ended.1.exitCode = 1 ∧ x.Fails := by
  obtain ⟨shown, ended⟩ := x.ended_eq
  obtain ⟨failed, ready⟩ := x.host.setUp_choose (x.options.config.map Path.mk) x.world
  have fails : x.Fails ↔ ∃ problem, (x.host.perform
      { command := x.call.command, options := x.options } x.world).1 = .error problem := by
    cases chosen : x.choice.updater with
    | ok u =>
      rw [(Host.perform_of_ready x.call (ready u chosen)).2]
      exact fails_of_ready chosen
    | error f =>
      obtain ⟨problem, setUp⟩ := failed f chosen
      rw [Host.perform_of_failed x.call setUp]
      exact ⟨fun _ => ⟨problem, rfl⟩, fun _ => .unready chosen⟩
  rw [ended, fails]
  exact exitCode_reportOf shown _

lemma exitCode_of_fails (fails : x.Fails) : x.ended.1.exitCode = 1 := by
  rcases x.exitCode_cases with ⟨-, fine⟩ | ⟨code, -⟩
  · exact absurd fails fine
  · exact code

lemma exitCode_of_not_fails (fine : ¬ x.Fails) : x.ended.1.exitCode = 0 := by
  rcases x.exitCode_cases with ⟨code, -⟩ | ⟨-, fails⟩
  · exact code
  · exact absurd fails fine

/-! ## The trace of a program -/

/-- The program leaves a trace whose reports all go to the sinks in charge.  Without an updater, the
report of that is all there is. -/
lemma traced : ∃ ms, Traced x.ready x.ended.2 x.history ms ∧ Reporting x.reporter ms
    ∧ ∀ f, x.choice.updater = .error f →
        Reported x.reporter .error (Host.setUpMessage f) ms := by
  obtain ⟨shown, ended⟩ := x.ended_eq
  obtain ⟨failed, ready⟩ := x.host.setUp_choose (x.options.config.map Path.mk) x.world
  rw [ended]
  cases chosen : x.choice.updater with
  | ok u =>
    have visits : x.history = (u.account x.ready x.call).1.visits := by
      rw [history, chosen]
    have world : (x.host.perform { command := x.call.command, options := x.options } x.world).2
        = (u.account x.ready x.call).2 :=
      (Host.perform_of_ready x.call (ready u chosen)).1
    rw [visits, world]
    obtain ⟨ms, traced, reporting⟩ := u.account_traced x.ready x.call (reportsTo chosen)
    exact ⟨ms, traced, reporting, by simp⟩
  | error f =>
    obtain ⟨problem, setUp⟩ := failed f chosen
    have visits : x.history
        = (x.reporter.watched.error (Host.setUpMessage f) x.ready.watched).2.history := by
      rw [history, chosen]
    have world : (x.host.perform { command := x.call.command, options := x.options } x.world).2
        = (x.reporter.error (Host.setUpMessage f) x.ready).2 := by
      rw [Host.perform_of_failed x.call setUp]
      rfl
    rw [visits, world]
    obtain ⟨ms, traced, reported⟩ :=
      (x.reporter.report_runs .error (Host.setUpMessage f)).traced
        (x.reporter.report_mirrors .error (Host.setUpMessage f)) x.ready
    refine ⟨ms, traced, .reported reported, ?_⟩
    rintro _ ⟨⟩
    exact reported

end Started

end CommandLine

end SignedUpgrade
