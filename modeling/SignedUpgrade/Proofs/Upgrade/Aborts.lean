import SignedUpgrade.Proofs.Release.Installers
import SignedUpgrade.Proofs.Upgrade.Detection
import SignedUpgrade.Proofs.Upgrade.Prediction

/-!
# Which failure ends a call where

A call that fails reports the state that it had reached, and in each state only some failures can
arise.  That a text holds no version is none of them: neither the version command nor a tag can end
a call in this way.

* `UpdateState.admits` — the failures that can arise in a state;
* `Inspector.IsStock` — the inspectors that the updater comes with;
* `StepFails.admitted`, `Prepared.admitted` — each step fails as its state admits;
* `Event.Aborts` — an event that reports a failure and names a state;
* `Account.Fits` — the failure of a call fits the state that is reported with it;
* `Updater.call_fits` — **every failure fits its state, and none is about a version**.
-/

namespace SignedUpgrade

open Net

variable {σ : Type}

/-! ## The failures of a state -/

/-- Which failures can arise in a state. -/
def UpdateState.admits : UpdateState → Failure → Bool
  | .start, .feedUnreachable .. | .start, .feedMalformed .. => true
  | .versionChecked, .noInstallerAsset .. | .versionChecked, .ambiguousInstallerAsset .. => true
  | .downloading, .io _ | .downloading, .invalidAssetName _
  | .downloading, .downloadFailed .. => true
  | .verifying, .processLaunchFailed .. | .verifying, .processTimeout .. => true
  | .verifying, f => f.category = .security
  | .uninstalling, .processLaunchFailed .. | .uninstalling, .processTimeout ..
  | .uninstalling, .processFailed .. | .uninstalling, .io _ => true
  | .installing, .processLaunchFailed .. | .installing, .processTimeout ..
  | .installing, .processFailed .. => true
  | _, _ => false

/-- No state admits a failure that is absorbed. -/
lemma UpdateState.isFatal_of_admits {s : UpdateState} {f : Failure} (h : s.admits f = true) :
    f.isFatal = true := by
  cases f with
  | versionParse input => cases s <;> cases h
  | _ => rfl

/-! ## Parties that fail as they should -/

/-- A failure to run a program to its end. -/
def Failure.IsUnended (f : Failure) : Prop :=
  (∃ program reason, f = .processLaunchFailed program reason)
    ∨ ∃ program seconds, f = .processTimeout program seconds

/-- A runner that fails only to run a program to its end, with a last argument of its own or not. -/
structure Runner.FailsUnended (r : Runner σ) : Prop where
  run : ∀ program arguments limit site f,
    (r.run program arguments limit site).1 = .error f → f.IsUnended
  runWithTail : r.ReportsEnds

/-- The inspectors that the updater comes with: the two of its platforms, and those that stand in for
them and report in any case. -/
inductive Inspector.IsStock : Inspector σ → Prop where
  | authenticode {wording : Json.Wording} {r : Runner σ} (runner : r.FailsUnended) :
    IsStock (authenticode wording r)
  | unsupported : IsStock unsupported
  | reporting {i : Inspector σ} (reports : ∀ path site, ∃ report, (i path site).1 = .ok report) :
      IsStock i

/-- A failure to run the script to its end can arise in an inspection. -/
lemma Failure.IsUnended.admitted {f : Failure} (h : f.IsUnended) :
    UpdateState.verifying.admits f = true := by
  rcases h with ⟨program, reason, rfl⟩ | ⟨program, seconds, rfl⟩
  · rfl
  · rfl

lemma UpdateState.admits_security {f : Failure} (security : f.category = .security) :
    UpdateState.verifying.admits f = true := by
  cases f <;> first | rfl | cases security

/-- A printed report that cannot be read fails the inspection. -/
lemma SignatureReport.ofPrinted_category {wording : Json.Wording} {path : Path} {printed : String}
    {f : Failure} (h : ofPrinted wording path printed = .error f) : f.category = .security := by
  unfold ofPrinted at h
  dsimp only at h
  split at h
  · cases h
    rfl
  · split at h
    · cases h
      rfl
    · cases h

/-- A report that is refused is refused for security. -/
lemma SignatureReport.verify_category {report : SignatureReport} {key : TrustedKey} {path : Path}
    {f : Failure} (h : report.verify key path = .error f) : f.category = .security := by
  unfold verify at h
  split at h
  · split at h
    · split at h
      · cases h
      · cases h
        rfl
    · cases h
      rfl
  · cases h
    rfl
  · cases h
    rfl

lemma Inspector.IsStock.admitted {i : Inspector σ} (h : i.IsStock) {path : Path} {site : Site σ}
    {f : Failure} (failed : (i path site).1 = .error f) :
    UpdateState.verifying.admits f = true := by
  cases h with
  | @authenticode wording r runner =>
    unfold Inspector.authenticode at failed
    dsimp only at failed
    generalize ran : PowerShell.run r (Inspector.script path)
      (site.debug ("Inspecting Authenticode signature of " ++ path.text)) = run at failed
    obtain ⟨answer, site'⟩ := run
    cases answer with
    | error f' =>
      cases failed
      unfold PowerShell.run at ran
      exact (runner.run _ _ _ _ _ (congrArg Prod.fst ran)).admitted
    | ok output =>
      cases succeeded : output.succeeded with
      | true =>
        simp only [succeeded, if_true] at failed
        exact UpdateState.admits_security (SignatureReport.ofPrinted_category failed)
      | false =>
        simp only [succeeded, Bool.false_eq_true, if_false, Except.error.injEq] at failed
        rw [← failed]
        rfl
  | unsupported =>
    cases failed
    rfl
  | reporting reports =>
    obtain ⟨report, answer⟩ := reports path site
    rw [answer] at failed
    cases failed

/-! ## The steps of a call -/

variable {u : Updater σ} {f : StepFailure} {ds : List Deed}

/-- An executor whose programs fail only to run to their end, with an inspector that the updater
comes with. -/
structure Executor.IsStock (e : Executor σ) : Prop where
  runner : e.runner.ReportsEnds
  inspector : e.inspector.IsStock

/-- No release is made of a response only because of the feed. -/
lemma Resolver.releaseOf_admitted {r : Resolver σ} {response : Except String Response} {f : Failure}
    (h : r.releaseOf response = .error f) : UpdateState.start.admits f = true := by
  unfold Resolver.releaseOf at h
  split at h
  · cases h
    rfl
  · split at h
    · cases h
      rfl
    · split at h
      · cases h
      · cases h
        rfl

/-- No decision is made on a release only because of its installers. -/
lemma Release.decide_admitted {release : Release} {pattern : Pattern} {current : Version}
    {f : Failure} (h : release.decide pattern current = .error f) :
    UpdateState.versionChecked.admits f = true := by
  unfold Release.decide at h
  dsimp only at h
  split at h
  · cases h
  · split at h
    · cases h
    · cases h
      rfl
    · cases h
      rfl

lemma Prepared.admitted (h : Prepared u (.error f) ds) : f.state.admits f.failure = true := by
  cases h with
  | noRelease _ release => exact Resolver.releaseOf_admitted release
  | undecided _ _ decision => exact Release.decide_admitted decision

lemma DownloadFails.admitted {asset : Asset} {f : Failure} (h : DownloadFails u asset f ds) :
    UpdateState.downloading.admits f = true := by
  cases h with
  | unsafeName | unanswered => rfl
  | unsaved _ cause =>
    rcases cause with ⟨fault, rfl⟩ | rfl
    · rfl
    · rfl

lemma Executor.IsStock.verdict_admitted {e : Executor σ} (h : e.IsStock) {path : Path}
    {site : Site σ} {f : Failure} (refused : e.verdict path (e.inspector path site).1 = .error f) :
    UpdateState.verifying.admits f = true := by
  cases answer : (e.inspector path site).1 with
  | error f' =>
    rw [answer] at refused
    cases refused
    exact h.inspector.admitted answer
  | ok report =>
    rw [answer] at refused
    exact UpdateState.admits_security (SignatureReport.verify_category refused)

/-- A program that works on the installation is not run to its end, or fails. -/
lemma Executor.IsStock.ending_admitted {e : Executor σ} (h : e.IsStock) {name tail : String}
    {program : Path} {site : Site σ} {f : Failure}
    (ended : ending name (e.runner.runWithTail program [Executor.silent] tail none site).1
      = .error f) :
    UpdateState.uninstalling.admits f = true ∧ UpdateState.installing.admits f = true := by
  rcases h.runner.ending_cases ended with ⟨_, _, rfl⟩ | ⟨_, _, rfl⟩ | ⟨_, _, rfl⟩
  · exact ⟨rfl, rfl⟩
  · exact ⟨rfl, rfl⟩
  · exact ⟨rfl, rfl⟩

lemma StepFails.admitted (stock : u.executor.IsStock) {asset : Asset}
    (h : StepFails u asset f ds) : f.state.admits f.failure = true := by
  cases h with
  | notStaged => rfl
  | notDownloaded fails => exact fails.admitted
  | refused site _ verdict => exact stock.verdict_admitted verdict
  | notUninstalled site _ _ fails =>
    rcases fails with ended | ⟨_, fault, rfl⟩
    · exact (stock.ending_admitted ended).1
    · rfl
  | notInstalled site _ _ ended => exact (stock.ending_admitted ended).2

lemma FailsIn.admitted (stock : u.executor.IsStock) (h : FailsIn u f ds) :
    f.state.admits f.failure = true := by
  cases h with
  | undecided prepared => exact prepared.admitted
  | notInstalled _ fails => exact fails.admitted stock

/-! ## What is reported -/

/-- An event reports a failure and names the state that the failure arose in. -/
def Event.Aborts (e : Event) (s : UpdateState) : Prop :=
  e.severity = .error
    ∧ ∃ reason, e.message = "Certbot auto-upgrade aborted while " ++ s.text ++ ": " ++ reason

/-- The text of a state is one of a kind, and no colon in it could be taken for its end. -/
lemma UpdateState.text_inj {s s' : UpdateState} {reason reason' : String}
    (h : "Certbot auto-upgrade aborted while " ++ s.text ++ ": " ++ reason
      = "Certbot auto-upgrade aborted while " ++ s'.text ++ ": " ++ reason') : s = s' := by
  have colon : ∀ s : UpdateState, ':' ∉ s.text.toList := by
    intro s
    cases s <;> decide
  have lists := congrArg String.toList h
  simp only [String.toList_append, List.append_assoc, List.append_cancel_left_eq] at lists
  have texts := (append_separator_inj (colon s) (colon s') lists).1
  rw [String.toList_inj] at texts
  revert texts
  cases s <;> cases s' <;> decide

/-- The failure of a call fits the state that is reported with it. -/
structure Account.Fits (x : Account) : Prop where
  /-- A call that fails reports the failure with a state. -/
  named : ∀ f, x.result = .error f → ∃ event ∈ x.events, ∃ s, event.Aborts s
  /-- The state that it reports can end in this failure. -/
  admitted : ∀ f, x.result = .error f → ∀ event ∈ x.events, ∀ s, event.Aborts s →
    s.admits f = true
  /-- No failure is one that is to be absorbed. -/
  fatal : ∀ f, x.result = .error f → f.isFatal = true

lemma Account.fits_of_ok {x : Account} {reply : Reply} (h : x.result = .ok reply) : x.Fits := by
  have never : ∀ f, x.result ≠ .error f := by
    intro f failed
    rw [h] at failed
    cases failed
  exact ⟨fun f failed => absurd failed (never f), fun f failed => absurd failed (never f),
    fun f failed => absurd failed (never f)⟩

/-- A call fits if the failure that it reports last is admitted. -/
lemma Account.fits_of_abortedWith {x : Account} (failed : x.result = .error f.failure)
    (aborted : AbortedWith x.visits f) (admitted : f.state.admits f.failure = true) : x.Fits := by
  obtain ⟨earlier, time, events, calm⟩ := aborted
  have all : x.events = earlier ++ [⟨time, .error, Updater.abortMessage f⟩] := events
  refine ⟨?_, ?_, ?_⟩
  · intro _ _
    exact ⟨_, by rw [all]; exact List.mem_append_right _ (List.mem_singleton.2 rfl), f.state, rfl,
      f.failure.message, rfl⟩
  · rintro f' failed' event mem s ⟨severe, reason, names⟩
    rw [failed] at failed'
    cases failed'
    rw [all, List.mem_append, List.mem_singleton] at mem
    rcases mem with mem | rfl
    · exact absurd severe (calm event mem)
    · rw [← UpdateState.text_inj names]
      exact admitted
  · intro f' failed'
    rw [failed] at failed'
    cases failed'
    exact UpdateState.isFatal_of_admits admitted

/-! ## Versions that are not told -/

/-- A tag without a version is taken for the lowest one, over which nothing is installed. -/
lemma Release.decide_of_not_isTagged {release : Release} {pattern : Pattern} {current : Version}
    (untagged : ¬ release.IsTagged) :
    release.decide pattern current = .ok (.noActionNeeded current .unknown) := by
  rw [Release.isTagged_iff, Bool.not_eq_false, Option.isNone_iff_eq_none] at untagged
  have unknown : Version.extractOrUnknown release.tag = .unknown := by
    rw [Version.extractOrUnknown, untagged, Option.getD_none]
  rw [Release.decide_of_not_newer (unknown ▸ Release.unknown_numbers_le current), unknown]

/-- What a call replies that finds nothing to do. -/
def Call.nothing (current latest : Version) : Call → Reply
  | .check => .decided (.noActionNeeded current latest)
  | .run => .ended (.upToDate current latest)

/-- A call asks the feed whatever the version command answers, and finds nothing to do about a tag
without a version. -/
def Updater.Absorbs (u : Updater σ) (w : World σ) (call : Call) : Prop :=
  ∃ program site response vs rest,
    acts (u.account w call).1.visits = u.resolver.commandVisit program site :: (vs ++ rest)
      ∧ Fetched u.resolver.network Resolver.accept u.resolver.feedUrl response vs
      ∧ ∀ release, u.resolver.releaseOf response = .ok release →
        ¬ release.IsTagged → (u.account w call).1.result
          = .ok (call.nothing (u.resolver.installed program site) .unknown)

namespace Updater

variable (u : Updater σ) (w : World σ)

lemma check_absorbs : u.Absorbs w .check := by
  obtain ⟨result, ds, outcome, prepared, acts, _⟩ := u.check_decided_on w
  obtain ⟨program, site, response, vs, fetched, rfl, rfl⟩ := prepared.decision
  refine ⟨program, site, response, vs, [], ?_, fetched, fun release released untagged => ?_⟩
  · rw [account_check, acts]
    simp [preparationDeeds]
  · rw [account_check, outcome, released, Resolver.decision,
      Release.decide_of_not_isTagged untagged]
    rfl

lemma run_absorbs : u.Absorbs w .run := by
  obtain ⟨program, site, vs, rest, response, ns, first, fetched, continues, _⟩ := u.run_decides w
  refine ⟨program, site, response, vs, rest, ?_, fetched, fun release released untagged => ?_⟩
  · rw [account_run, first]
  · rw [released, Resolver.decision, Release.decide_of_not_isTagged untagged] at continues
    rw [account_run]
    generalize (u.run.outcome w).1 = answer at continues
    cases continues with
    | upToDate => rfl

/-! ## Calls -/

lemma check_fits : (u.account w .check).1.Fits := by
  obtain ⟨result, ds, outcome, prepared, _, aborted⟩ := u.check_decided_on w
  rw [account_check, outcome]
  cases result with
  | ok decision => exact Account.fits_of_ok rfl
  | error f => exact Account.fits_of_abortedWith rfl (aborted f rfl) prepared.admitted

lemma run_fits (stock : u.executor.IsStock) : (u.account w .run).1.Fits := by
  obtain ⟨ms, traced, running⟩ := u.run_traced w
  obtain ⟨_, leads, _⟩ := traced.leads
  rw [account_run, traced.history]
  generalize (u.run.outcome w).1 = answer at running
  cases answer with
  | ok outcome => exact Account.fits_of_ok rfl
  | error f =>
    obtain ⟨state, ds, ns, told, rfl, calm, aborting, _, fails⟩ := running.trail_failed leads
    exact Account.fits_of_abortedWith (f := ⟨state, f⟩) rfl (aborting.abortedWith calm)
      (fails.admitted stock)

/-- **Every failure fits its state, and none is about a version.**  A version that is not told, by
the version command or by a tag, ends no call: a call goes on to the feed, and a tag without a
version leaves nothing to do.  And a failure that does end a call is one of those that can arise in
the state which the call reports with it. -/
theorem call_fits (u : Updater σ) (w : World σ) :
    (∀ call, u.Absorbs w call) ∧ (u.account w .check).1.Fits
      ∧ (u.executor.IsStock → (u.account w .run).1.Fits) := by
  refine ⟨?_, u.check_fits w, u.run_fits w⟩
  rintro (_ | _)
  · exact u.check_absorbs w
  · exact u.run_absorbs w

/-- An updater whose programs do not end in time. -/
def hanging : Updater Unit :=
  let runner : Runner Unit := {
    run := fun program _ _ site => (.error (.processTimeout program.text 120), site) }
  { offered .unknown with
    resolver := { (offered .unknown).resolver with runner }
    executor := { (offered .unknown).executor with
      runner
      inspector := .authenticode (fun _ _ => "no report") runner } }

/-- A version command that does not end is absorbed, and the same failure of the inspector ends the
run, as one that fits the state in which the inspector is asked. -/
theorem call_fits_hanging :
    (∃ event ∈ (hanging.account .installed .run).1.events, event.Aborts .verifying)
      ∧ (hanging.account .installed .run).1.result = .error (.processTimeout "powershell.exe" 120)
      ∧ (hanging.account .installed .run).1.Fits := by
  have unended : hanging.executor.runner.FailsUnended := by
    refine ⟨?_, ?_⟩
    · rintro program arguments limit site f ⟨⟩
      exact .inr ⟨_, _, rfl⟩
    · rintro program arguments tail limit site f ⟨⟩
      exact .inr ⟨_, _, rfl⟩
  have ends : (hanging.account .installed .run).1.result.map (fun _ => ())
        = .error (.processTimeout "powershell.exe" 120)
      ∧ (hanging.account .installed .run).1.events.getLast?.map (fun e => (e.severity, e.message))
        = some (.error, "Certbot auto-upgrade aborted while verifying the installer signature: "
          ++ "powershell.exe did not finish within 120 seconds") := by
    decide +kernel
  obtain ⟨failed, reported⟩ := ends
  have inspector : (Inspector.authenticode (fun _ _ => "no report")
      hanging.executor.runner).IsStock := .authenticode unended
  have fits := (call_fits hanging .installed).2.2 ⟨unended.runWithTail, inspector⟩
  generalize (hanging.account .installed .run).1 = x at failed reported fits
  obtain ⟨event, last, tells⟩ := Option.map_eq_some_iff.1 reported
  obtain ⟨severe, message⟩ := Prod.mk.inj tells
  refine ⟨⟨event, List.mem_of_getLast? last, severe, _, message⟩, ?_, fits⟩
  cases result : x.result with
  | ok reply =>
    rw [result] at failed
    cases failed
  | error f =>
    rw [result, Except.map] at failed
    cases failed
    rfl

end Updater

end SignedUpgrade
