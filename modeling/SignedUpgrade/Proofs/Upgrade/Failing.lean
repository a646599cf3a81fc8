import SignedUpgrade.Proofs.Upgrade.Gate

/-!
# Where a call fails

A failure belongs to the step that it arose in.  Which step this was is not a matter of what the
updater says about it: it can be seen from the deeds of the call, that is, from who was asked last
and what the answer was.

* `StepFails` — the failure of an installation, with the deeds up to it;
* `FailsIn` — the failure of a call, with the deeds up to it;
* `Stepping.fails`, `Executing.fails` — installations that fail do so in one of these ways.
-/

namespace SignedUpgrade

open Net

variable {σ : Type}

/-- How an installation can fail: the state that the failure arises in, and what was done until
then. -/
inductive StepFails (u : Updater σ) (asset : Asset) : StepFailure → List Deed → Prop where
  /-- There is no staging directory for the installer. -/
  | notStaged {fault : IoFault} : StepFails u asset ⟨.downloading, .io fault⟩ []
  /-- The installer is not asked for, does not arrive or is not saved. -/
  | notDownloaded {f : Failure} {ds : List Deed} (fails : DownloadFails u asset f ds) :
      StepFails u asset ⟨.downloading, f⟩ ds
  /-- The inspector fails, or its report is refused. -/
  | refused {response : Response} {vs : List Visit} {file : Path} {f : Failure} (site : Site σ)
      (fetched : Fetched u.executor.network Download.accept asset.url (.ok response) vs)
      (verdict : u.executor.verdict file (u.executor.inspector file site).1 = .error f) :
      StepFails u asset ⟨.verifying, f⟩
        [⟨.downloadRequest asset.url, vs⟩,
          ⟨.inspection file, [inspectionVisit u.executor file site]⟩]
  /-- The uninstaller fails, or it cannot be removed. -/
  | notUninstalled {response : Response} {vs : List Visit} {file : Path} {inspected : Visit}
      {f : Failure} (site : Site σ)
      (fetched : Fetched u.executor.network Download.accept asset.url (.ok response) vs)
      (accepted : Accepted u [⟨.inspection file, [inspected]⟩] file)
      (fails : UninstallFails u.executor site f) :
      StepFails u asset ⟨.uninstalling, f⟩
        (installationDeeds u asset.url file vs inspected
          (some (uninstallerVisit u.executor site)) none)
  /-- The installer fails. -/
  | notInstalled {response : Response} {vs : List Visit} {file : Path} {inspected : Visit}
      {uninstalled : Option Visit} {f : Failure} (site : Site σ)
      (fetched : Fetched u.executor.network Download.accept asset.url (.ok response) vs)
      (accepted : Accepted u [⟨.inspection file, [inspected]⟩] file)
      (ending : installerEnding u.executor file asset site = .error f) :
      StepFails u asset ⟨.installing, f⟩
        (installationDeeds u asset.url file vs inspected uninstalled
          (some (installerVisit u.executor file site)))

/-- How a call can fail: the state that the failure arises in, and what was done until then. -/
inductive FailsIn (u : Updater σ) : StepFailure → List Deed → Prop where
  /-- No release is found, or no decision is made on it. -/
  | undecided {f : StepFailure} {ds : List Deed} (prepared : Prepared u (.error f) ds) :
      FailsIn u f ds
  /-- The installation that was decided on fails. -/
  | notInstalled {current version : Version} {asset : Asset} {f : StepFailure} {ds es : List Deed}
      (prepared : Prepared u (.ok (.upgradeTo current version asset)) ds)
      (fails : StepFails u asset f es) : FailsIn u f (ds ++ es)

variable {u : Updater σ} {s s' : Scene} {ms : List Mark}

/-- What arrived was fetched by the deed that is known. -/
lemma Arrived.fetched {history vs : List Visit} {url : String} {path : Path}
    (h : Arrived u history [⟨.downloadRequest url, vs⟩] path) :
    ∃ response, Fetched u.executor.network Download.accept url (.ok response) vs := by
  obtain ⟨url', response, vs', _, _, _, mem, fetched, _⟩ := h
  simp only [List.mem_singleton, Deed.mk.injEq, Action.downloadRequest.injEq] at mem
  rw [mem.1, mem.2] at fetched
  exact ⟨response, fetched⟩

lemma Stepping.fails {directory : Path} {version : Version} {asset : Asset} {f : StepFailure}
    (h : Stepping u.executor directory version asset (.error f) ms) (leads : Leads s ms s') :
    ∃ ds, Does u ms ds ∧ StepFails u asset f ds := by
  cases h with
  | unfetched fetching =>
    obtain ⟨ds, does, fails⟩ := fetching.does_failed
    exact ⟨ds, does, .notDownloaded fails⟩
  | unverified fetching verifying =>
    obtain ⟨_, first, _⟩ := leads.split
    obtain ⟨vs, does, arrived⟩ := fetching.arrived first
    obtain ⟨response, fetched⟩ := arrived.fetched
    obtain ⟨site, inspects, refused⟩ := verifying.does_refused
    exact ⟨_, does.append inspects, .refused site fetched refused⟩
  | @notUninstalled file f ms ns os fetching verifying uninstalled =>
    obtain ⟨_, first, rest⟩ := leads.split
    obtain ⟨_, second, third⟩ := rest.split
    obtain ⟨vs, does, arrived⟩ := fetching.arrived first
    obtain ⟨response, fetched⟩ := arrived.fetched
    obtain ⟨inspected, _, inspects, accepted, _⟩ := verifying.accepted_told second
    obtain ⟨_, uninstalls, _, _, fails⟩ := uninstalled.does third
    obtain ⟨site, rfl, cause⟩ := fails f rfl
    refine ⟨_, ?_, .notUninstalled site fetched accepted cause⟩
    exact does.append (inspects.append uninstalls)
  | @notInstalled file f ms ns os ps fetching verifying uninstalled installing =>
    obtain ⟨_, first, rest⟩ := leads.split
    obtain ⟨_, second, rest⟩ := rest.split
    obtain ⟨_, third, _⟩ := rest.split
    obtain ⟨vs, does, arrived⟩ := fetching.arrived first
    obtain ⟨response, fetched⟩ := arrived.fetched
    obtain ⟨inspected, _, inspects, accepted, _⟩ := verifying.accepted_told second
    obtain ⟨v, uninstalls, _⟩ := uninstalled.does third
    obtain ⟨site, installs, ending⟩ := installing.does
    exact ⟨installationDeeds u asset.url file.path vs inspected v
      (some (installerVisit u.executor file.path site)),
      does.append (inspects.append (uninstalls.append installs)),
      .notInstalled site fetched accepted ending⟩

lemma Executing.fails {version : Version} {asset : Asset} {f : StepFailure}
    (h : Executing u.executor version asset (.error f) ms) (leads : Leads s ms s') :
    ∃ ds, Does u ms ds ∧ StepFails u asset f ds := by
  cases h with
  | unstaged => exact ⟨[], .nothing rfl rfl, .notStaged⟩
  | staged creation stepping cleaned =>
    obtain ⟨_, _, rest⟩ := leads.uncons
    obtain ⟨_, _, rest⟩ := rest.uncons
    obtain ⟨_, steps, _⟩ := rest.split
    obtain ⟨ds, does, fails⟩ := stepping.fails steps
    refine ⟨ds, .cons rfl rfl (.cons rfl rfl ?_), fails⟩
    simpa using does.append cleaned.does

end SignedUpgrade
