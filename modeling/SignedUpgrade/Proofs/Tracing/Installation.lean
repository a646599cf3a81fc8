import SignedUpgrade.Proofs.Tracing.Download

/-!
# The trace of an installation

Every step of an installation leaves a trace, and how far the step comes decides which.  For each
step there is one relation between its result and its trace, with one constructor for each way in
which the step can end, and one lemma that says that nothing else happens.

* `Fetching` — an installer is fetched into a directory;
* `Verifying` — its signature is looked at;
* `Uninstalling`, `OldUninstalled` — the old version is uninstalled, if there is one;
* `Installing` — the installer is started;
* `Finishing` — these three, behind the download;
* `Stepping` — these steps one after the other;
* `Executing` — the steps in a staging directory.
-/

namespace SignedUpgrade

open Net Text

variable {σ : Type}

/-! ## Fetching -/

variable (e : Executor σ)

/-- What is reported before an installer is fetched. -/
def Executor.fetchingText (version : Version) (asset : Asset) : String :=
  "Downloading Certbot " ++ version.text ++ " installer from " ++ asset.url

/-- What is reported about an installer that was fetched. -/
def Executor.fetchedText (asset : Asset) (file : Downloaded) : String :=
  "Downloaded " ++ asset.name ++ " (" ++ toString file.size ++ " bytes, SHA-256 " ++ file.sha256
    ++ ")"

/-- The trace of fetching an installer. -/
inductive Fetching (directory : Path) (version : Version) (asset : Asset) :
    Except Failure Downloaded → List Mark → Prop where
  | failed {f : Failure} {start ms : List Mark}
      (reported : Reported e.reporter .information (Executor.fetchingText version asset) start)
      (downloading : Downloading e.network asset directory (.error f) ms) :
      Fetching directory version asset (.error f) (start ++ ms)
  | fetched {file : Downloaded} {start ms done : List Mark}
      (reported : Reported e.reporter .information (Executor.fetchingText version asset) start)
      (downloading : Downloading e.network asset directory (.ok file) ms)
      (told : Reported e.reporter .information (Executor.fetchedText asset file) done) :
      Fetching directory version asset (.ok file) (start ++ (ms ++ done))

lemma Executor.fetch_runs (directory : Path) (version : Version) (asset : Asset) :
    Steps.Runs (e.watched.fetch directory version asset)
      (Fetching e directory version asset) := by
  refine .liftBind (e.reporter.report_runs _ _) ?_
  intro _ start reported
  refine .bind (download_runs e.network asset directory) ?_ ?_
  · intro file ms downloading
    refine .liftBind (e.reporter.report_runs _ _) ?_
    intro _ done told
    refine .pure ?_
    simpa using Fetching.fetched reported downloading told
  · intro f ms downloading
    exact .failed reported downloading

/-! ## Verifying -/

/-- What is reported about an installer that was accepted. -/
def Executor.acceptedText : String :=
  "Installer signature is valid and matches the trusted publisher key."

/-- The visit that an inspector gets for a file. -/
def inspectionVisit (path : Path) (site : Site σ) : Visit :=
  .of (e.inspector path) (.inspection path) site

/-- What an inspector's answer means for a file. -/
def Executor.verdict (path : Path) (answer : Except Failure SignatureReport) :
    Except Failure Unit :=
  answer.bind fun report => report.verify e.trustedKey path

/-- The trace of looking at a signature. -/
inductive Verifying (path : Path) : Except Failure Unit → List Mark → Prop where
  | refused {f : Failure} (site : Site σ)
      (verdict : e.verdict path (e.inspector path site).1 = .error f) :
      Verifying path (.error f)
        [.note (.action (.inspection path)), .visit (inspectionVisit e path site)]
  | accepted {done : List Mark} (site : Site σ)
      (verdict : e.verdict path (e.inspector path site).1 = .ok ())
      (told : Reported e.reporter .information Executor.acceptedText done) :
      Verifying path (.ok ())
        (.note (.action (.inspection path)) :: .visit (inspectionVisit e path site) :: done)

lemma Inspector.verified_runs (path : Path) :
    Steps.Runs (Attempt.onSite (verified (Inspector.watched e.inspector) e.trustedKey path))
      fun r ms => ∃ site, r = e.verdict path (e.inspector path site).1
        ∧ ms = [.visit (inspectionVisit e path site)] := by
  refine .onSite ((Work.Runs.onSite (.one (e.inspector path) (.inspection path)
    (e.verdict path) fun site => ?_)).mono ?_)
  · have visit : Inspector.watched e.inspector path
        = watch (e.inspector path) (.inspection path) := rfl
    unfold verified
    rw [visit]
    rcases watch (e.inspector path) (.inspection path) site with ⟨failure | report, after⟩
    · exact ⟨rfl, rfl, rfl⟩
    · cases verdict : report.verify e.trustedKey path with
      | ok => simp [Executor.verdict, Except.bind, verdict, Site.logged]
      | error f => simp [Executor.verdict, Except.bind, verdict]
  · rintro _ _ ⟨_, rfl, site, rfl, rfl⟩
    exact ⟨site, rfl, rfl⟩

lemma Executor.verify_runs (path : Path) :
    Steps.Runs (e.watched.verify path) (Verifying e path) := by
  refine .liftBind (.note _) ?_
  rintro _ _ rfl
  refine .bind (Inspector.verified_runs e path) ?_ ?_
  · rintro _ _ ⟨site, verdict, rfl⟩
    refine (Steps.Runs.lift (e.reporter.report_runs _ _)).mono ?_
    rintro _ done ⟨_, rfl, told⟩
    exact .accepted site verdict.symm told
  · rintro f _ ⟨site, verdict, rfl⟩
    exact .refused site verdict.symm

/-! ## Uninstalling and installing

Both are programs that are started in the same way; only the end of the uninstaller is followed by
another step, the removal of what it leaves behind.
-/

/-- The visit that a runner gets for a program that works on the installation. -/
def launchVisit (program : Path) (tail : String) (site : Site σ) : Visit :=
  .of (e.runner.runWithTail program [Executor.silent] tail none)
    (.tailCommand program [Executor.silent] tail none) site

/-- What a program's end means, if the program goes by a name. -/
def ending (name : String) (answer : Except Failure Output) : Except Failure Unit :=
  answer.bind fun output => (output.check name).map fun _ => ()

/-- The visit of the uninstaller. -/
def uninstallerVisit (site : Site σ) : Visit :=
  launchVisit e e.uninstaller (Executor.uninstallArgument e.installDirectory) site

/-- How the uninstaller ended at a site. -/
def uninstallerEnding (site : Site σ) : Except Failure Unit :=
  ending e.uninstaller.text (e.runner.runWithTail e.uninstaller [Executor.silent]
    (Executor.uninstallArgument e.installDirectory) none site).1

/-- The visit of the installer. -/
def installerVisit (path : Path) (site : Site σ) : Visit :=
  launchVisit e path (Executor.installArgument e.installDirectory) site

/-- How the installer ended at a site. -/
def installerEnding (path : Path) (asset : Asset) (site : Site σ) : Except Failure Unit :=
  ending asset.name (e.runner.runWithTail path [Executor.silent]
    (Executor.installArgument e.installDirectory) none site).1

/-- What is reported before the uninstaller is started. -/
def Executor.uninstallingText : String :=
  "Uninstalling the previous Certbot version..."

/-- The marks of starting the uninstaller. -/
def uninstallerMarks (site : Site σ) : List Mark :=
  [.note (.action (.uninstaller e.uninstaller)), .visit (uninstallerVisit e site)]

/-- The trace of uninstalling. -/
inductive Uninstalling : Except Failure Unit → List Mark → Prop where
  | failed {f : Failure} {start : List Mark} (site : Site σ)
      (reported : Reported e.reporter .information Executor.uninstallingText start)
      (ending : uninstallerEnding e site = .error f) :
      Uninstalling (.error f) (start ++ uninstallerMarks e site)
  | removed {start : List Mark} {t t' : FileTree} (site : Site σ)
      (reported : Reported e.reporter .information Executor.uninstallingText start)
      (ending : uninstallerEnding e site = .ok ())
      (removal : t.removeFile e.uninstaller = .ok t') :
      Uninstalling (.ok ()) (start ++ (uninstallerMarks e site ++ [.change t t']))
  | gone {start : List Mark} {t : FileTree} {fault : IoFault} (site : Site σ)
      (reported : Reported e.reporter .information Executor.uninstallingText start)
      (ending : uninstallerEnding e site = .ok ())
      (removal : t.removeFile e.uninstaller = .error fault) (kind : fault.kind = .notFound) :
      Uninstalling (.ok ()) (start ++ (uninstallerMarks e site ++ [.look t]))
  | kept {start : List Mark} {t : FileTree} {fault : IoFault} (site : Site σ)
      (reported : Reported e.reporter .information Executor.uninstallingText start)
      (ending : uninstallerEnding e site = .ok ())
      (removal : t.removeFile e.uninstaller = .error fault) (kind : fault.kind ≠ .notFound) :
      Uninstalling (.error (.io fault)) (start ++ (uninstallerMarks e site ++ [.look t]))

/-- What is reported where there is no uninstaller. -/
def Executor.nothingInstalledText : String :=
  "No previous installation found in " ++ e.installDirectory.text ++ ", skipping uninstall."

/-- The trace of uninstalling the old version, if there is an uninstaller. -/
inductive OldUninstalled : Except Failure Unit → List Mark → Prop where
  | present {r : Except Failure Unit} {t : FileTree} {ms : List Mark}
      (there : t.hasFile e.uninstaller = true) (uninstalling : Uninstalling e r ms) :
      OldUninstalled r (.look t :: ms)
  | absent {t : FileTree} {told : List Mark} (gone : t.hasFile e.uninstaller = false)
      (reported : Reported e.reporter .information e.nothingInstalledText told) :
      OldUninstalled (.ok ()) (.look t :: told)

/-- What is reported before the installer is started. -/
def Executor.installingText (version : Version) : String :=
  "Installing Certbot " ++ version.text ++ "..."

/-- The trace of installing. -/
inductive Installing (path : Path) (version : Version) (asset : Asset) :
    Except Failure Unit → List Mark → Prop where
  | ended {start : List Mark} (site : Site σ)
      (reported : Reported e.reporter .information (Executor.installingText version) start) :
      Installing path version asset (installerEnding e path asset site)
        (start ++ [.note (.action (.installer path)), .visit (installerVisit e path site)])

namespace Executor

variable {e}

/-- A program of the installation is started, and its end is looked at. -/
lemma launch_runs {α : Type} {V : Except Failure α → List Mark → Prop} (program : Path)
    (tail name : String) (next : Attempt (Watched σ) α)
    (good : ∀ site, ending name (e.runner.runWithTail program [silent] tail none site).1 = .ok () →
      Steps.Runs next fun r ns => V r (.visit (launchVisit e program tail site) :: ns))
    (bad : ∀ site f, ending name (e.runner.runWithTail program [silent] tail none site).1 = .error f
      → V (.error f) [.visit (launchVisit e program tail site)]) :
    Steps.Runs (do
      let output ← Attempt.onSite (e.watched.runner.runWithTail program [silent] tail none)
      let _ ← (output.check name : Except Failure Output)
      next) V := by
  refine .bind (.onSite (.party (e.runner.runWithTail program [silent] tail none)
    (.tailCommand program [silent] tail none))) ?_ ?_
  · rintro output _ ⟨site, answer, rfl⟩
    have good := good site
    have bad := bad site
    rw [← answer] at good bad
    cases verdict : output.check name with
    | ok =>
      simp only [ending, Except.bind, verdict, Except.map] at good
      exact good trivial
    | error f =>
      simp only [ending, Except.bind, verdict, Except.map] at bad
      exact .throw (bad f rfl)
  · rintro f _ ⟨site, answer, rfl⟩
    refine bad site f ?_
    rw [← answer]
    rfl

/-- The uninstaller is removed, or it is gone already, or it cannot be removed. -/
lemma removeLeftover_runs (path : Path) :
    Work.Runs (σ := σ) (Work.onSite (removeLeftover path)) fun r ms =>
      (∃ t t', t.removeFile path = .ok t' ∧ r = .ok () ∧ ms = [.change t t'])
        ∨ ∃ t fault, t.removeFile path = .error fault
          ∧ r = (if fault.kind = .notFound then .ok () else .error (.io fault))
          ∧ ms = [.look t] := by
  refine .change (α := Except Failure Unit) (·.removeFile path) (.ok ())
    (fun fault => if fault.kind = .notFound then .ok () else .error (.io fault)) ?_ ?_ ?_
  · intro site
    unfold removeLeftover
    cases site.files.removeFile path with
    | ok t => rfl
    | error fault => by_cases kind : fault.kind = .notFound <;> simp [kind]
  · intro site t removal
    unfold removeLeftover
    simp [removal, Site.debug, Site.logged]
  · intro site fault removal
    unfold removeLeftover
    by_cases kind : fault.kind = .notFound <;> simp [removal, kind]

lemma uninstall_runs : Steps.Runs e.watched.uninstall (Uninstalling e) := by
  refine .liftBind (e.reporter.report_runs _ _) ?_
  intro _ start reported
  refine .liftBind (.note _) ?_
  rintro _ _ rfl
  refine launch_runs e.uninstaller (uninstallArgument e.installDirectory) e.uninstaller.text _
    ?_ ?_
  · intro site ended
    refine .onSite ((removeLeftover_runs e.uninstaller).mono ?_)
    rintro _ _ (⟨t, t', removal, rfl, rfl⟩ | ⟨t, fault, removal, rfl, rfl⟩)
    · exact .removed site reported ended removal
    · by_cases kind : fault.kind = .notFound
      · rw [if_pos kind]
        exact .gone site reported ended removal kind
      · rw [if_neg kind]
        exact .kept site reported ended removal kind
  · intro site f ended
    exact .failed site reported ended

lemma install_runs (path : Path) (version : Version) (asset : Asset) :
    Steps.Runs (e.watched.install path version asset) (Installing e path version asset) := by
  refine .liftBind (e.reporter.report_runs _ _) ?_
  intro _ start reported
  refine .liftBind (.note _) ?_
  rintro _ _ rfl
  refine launch_runs path (installArgument e.installDirectory) asset.name _ ?_ ?_
  · intro site ended
    refine .pure ?_
    rw [← ended]
    exact .ended site reported
  · intro site f ended
    rw [← ended]
    exact .ended site reported

end Executor

/-! ## All steps -/

/-- A step that belongs to a state leaves the trace of the step. -/
lemma Executor.during_runs {α : Type} {T : Except Failure α → List Mark → Prop}
    (state : UpdateState) {x : Attempt (Watched σ) α} (h : Steps.Runs x T) :
    Steps.Runs (during state x) fun r ms =>
      (∃ a, r = .ok a ∧ T (.ok a) ms) ∨ ∃ f, r = .error ⟨state, f⟩ ∧ T (.error f) ms := by
  refine Work.Runs.bind h ?_
  rintro (f | a) ms t
  · exact .pure (.inr ⟨f, rfl, by simpa using t⟩)
  · exact .pure (.inl ⟨a, rfl, by simpa using t⟩)

lemma Executor.uninstallOld_runs :
    Steps.Runs e.watched.uninstallOld fun r ms =>
      (r = .ok () ∧ OldUninstalled e (.ok ()) ms)
        ∨ ∃ f, r = .error ⟨.uninstalling, f⟩ ∧ OldUninstalled e (.error f) ms := by
  refine .liftBind .files ?_
  rintro t _ rfl
  by_cases there : t.hasFile e.uninstaller = true
  · have there' : t.hasFile e.watched.uninstaller = true := there
    rw [if_pos there']
    refine (during_runs .uninstalling uninstall_runs).mono ?_
    rintro _ ms (⟨_, rfl, uninstalling⟩ | ⟨f, rfl, uninstalling⟩)
    · exact .inl ⟨rfl, .present there uninstalling⟩
    · exact .inr ⟨f, rfl, .present there uninstalling⟩
  · have there' : ¬ t.hasFile e.watched.uninstaller = true := there
    rw [if_neg there']
    refine (Steps.Runs.lift (e.reporter.report_runs _ _)).mono ?_
    rintro _ told ⟨_, rfl, reported⟩
    exact .inl ⟨rfl, .absent (by simpa using there) reported⟩

/-- What is reported at the end of an installation. -/
def Executor.installedText (version : Version) : String :=
  "Certbot " ++ version.text ++ " is installed."

/-- The steps behind the download. -/
def Executor.finish (e : Executor σ) (file : Downloaded) (version : Version) (asset : Asset) :
    Installation σ Unit := do
  during .verifying (e.verify file.path)
  e.uninstallOld
  during .installing (e.install file.path version asset)
  e.reporter.info (Executor.installedText version)

/-- The trace of the steps behind the download. -/
inductive Finishing (file : Downloaded) (version : Version) (asset : Asset) :
    Except StepFailure Unit → List Mark → Prop where
  | unverified {f : Failure} {ns : List Mark} (verifying : Verifying e file.path (.error f) ns) :
      Finishing file version asset (.error ⟨.verifying, f⟩) ns
  | notUninstalled {f : Failure} {ns os : List Mark}
      (verifying : Verifying e file.path (.ok ()) ns)
      (uninstalled : OldUninstalled e (.error f) os) :
      Finishing file version asset (.error ⟨.uninstalling, f⟩) (ns ++ os)
  | notInstalled {f : Failure} {ns os ps : List Mark}
      (verifying : Verifying e file.path (.ok ()) ns)
      (uninstalled : OldUninstalled e (.ok ()) os)
      (installing : Installing e file.path version asset (.error f) ps) :
      Finishing file version asset (.error ⟨.installing, f⟩) (ns ++ (os ++ ps))
  | installed {ns os ps told : List Mark} (verifying : Verifying e file.path (.ok ()) ns)
      (uninstalled : OldUninstalled e (.ok ()) os)
      (installing : Installing e file.path version asset (.ok ()) ps)
      (reported : Reported e.reporter .information (Executor.installedText version) told) :
      Finishing file version asset (.ok ()) (ns ++ (os ++ (ps ++ told)))

lemma Executor.finish_runs (file : Downloaded) (version : Version) (asset : Asset) :
    Steps.Runs (e.watched.finish file version asset) (Finishing e file version asset) := by
  refine .bind (during_runs .verifying (e.verify_runs file.path)) ?_ ?_
  · rintro _ ns (⟨_, ⟨⟩, verifying⟩ | ⟨_, ⟨⟩, _⟩)
    refine .bind e.uninstallOld_runs ?_ ?_
    · rintro _ os (⟨_, uninstalled⟩ | ⟨_, ⟨⟩, _⟩)
      refine .bind (during_runs .installing (install_runs file.path version asset)) ?_ ?_
      · rintro _ ps (⟨_, ⟨⟩, installing⟩ | ⟨_, ⟨⟩, _⟩)
        refine (Steps.Runs.lift (e.reporter.report_runs _ _)).mono ?_
        rintro _ told ⟨_, rfl, reported⟩
        exact .installed verifying uninstalled installing reported
      · rintro _ ps (⟨_, ⟨⟩, _⟩ | ⟨f, ⟨⟩, installing⟩)
        exact .notInstalled verifying uninstalled installing
    · rintro _ os (⟨⟨⟩, _⟩ | ⟨f, ⟨⟩, uninstalled⟩)
      exact .notUninstalled verifying uninstalled
  · rintro _ ns (⟨_, ⟨⟩, _⟩ | ⟨f, ⟨⟩, verifying⟩)
    exact .unverified verifying

/-- The trace of all steps of an installation. -/
inductive Stepping (directory : Path) (version : Version) (asset : Asset) :
    Except StepFailure Unit → List Mark → Prop where
  | unfetched {f : Failure} {ms : List Mark}
      (fetching : Fetching e directory version asset (.error f) ms) :
      Stepping directory version asset (.error ⟨.downloading, f⟩) ms
  | unverified {file : Downloaded} {f : Failure} {ms ns : List Mark}
      (fetching : Fetching e directory version asset (.ok file) ms)
      (verifying : Verifying e file.path (.error f) ns) :
      Stepping directory version asset (.error ⟨.verifying, f⟩) (ms ++ ns)
  | notUninstalled {file : Downloaded} {f : Failure} {ms ns os : List Mark}
      (fetching : Fetching e directory version asset (.ok file) ms)
      (verifying : Verifying e file.path (.ok ()) ns)
      (uninstalled : OldUninstalled e (.error f) os) :
      Stepping directory version asset (.error ⟨.uninstalling, f⟩) (ms ++ (ns ++ os))
  | notInstalled {file : Downloaded} {f : Failure} {ms ns os ps : List Mark}
      (fetching : Fetching e directory version asset (.ok file) ms)
      (verifying : Verifying e file.path (.ok ()) ns)
      (uninstalled : OldUninstalled e (.ok ()) os)
      (installing : Installing e file.path version asset (.error f) ps) :
      Stepping directory version asset (.error ⟨.installing, f⟩) (ms ++ (ns ++ (os ++ ps)))
  | installed {file : Downloaded} {ms ns os ps told : List Mark}
      (fetching : Fetching e directory version asset (.ok file) ms)
      (verifying : Verifying e file.path (.ok ()) ns)
      (uninstalled : OldUninstalled e (.ok ()) os)
      (installing : Installing e file.path version asset (.ok ()) ps)
      (reported : Reported e.reporter .information (Executor.installedText version) told) :
      Stepping directory version asset (.ok ()) (ms ++ (ns ++ (os ++ (ps ++ told))))

lemma Executor.steps_runs (directory : Path) (version : Version) (asset : Asset) :
    Steps.Runs (e.watched.steps directory version asset)
      (Stepping e directory version asset) := by
  refine .bind (during_runs .downloading (e.fetch_runs directory version asset)) ?_ ?_
  · rintro file ms (⟨_, ⟨⟩, fetching⟩ | ⟨_, ⟨⟩, _⟩)
    refine (e.finish_runs file version asset).mono ?_
    rintro _ _ (verifying | ⟨verifying, uninstalled⟩ | ⟨verifying, uninstalled, installing⟩
      | ⟨verifying, uninstalled, installing, reported⟩)
    · exact .unverified fetching verifying
    · exact .notUninstalled fetching verifying uninstalled
    · exact .notInstalled fetching verifying uninstalled installing
    · exact .installed fetching verifying uninstalled installing reported
  · rintro _ ms (⟨_, ⟨⟩, _⟩ | ⟨f, ⟨⟩, fetching⟩)
    exact .unfetched fetching

/-! ## The staging directory -/

/-- The staging directory with a fresh name. -/
def Executor.stagingDirectory (name : String) : Path :=
  e.stagingParent.join (Staging.directoryName "upgrade" name)

/-- The trace of removing a staging directory, which nobody waits for. -/
def Cleaned (directory : Path) (ms : List Mark) : Prop :=
  (∃ t t', t.removeAll directory = .ok t' ∧ ms = [.change t t']) ∨ ∃ t, ms = [.look t]

/-- The trace of an installation in a staging directory. -/
inductive Executing (version : Version) (asset : Asset) :
    Except StepFailure Unit → List Mark → Prop where
  | unstaged {name : String} {t : FileTree} {fault : IoFault}
      (creation : t.createDirectories (e.stagingDirectory name) = .error fault) :
      Executing version asset (.error ⟨.downloading, .io fault⟩) [.draw name, .look t]
  | staged {name : String} {t t' : FileTree} {r : Except StepFailure Unit} {ms cs : List Mark}
      (creation : t.createDirectories (e.stagingDirectory name) = .ok t')
      (stepping : Stepping e (e.stagingDirectory name) version asset r ms)
      (cleaned : Cleaned (e.stagingDirectory name) cs) :
      Executing version asset r (.draw name :: .change t t' :: (ms ++ cs))

lemma Attempt.onFiles_runs (op : FileTree → Except IoFault FileTree) :
    Steps.Runs (σ := σ) (Attempt.onFiles op) fun r ms =>
      (∃ t t', op t = .ok t' ∧ r = .ok () ∧ ms = [.change t t'])
        ∨ ∃ t fault, op t = .error fault ∧ r = .error (.io fault) ∧ ms = [.look t] := by
  refine .onSite (.change (α := Except Failure Unit) op (.ok ()) (fun fault => .error (.io fault))
    ?_ ?_ ?_)
  · intro site
    unfold Site.tryFiles
    cases op site.files <;> rfl
  · intro site t done
    simp [Site.tryFiles, done]
  · intro site fault failed
    simp [Site.tryFiles, failed]

lemma Staging.create_runs (parent : Path) (label : String) :
    Steps.Runs (σ := σ) (create parent label) fun r ms => ∃ name t,
      (∃ t', t.createDirectories (parent.join (directoryName label name)) = .ok t'
          ∧ r = .ok (parent.join (directoryName label name))
          ∧ ms = [.draw name, .change t t'])
        ∨ ∃ fault, t.createDirectories (parent.join (directoryName label name)) = .error fault
          ∧ r = .error (.io fault) ∧ ms = [.draw name, .look t] := by
  refine .liftBind .freshName ?_
  rintro name _ rfl
  refine .bind (Attempt.onFiles_runs _) ?_ ?_
  · rintro _ _ (⟨t, t', creation, _, rfl⟩ | ⟨_, _, _, ⟨⟩, _⟩)
    refine .liftBind (.debug _) ?_
    rintro _ _ rfl
    exact .pure ⟨name, t, .inl ⟨t', creation, rfl, rfl⟩⟩
  · rintro _ _ (⟨_, _, _, ⟨⟩, _⟩ | ⟨t, fault, creation, ⟨⟩, rfl⟩)
    exact ⟨name, t, .inr ⟨fault, creation, rfl, rfl⟩⟩

namespace Executor

lemma cleanUp_runs (directory : Path) :
    Work.Runs (σ := σ) (cleanUp directory) fun _ => Cleaned directory := by
  refine .bind (T := fun _ => Cleaned directory) ?_ ?_
  · refine (Work.Runs.change (α := Except IoFault Unit) (·.removeAll directory) (.ok ())
      (fun fault => if fault.kind = .notFound then .ok () else .error fault) ?_ ?_ ?_).mono ?_
    · intro site
      unfold Staging.removeFrom
      cases site.files.removeAll directory with
      | ok t => rfl
      | error fault => by_cases kind : fault.kind = .notFound <;> simp [kind]
    · intro site t removal
      unfold Staging.removeFrom
      simp [removal, Site.debug, Site.logged]
    · intro site fault removal
      unfold Staging.removeFrom
      by_cases kind : fault.kind = .notFound <;> simp [removal, kind]
    · rintro _ _ (⟨t, t', removal, _, rfl⟩ | ⟨t, _, _, _, rfl⟩)
      · exact .inl ⟨t, t', removal, rfl⟩
      · exact .inr ⟨t, rfl⟩
  · rintro (fault | _) ms cleaned
    · refine (Work.Runs.log _).mono ?_
      rintro _ _ rfl
      simpa using cleaned
    · exact .pure (by simpa using cleaned)

lemma execute_runs (version : Version) (asset : Asset) :
    Work.Runs (e.watched.execute version asset) (Executing e version asset) := by
  refine Work.Runs.bind (Staging.create_runs e.stagingParent "upgrade") ?_
  rintro _ _ ⟨name, t, ⟨t', creation, rfl, rfl⟩ | ⟨fault, creation, rfl, rfl⟩⟩
  · refine Work.Runs.bind (e.steps_runs (e.stagingDirectory name) version asset) ?_
    intro r ms stepping
    refine .bind (cleanUp_runs (e.stagingDirectory name)) ?_
    intro _ cs cleaned
    refine .pure ?_
    simpa using Executing.staged creation stepping cleaned
  · exact .pure (.unstaged creation)

end Executor

end SignedUpgrade
