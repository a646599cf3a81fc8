import SignedUpgrade.Proofs.Watching.Likeness

/-!
# Updaters side by side

Two updaters with the same configuration go alike, call by call, if their parties act alike and
their reports go alike.

* `Staging.create_outcome` — what comes of making a staging directory;
* `Likeness.Stages`, `Likeness.Resolvers`, `Likeness.Executors`, `Likeness.Updaters` — what is asked
  of two updaters;
* `Likeness.Updaters.check`, `Likeness.Updaters.run` — **the calls of two such updaters go alike**.

Each lemma is an application of the rules along one function.
-/

namespace SignedUpgrade

open Net Text

variable {σ τ : Type} {A : Likeness σ τ}

/-! ## Staging directories -/

/-- A staging directory has the next fresh name, and is made if its path lets it be made. -/
lemma Staging.create_outcome (parent : Path) (label : String) (w : World σ) :
    ((create parent label).outcome w).1
      = match w.files.createDirectories
          (parent.join (directoryName label (w.names w.namesUsed))) with
        | .error fault => .error (.io fault)
        | .ok _ => .ok (parent.join (directoryName label (w.names w.namesUsed))) := by
  have drawn : (Attempt.ofWork Work.freshName).run w
      = (.ok (w.names w.namesUsed), { w with namesUsed := w.namesUsed + 1 }) := rfl
  rw [Attempt.outcome, create, Attempt.run_bind, drawn]
  simp only [Attempt.run_bind, Attempt.onFiles_run]
  cases w.files.createDirectories
      (parent.join (directoryName label (w.names w.namesUsed))) with
  | error fault => rfl
  | ok t => rfl

namespace Likeness

/-! ## Downloading -/

/-- The operations by which an installation works in a staging directory. -/
structure Stages (A : Likeness σ τ) (directory : Path) : Prop where
  create : A.Changes (·.createDirectories directory)
  write : ∀ name, AssetName.isSafe name = true → A.Changes (·.write (directory.join name) [])
  append : ∀ name piece, AssetName.isSafe name = true →
    A.Changes (·.append (directory.join name) piece)
  remove : A.Changes (·.removeAll directory)

lemma receive {path : Path} (h : ∀ piece, A.Changes (·.append path piece))
    (received : Download.Received) (pieces : List Bytes) :
    A.Steps (Download.receive path received pieces) (Download.receive path received pieces) := by
  induction pieces generalizing received with
  | nil => exact .pure _
  | cons piece more ih => exact .bind (.onFiles (h piece)) fun _ => ih _

lemma download {n : Network σ} {n' : Network τ} (h : ∀ request, A.Acts (n request) (n' request))
    {directory : Path} (staged : A.Stages directory) (asset : Asset) :
    A.Steps (SignedUpgrade.download n asset directory)
      (SignedUpgrade.download n' asset directory) := by
  unfold SignedUpgrade.download
  cases safe : AssetName.isSafe asset.name with
  | false => exact .throw _
  | true =>
    refine .bind (.debug _) fun _ => .bind (.note _) fun _ =>
      .bind (.lift (.onSite (fetchSuccess h _ _))) fun answer => ?_
    cases answer with
    | error reason => exact .throw _
    | ok response =>
      exact .bind (.bind (.onFiles (staged.write _ safe)) fun _ =>
          .bind (receive (fun piece => staged.append _ piece safe) _ _) fun _ =>
            .ite (.pure _) (.throw _)) fun _ =>
        .bind (.debug _) fun _ => .pure _

/-! ## Installing -/

/-- Two executors that are configured alike, with parties that act alike. -/
structure Executors (A : Likeness σ τ) (e : Executor σ) (e' : Executor τ) : Prop where
  launch : ∀ program arguments tail limit,
    A.Acts (e.runner.runWithTail program arguments tail limit)
      (e'.runner.runWithTail program arguments tail limit)
  network : ∀ request, A.Acts (e.network request) (e'.network request)
  inspector : ∀ path, A.Acts (e.inspector path) (e'.inspector path)
  reports : A.Reports e.reporter e'.reporter
  trustedKey : e'.trustedKey = e.trustedKey
  installDirectory : e'.installDirectory = e.installDirectory
  stagingParent : e'.stagingParent = e.stagingParent
  uninstaller : A.Looks (·.hasFile e.uninstaller) (·.hasFile e.uninstaller)
  leftover : A.Changes (·.removeFile e.uninstaller)
  staging : ∀ name, A.fresh name →
    A.Stages (e.stagingParent.join (Staging.directoryName "upgrade" name))

lemma during {α : Type} (state : UpdateState) {x : Attempt σ α} {x' : Attempt τ α}
    (h : A.Steps x x') : A.Steps (Executor.during state x) (Executor.during state x') := by
  refine Works.bind h fun r => ?_
  cases r with
  | ok a => exact .pure _
  | error failure => exact .pure _

lemma removeLeftover {path : Path} (h : A.Changes (·.removeFile path)) :
    A.Acts (Executor.removeLeftover path) (Executor.removeLeftover path) :=
  .removal h ("Removed " ++ path.text) Failure.io

lemma cleanUp {directory : Path} (h : A.Changes (·.removeAll directory)) :
    A.Works (Executor.cleanUp directory) (Executor.cleanUp directory) := by
  refine .bind (.onSite (.removal h _ id)) fun r => ?_
  cases r with
  | ok => exact .pure _
  | error fault => exact .log _

namespace Executors

variable {e : Executor σ} {e' : Executor τ} (h : A.Executors e e')
include h

lemma same_uninstaller : e'.uninstaller = e.uninstaller := by
  rw [Executor.uninstaller, Executor.uninstaller, h.installDirectory]

lemma fetch {directory : Path} (staged : A.Stages directory) (version : Version) (asset : Asset) :
    A.Steps (e.fetch directory version asset) (e'.fetch directory version asset) :=
  .bind (.lift (h.reports _ _)) fun _ => .bind (download h.network staged asset) fun _ =>
    .bind (.lift (h.reports _ _)) fun _ => .pure _

lemma verify (path : Path) : A.Steps (e.verify path) (e'.verify path) := by
  unfold Executor.verify
  rw [h.trustedKey]
  exact .bind (.note _) fun _ => .bind (.onSite (verified h.inspector _ _)) fun _ =>
    .lift (h.reports _ _)

lemma uninstall : A.Steps e.uninstall e'.uninstall := by
  unfold Executor.uninstall
  rw [h.same_uninstaller, h.installDirectory]
  exact .bind (.lift (h.reports _ _)) fun _ => .bind (.note _) fun _ =>
    .bind (.onSite (h.launch _ _ _ _)) fun _ => .bind (.ofExcept _) fun _ =>
      .onSite (removeLeftover h.leftover)

lemma uninstallOld : A.Steps e.uninstallOld e'.uninstallOld := by
  unfold Executor.uninstallOld
  rw [h.same_uninstaller, h.installDirectory]
  have goes : ∀ present : Bool, A.Steps
      (if present then Executor.during .uninstalling e.uninstall
        else liftM (e.reporter.info ("No previous installation found in " ++ e.installDirectory.text
          ++ ", skipping uninstall.")))
      (if present then Executor.during .uninstalling e'.uninstall
        else liftM (e'.reporter.info ("No previous installation found in "
          ++ e.installDirectory.text ++ ", skipping uninstall."))) :=
    fun _ => .ite (during _ h.uninstall) (.lift (h.reports _ _))
  have looks := Steps.look h.uninstaller goes
  exact looks

lemma install (path : Path) (version : Version) (asset : Asset) :
    A.Steps (e.install path version asset) (e'.install path version asset) := by
  unfold Executor.install
  rw [h.installDirectory]
  exact .bind (.lift (h.reports _ _)) fun _ => .bind (.note _) fun _ =>
    .bind (.onSite (h.launch _ _ _ _)) fun _ => .bind (.ofExcept _) fun _ => .pure _

lemma steps {directory : Path} (staged : A.Stages directory) (version : Version) (asset : Asset) :
    A.Steps (e.steps directory version asset) (e'.steps directory version asset) :=
  .bind (during _ (h.fetch staged _ _)) fun file => .bind (during _ (h.verify file.path)) fun _ =>
    .bind h.uninstallOld fun _ => .bind (during _ (h.install _ _ _)) fun _ =>
      .lift (h.reports _ _)

lemma create : A.Steps (Staging.create e.stagingParent "upgrade")
    (Staging.create e'.stagingParent "upgrade") := by
  rw [h.stagingParent]
  exact .freshName fun name fresh => .bind (.onFiles (h.staging name fresh).create) fun _ =>
    .bind (.debug _) fun _ => .pure _

omit h in
lemma create_named {parent directory : Path} {w : World σ}
    (made : ((Staging.create parent "upgrade").outcome w).1 = .ok directory) :
    directory = parent.join (Staging.directoryName "upgrade" (w.names w.namesUsed)) := by
  rw [Staging.create_outcome] at made
  split at made
  · cases made
  · exact (Except.ok.inj made).symm

lemma execute (version : Version) (asset : Asset) :
    A.Works (e.execute version asset) (e'.execute version asset) := by
  refine Works.bindOf (Q := fun r => ∀ directory, r = .ok directory → ∃ name, A.fresh name
      ∧ directory = e.stagingParent.join (Staging.directoryName "upgrade" name)) h.create
    (fun _ _ alike _ made => ⟨_, alike.fresh _ (Nat.le_refl _), create_named made⟩) fun r known => ?_
  cases r with
  | error failure => exact .pure _
  | ok directory =>
    obtain ⟨name, fresh, rfl⟩ := known directory rfl
    have staged := h.staging name fresh
    exact .bind (h.steps staged version asset) fun _ =>
      .bind (cleanUp staged.remove) fun _ => .pure _

end Executors

/-! ## Versions and decisions -/

/-- Two resolvers that are configured alike, with parties that act alike. -/
structure Resolvers (A : Likeness σ τ) (r : Resolver σ) (r' : Resolver τ) : Prop where
  start : ∀ program arguments limit,
    A.Acts (r.runner.run program arguments limit) (r'.runner.run program arguments limit)
  network : ∀ request, A.Acts (r.network request) (r'.network request)
  reports : A.Reports r.reporter r'.reporter
  command : r'.command = r.command
  feedUrl : r'.feedUrl = r.feedUrl
  pattern : r'.pattern = r.pattern
  wording : r'.wording = r.wording
  program : A.Looks (·.program? r.searchPath r.command) (·.program? r'.searchPath r.command)

namespace Resolvers

variable {r : Resolver σ} {r' : Resolver τ} (h : A.Resolvers r r')
include h

lemma readInstalled : A.Steps r.readInstalled r'.readInstalled := by
  unfold Resolver.readInstalled
  rw [h.command]
  have asks : ∀ found : Option Path, A.Steps
      (do
        let program := found.getD r.command
        Attempt.note (.action (.versionCommand program))
        let output ← Attempt.onSite
          (r.runner.run program ["--version"] (some Resolver.versionLimit))
        (Resolver.versionOf r.command output : Except Failure Version))
      (do
        let program := found.getD r.command
        Attempt.note (.action (.versionCommand program))
        let output ← Attempt.onSite
          (r'.runner.run program ["--version"] (some Resolver.versionLimit))
        (Resolver.versionOf r.command output : Except Failure Version)) :=
    fun _ => .bind (.note _) fun _ => .bind (.onSite (h.start _ _ _)) fun _ => .ofExcept _
  have looks := Steps.look h.program asks
  exact looks

lemma currentVersion : A.Works r.currentVersion r'.currentVersion := by
  refine .bind h.readInstalled fun answer => ?_
  cases answer with
  | ok v => exact .bind (.debug _) fun _ => .pure _
  | error failure => exact .bind (h.reports _ _) fun _ => .pure _

lemma releaseOf_eq (response : Except String Net.Response) :
    r'.releaseOf response = r.releaseOf response := by
  simp only [Resolver.releaseOf, h.feedUrl, h.wording]

lemma latestRelease : A.Steps r.latestRelease r'.latestRelease := by
  unfold Resolver.latestRelease
  simp only [h.releaseOf_eq]
  rw [h.feedUrl]
  exact .bind (.debug _) fun _ => .bind (.note _) fun _ =>
    .bind (.lift (.onSite (fetchSuccess h.network _ _))) fun _ => .bind (.ofExcept _) fun _ =>
      .bind (.debug _) fun _ => .pure _

lemma versions : A.Steps r.versions r'.versions :=
  .bind (.lift h.currentVersion) fun _ => .bind h.latestRelease fun _ =>
    .ite (.bind (.lift (h.reports _ _)) fun _ => .pure _) (.pure _)

end Resolvers

/-! ## Calls -/

/-- Two updaters that are configured alike, with parties that act alike. -/
structure Updaters (A : Likeness σ τ) (u : Updater σ) (u' : Updater τ) : Prop where
  resolver : A.Resolvers u.resolver u'.resolver
  executor : A.Executors u.executor u'.executor
  reports : A.Reports u.reporter u'.reporter

namespace Updaters

variable {u : Updater σ} {u' : Updater τ} (h : A.Updaters u u')
include h

lemma abort {α : Type} (f : StepFailure) : A.Steps (u.abort (α := α) f) (u'.abort f) :=
  .bind (.enter _) fun _ => .bind (.lift (h.reports _ _)) fun _ => .throw _

lemma resolve : A.Steps u.resolve u'.resolve := by
  refine .bind (.enter _) fun _ => .bind (.lift h.resolver.versions) fun answer => ?_
  rcases answer with failure | ⟨current, release⟩
  · exact h.abort _
  · refine .bind (.enter _) fun _ => ?_
    rw [h.resolver.pattern]
    cases release.decide u.resolver.pattern current with
    | error failure => exact h.abort _
    | ok decision => exact .pure _

/-- **Two checks go alike.** -/
theorem check : A.Steps u.check u'.check :=
  .bind h.resolve fun _ => .bind (.lift (h.reports _ _)) fun _ => .pure _

lemma carryOut (decision : Decision) : A.Steps (u.carryOut decision) (u'.carryOut decision) := by
  cases decision with
  | noActionNeeded current latest =>
    exact .bind (.enter _) fun _ => .bind (.lift (h.reports _ _)) fun _ => .pure _
  | upgradeTo current version installer =>
    refine .bind (.lift (h.reports _ _)) fun _ => .bind (.enter _) fun _ =>
      .bind (.lift (h.executor.execute version installer)) fun answer => ?_
    cases answer with
    | error f => exact h.abort _
    | ok => exact .bind (.enter _) fun _ => .pure _

/-- **Two runs go alike.** -/
theorem run : A.Steps u.run u'.run :=
  .bind (.lift (h.reports _ _)) fun _ => .bind h.resolve fun decision => h.carryOut decision

end Updaters

end Likeness

end SignedUpgrade
