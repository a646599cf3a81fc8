import SignedUpgrade.Failure.Advice
import SignedUpgrade.Proofs.Upgrade.Footprint
import SignedUpgrade.Proofs.Upgrade.Trail

/-!
# Installations that are left alone

A run that launches nothing leaves the installation as it was, provided that the parties which are
only asked do not change it and that nothing of the updater's own is kept in its directory.  Runs
launch nothing as long as they have not come to the uninstaller, and many failures tell by their
kind alone that this was so.

* `Contained` — what is asked of the parties and of the places of files;
* `Untouched` — nothing was launched, and everything in the directory is as it was;
* `UpdateState.isEarly`, `Failure.isEarly` — the steps and the kinds of failure before a launch;
* `Failure.Promises` — the failures that are shown with a promise about the installation;
* `Updater.run_untouched` — **runs that end early leave the installation untouched**.
-/

namespace SignedUpgrade

open Net Text

variable {σ : Type}

/-! ## What is asked for -/

/-- A runner to which a program is a failure only if it cannot be started or does not end in
time. -/
def Runner.ReportsEnds (r : Runner σ) : Prop :=
  ∀ program arguments tail limit site f,
    (r.runWithTail program arguments tail limit site).1 = .error f →
      (∃ program reason, f = .processLaunchFailed program reason)
        ∨ ∃ program seconds, f = .processTimeout program seconds

/-- A sink that does not keep its events in files. -/
def Sink.LeavesFiles (s : Sink σ) : Prop :=
  ∀ event site, (s.record event site).2.files = site.files

/-- The place of the installation at the beginning of a run. -/
def Updater.installation (u : Updater σ) (w : World σ) : Location :=
  u.executor.installDirectory.place w.files.workingDirectory

/-- What is asked of the parties of an updater and of the places of its files. -/
structure Contained (u : Updater σ) (w : World σ) : Prop where
  /-- Events are kept outside of the installation, if they are kept in files at all. -/
  sinks : ∀ sink ∈ u.sinks,
    (∃ path : Path, sink = .file path
        ∧ path.KeepsOut w.files.workingDirectory (u.installation w))
      ∨ sink.LeavesFiles
  /-- Staging directories are made outside of the installation. -/
  staging : u.executor.stagingParent.KeepsOut w.files.workingDirectory (u.installation w)
  /-- A fresh name is a name, and the installation is not in the directory with this name. -/
  fresh : ∀ i, '/' ∉ (w.names i).toList
    ∧ Staging.directoryName "upgrade" (w.names i) ∉ u.installation w
  version : ∀ program site,
    (u.resolver.runner.run program ["--version"] (some Resolver.versionLimit) site).2.files
      = site.files
  feed : ∀ request site, (u.resolver.network request site).2.files = site.files
  download : ∀ request site, (u.executor.network request site).2.files = site.files
  inspector : ∀ path site, (u.executor.inspector path site).2.files = site.files

/-- A visit that launched a program which works on the installation. -/
def Visit.IsLaunch (v : Visit) : Prop :=
  ∃ program arguments tail limit answer,
    v.exchange = .tailCommand program arguments tail limit answer

/-- Nothing was launched, and everything in the directory of the installation is as it was. -/
structure Untouched (u : Updater σ) (w : World σ) : Prop where
  launches : ∀ v ∈ u.history w, ¬ v.IsLaunch
  files : ∀ l, u.installation w <+: l → (u.run.outcome w).2.files.get? l = w.files.get? l

/-! ## Names of staging directories -/

lemma Staging.isName_directoryName {label fresh : String} (label_ : '/' ∉ label.toList)
    (fresh_ : '/' ∉ fresh.toList) : Path.IsName (directoryName label fresh) := by
  have text : (directoryName label fresh).toList
      = "certbot-updater_".toList ++ label.toList ++ "_".toList ++ fresh.toList := by
    unfold directoryName
    simp only [String.toList_append]
  have start : "certbot-updater_".toList = 'c' :: "ertbot-updater_".toList := by decide
  have other : ∀ name : String, name.toList.head? ≠ some 'c' →
      directoryName label fresh ≠ name := by
    rintro name head rfl
    rw [text, start] at head
    simp at head
  refine ⟨?_, ?_⟩
  · have empty := other "" (by decide)
    have dot := other "." (by decide)
    have dots := other ".." (by decide)
    simp [Path.component?, Path.componentText, empty, dot, dots]
  · have plain : '/' ∉ "certbot-updater_".toList ∧ '/' ∉ "_".toList := by decide
    rw [Path.componentText, text]
    simp only [List.mem_append, not_or]
    exact ⟨⟨⟨plain.1, label_⟩, plain.2⟩, fresh_⟩

/-- A place beside a directory, or above it but under a name that is not on its way, has nothing
to do with what is in the directory. -/
lemma beside {directory parent : Location} {name : String} (out : ¬ directory <+: parent)
    (off : name ∉ directory) {l : Location} (inside : directory <+: l) :
    ¬ parent ++ [name] <+: l := by
  intro below
  rcases List.prefix_or_prefix_of_prefix inside below with above | within
  · rcases List.prefix_concat_iff.1 above with rfl | above
    · exact off (List.mem_append_right _ (List.mem_singleton_self name))
    · exact out above
  · exact off (within.subset (List.mem_append_right _ (List.mem_singleton_self name)))

/-! ## What leaves the installation alone -/

variable {u : Updater σ} {w : World σ}

/-- Everything in the installation is as it was. -/
abbrev Spares (u : Updater σ) (w : World σ) : FileTree → FileTree → Prop :=
  FileTree.SameBut fun l => ¬ u.installation w <+: l

/-- A way that keeps out of the installation is no place in it. -/
lemma Path.KeepsOut.spares {path : Path} {t t' : FileTree} {P : Location → Prop}
    (out : path.KeepsOut w.files.workingDirectory (u.installation w))
    (same : FileTree.SameBut P t t')
    (way : ∀ l, P l → path.OnWay w.files.workingDirectory l) : Spares u w t t' :=
  same.mono fun l at_ => out l (way l at_)

namespace Contained

variable {t t' : FileTree}

/-- A sink that keeps events in a file outside of the installation spares the installation. -/
lemma spares_file {path : Path} {event : Event} {site : Site σ}
    (out : path.KeepsOut w.files.workingDirectory (u.installation w))
    (start : site.files.workingDirectory = w.files.workingDirectory) :
    Spares u w site.files ((Sink.file path).record event site).2.files := by
  obtain ⟨t, before, same⟩ := Sink.file_changes path event site
  have grown : Spares u w site.files t := by
    rcases before with rfl | ⟨directory, parent, grown⟩
    · exact .refl _ _
    · refine out.spares grown.sameBut fun l way => ?_
      rw [start] at way
      exact way.of_parent parent
  refine grown.trans (out.spares same ?_)
  rintro _ rfl
  rw [grown.workingDirectory, start]
  exact path.onWay_place _

/-- A visit without a launch spares the installation. -/
lemma spares_visit (h : Contained u w) {v : Visit} (paid : Paid u v) (idle : ¬ v.IsLaunch)
    (start : v.before.workingDirectory = w.files.workingDirectory) :
    Spares u w v.before v.after := by
  have unchanged : v.after = v.before → Spares u w v.before v.after := by
    intro same
    rw [same]
    exact .refl _ _
  cases paid with
  | @offer sink mem event site =>
    rcases h.sinks sink mem with ⟨path, rfl, out⟩ | leaves
    · exact spares_file out start
    · exact unchanged (leaves event site)
  | witnessed event t => exact .refl _ _
  | version program site => exact unchanged (h.version program site)
  | feed request site => exact unchanged (h.feed request site)
  | download request site => exact unchanged (h.download request site)
  | inspection path site => exact unchanged (h.inspector path site)
  | launch program tail site => exact absurd ⟨_, _, _, _, _, rfl⟩ idle

/-- What the updater changes itself spares the installation, if no launch went before. -/
lemma spares_change (h : Contained u w) {i : Nat} {last : Option Visit}
    (own : OwnChange u.executor (w.names i) last t t') (idle : ∀ v, last = some v → ¬ v.IsLaunch)
    (start : t.workingDirectory = w.files.workingDirectory) : Spares u w t t' := by
  obtain ⟨plain, off⟩ := h.fresh i
  have named : Path.IsName (Staging.directoryName "upgrade" (w.names i)) :=
    Staging.isName_directoryName (by decide) plain
  have out := h.staging _ (u.executor.stagingParent.onWay_place _)
  have place : (u.executor.stagingDirectory (w.names i)).place w.files.workingDirectory
      = u.executor.stagingParent.place w.files.workingDirectory
        ++ [Staging.directoryName "upgrade" (w.names i)] := Path.place_join _ named _
  have below : ∀ l, (u.executor.stagingDirectory (w.names i)).place t.workingDirectory <+: l →
      ¬ u.installation w <+: l := by
    intro l under inside
    rw [start, place] at under
    exact beside out off inside under
  cases own with
  | staged creation =>
    refine (FileTree.createDirectories_grown creation).sameBut.mono fun l way => ?_
    rcases way.of_join named with above | rfl
    · rw [start] at above
      exact h.staging l above
    · refine below _ ?_
      rw [start, place]
  | saved safe writes =>
    refine writes.sameBut.mono ?_
    rintro _ rfl
    refine below _ ?_
    rw [Path.place_join _ (AssetName.isName_of_isSafe safe)]
    exact List.prefix_append _ _
  | discarded removal => exact (FileTree.removeAll_sameBut removal).mono below
  | uninstalled site just => exact absurd ⟨_, _, _, _, _, rfl⟩ (idle _ just)

/-- A trace without launches spares the installation. -/
lemma spares_trace (h : Contained u w) {i : Nat} {last : Option Visit} {ms : List Mark}
    {s s' : Scene} (fits : Fitting u (w.names i) last ms) (leads : Leads s ms s')
    (before : ∀ v, last = some v → ¬ v.IsLaunch) (idle : ∀ v ∈ visitsOf ms, ¬ v.IsLaunch)
    (start : s.files.workingDirectory = w.files.workingDirectory) :
    Spares u w s.files s'.files := by
  induction ms generalizing s last with
  | nil =>
    cases leads
    exact .refl _ _
  | cons m ms ih =>
    obtain ⟨s₁, move, rest⟩ := leads.uncons
    obtain ⟨fit, fits⟩ := fits
    have later : ∀ v ∈ visitsOf ms, ¬ v.IsLaunch := by
      intro v mem
      refine idle v ?_
      rw [visitsOf_cons]
      exact List.mem_append_right _ mem
    cases m with
    | visit v =>
      obtain ⟨found, rfl⟩ := move
      have now : ¬ v.IsLaunch := idle v (by simp)
      rw [← found] at start ⊢
      have first := h.spares_visit fit now start
      refine first.trans (ih fits rest ?_ later (first.workingDirectory.trans start))
      rintro _ ⟨⟩
      exact now
    | change found after =>
      obtain ⟨rfl, rfl⟩ := move
      have first := h.spares_change fit before start
      exact first.trans (ih fits rest before later (first.workingDirectory.trans start))
    | note | enter | look | draw =>
      have still := move.files_eq (by simp) (by simp)
      rw [← still] at start
      have spared := ih fits rest before later start
      rw [still] at spared
      exact spared

/-- **A run without launches leaves the installation as it was.** -/
theorem untouched (h : Contained u w) (idle : ∀ v ∈ u.history w, ¬ v.IsLaunch) :
    Untouched u w := by
  refine ⟨idle, ?_⟩
  obtain ⟨ms, traced, running⟩ := u.run_traced w
  obtain ⟨s, leads, files⟩ := traced.leads
  obtain ⟨i, conduct⟩ := running.conduct leads
  rw [traced.history] at idle
  have spared := h.spares_trace (conduct none) leads (by rintro _ ⟨⟩) idle rfl
  rw [files] at spared
  exact fun l inside => spared.same l fun out => out inside

end Contained

/-! ## Ends without a launch -/

/-- Whether nothing is launched before the end of a step. -/
def UpdateState.isEarly : UpdateState → Bool
  | .start | .versionChecked | .downloading | .verifying => true
  | _ => false

/-- Whether a failure is of a kind that arises before anything is launched. -/
def Failure.isEarly : Failure → Bool
  | .feedUnreachable .. | .feedMalformed .. | .noInstallerAsset .. | .ambiguousInstallerAsset ..
  | .invalidAssetName .. | .downloadFailed .. | .signatureMissing .. | .signatureInvalid ..
  | .signerKeyMismatch .. => true
  | _ => false

/-- The details that promise something about the installation. -/
def promises : List String :=
  ["The latest release could not be determined, so nothing was changed",
    "The installed version was left untouched", "The installer was rejected and never executed"]

/-- A failure is shown with a promise, which is not only what a program printed. -/
def Failure.Promises (f : Failure) : Prop :=
  (∃ promise ∈ promises, f.details = some promise)
    ∧ ∀ program code stderr, f ≠ .processFailed program code stderr

/-- Promises are made only for failures before a launch. -/
lemma Failure.Promises.isEarly {f : Failure} (h : f.Promises) : f.isEarly = true := by
  obtain ⟨⟨promise, mem, shown⟩, other⟩ := h
  cases f with
  | processFailed program code stderr => exact absurd rfl (other program code stderr)
  | platformNotSupported =>
    cases shown
    exact absurd mem (by decide)
  | feedUnreachable | feedMalformed | downloadFailed | signatureMissing | signatureInvalid
  | signerKeyMismatch => rfl
  | _ => cases shown

/-- A deed that neither uninstalls nor installs launches nothing. -/
lemma Deed.CarriedOut.idle {d : Deed} (h : d.CarriedOut u)
    (quiet : ∀ path, d.action ≠ .uninstaller path ∧ d.action ≠ .installer path) :
    ∀ v ∈ d.visits, ¬ v.IsLaunch := by
  have fetches : ∀ {n : Network σ} {accept url : String} {answer : Except String Response}
      {vs : List Visit}, Fetched n accept url answer vs → ∀ v ∈ vs, ¬ v.IsLaunch := by
    rintro n accept url answer vs fetched v mem ⟨_, _, _, _, _, launched⟩
    obtain ⟨request, answer, asked⟩ := fetched.requests v mem
    rw [asked] at launched
    cases launched
  cases h with
  | versionCommand | inspection =>
    rintro v mem ⟨_, _, _, _, _, launched⟩
    rw [List.mem_singleton.1 mem] at launched
    cases launched
  | feedRequest fetched | downloadRequest fetched => exact fetches fetched
  | uninstaller => exact absurd rfl (quiet _).1
  | installer path => exact absurd rfl (quiet path).2

/-- Where the deeds of a run neither uninstall nor install, it launches nothing. -/
lemma idle_of_deeds {ds : List Deed} (carriedOut : ∀ d ∈ ds, d.CarriedOut u)
    (acts_ : acts (u.history w) = ds.flatMap (·.visits))
    (quiet : ∀ d ∈ ds, ∀ path, d.action ≠ .uninstaller path ∧ d.action ≠ .installer path) :
    ∀ v ∈ u.history w, ¬ v.IsLaunch := by
  intro v mem launched
  have act : v.isAct = true := by
    obtain ⟨_, _, _, _, _, exchange⟩ := launched
    simp [Visit.isAct, exchange]
  have among : v ∈ ds.flatMap (·.visits) := by
    rw [← acts_]
    exact List.mem_filter.2 ⟨mem, act⟩
  obtain ⟨d, deed, visited⟩ := List.mem_flatMap.1 among
  exact (carriedOut d deed).idle (quiet d deed) v visited launched

/-- A failure in an early step leaves deeds that neither uninstall nor install. -/
lemma FailsIn.quiet {f : StepFailure} {ds : List Deed} (h : FailsIn u f ds)
    (early : f.state.isEarly = true) :
    ∀ d ∈ ds, ∀ path, d.action ≠ .uninstaller path ∧ d.action ≠ .installer path := by
  cases h with
  | undecided prepared =>
    obtain ⟨_, _, _, rfl⟩ := prepared.eq_preparationDeeds
    simp [preparationDeeds]
  | notInstalled prepared fails =>
    obtain ⟨_, _, _, rfl⟩ := prepared.eq_preparationDeeds
    cases fails with
    | notStaged | refused => simp [preparationDeeds]
    | notDownloaded fails => cases fails <;> simp [preparationDeeds]
    | notUninstalled | notInstalled => cases early

/-- A program of the installation fails with what its runner tells, or with its own end. -/
lemma ending_eq_error {name : String} {answer : Except Failure Output} {f : Failure}
    (h : ending name answer = .error f) :
    answer = .error f ∨ ∃ code stderr, f = .processFailed name code stderr := by
  cases answer with
  | error g =>
    cases h
    exact .inl rfl
  | ok output =>
    by_cases succeeded : output.succeeded = true
    · simp [ending, Except.bind, Except.map, Output.check, succeeded] at h
    · simp only [ending, Except.bind, Except.map, Output.check, succeeded, Bool.false_eq_true,
        if_false] at h
      cases h
      exact .inr ⟨_, _, rfl⟩

/-- Where the runner fails only to run a program to its end, this or a failure of the program itself
is all that can go wrong with it. -/
lemma Runner.ReportsEnds.ending_cases {r : Runner σ} (h : r.ReportsEnds) {name tail : String}
    {program : Path} {arguments : List String} {limit : Option Nat} {site : Site σ} {f : Failure}
    (ended : ending name (r.runWithTail program arguments tail limit site).1 = .error f) :
    (∃ program reason, f = .processLaunchFailed program reason)
      ∨ (∃ program seconds, f = .processTimeout program seconds)
      ∨ ∃ code stderr, f = .processFailed name code stderr := by
  rcases ending_eq_error ended with answer | failed
  · exact (h _ _ _ _ _ _ answer).imp_right .inl
  · exact .inr (.inr failed)

/-- A failure of an early kind arises in an early step. -/
lemma FailsIn.isEarly {f : StepFailure} {ds : List Deed} (h : FailsIn u f ds)
    (runner : u.executor.runner.ReportsEnds) (early : f.failure.isEarly = true) :
    f.state.isEarly = true := by
  have late : ∀ {name tail : String} {program : Path} {site : Site σ} {f : Failure},
      ending name (u.executor.runner.runWithTail program [Executor.silent] tail none site).1
        = .error f → f.isEarly = false := by
    intro name tail program site f ended
    rcases runner.ending_cases ended with ⟨_, _, rfl⟩ | ⟨_, _, rfl⟩ | ⟨_, _, rfl⟩ <;> rfl
  cases h with
  | undecided prepared => cases prepared <;> rfl
  | notInstalled _ fails =>
    cases fails with
    | notStaged | notDownloaded | refused => rfl
    | notUninstalled site _ _ fails =>
      rcases fails with ended | ⟨_, fault, rfl⟩
      · rw [late ended] at early
        cases early
      · cases early
    | notInstalled site _ _ ended =>
      rw [late ended] at early
      cases early

/-! ## Runs -/

/-- A run failed, and the failure arose in a step, as the deeds of the run show. -/
def Updater.FailedIn (u : Updater σ) (w : World σ) (f : StepFailure) : Prop :=
  (u.run.outcome w).1 = .error f.failure
    ∧ ∃ ds, (∀ d ∈ ds, d.CarriedOut u) ∧ acts (u.history w) = ds.flatMap (·.visits) ∧ FailsIn u f ds

/-- Every failure of a run arose in one of its steps. -/
lemma Updater.failedIn_of_error {f : Failure} (h : (u.run.outcome w).1 = .error f) :
    ∃ state, u.FailedIn w ⟨state, f⟩ := by
  obtain ⟨ms, traced, running⟩ := u.run_traced w
  obtain ⟨_, leads, _⟩ := traced.leads
  rw [h] at running
  obtain ⟨state, ds, _, _, _, _, _, does, fails⟩ := running.trail_failed leads
  refine ⟨state, h, ds, does.carriedOut, ?_, fails⟩
  rw [traced.history]
  exact does.acts

/-- A run that failed in an early step launched nothing. -/
lemma Updater.FailedIn.idle {f : StepFailure} (h : u.FailedIn w f)
    (early : f.state.isEarly = true) : ∀ v ∈ u.history w, ¬ v.IsLaunch := by
  obtain ⟨_, ds, carriedOut, acts_, fails⟩ := h
  exact idle_of_deeds carriedOut acts_ (fails.quiet early)

/-- A run with nothing to install launches nothing. -/
lemma Updater.idle_of_upToDate {current latest : Version}
    (h : (u.run.outcome w).1 = .ok (.upToDate current latest)) :
    ∀ v ∈ u.history w, ¬ v.IsLaunch := by
  obtain ⟨ms, traced, running⟩ := u.run_traced w
  rw [h] at running
  cases running with
  | upToDate started resolving reported =>
    obtain ⟨_, ds, _, does, prepared⟩ := resolving.does
    obtain ⟨_, _, _, rfl⟩ := prepared.eq_preparationDeeds
    refine idle_of_deeds does.carriedOut ?_ (by simp [preparationDeeds])
    have all := (Does.reported started).append
      (does.append ((Does.reported reported).cons (m := .enter .noActionNeeded) rfl rfl))
    rw [traced.history]
    simpa using all.acts

/-- **Runs that end early leave the installation untouched.**  If a run fails in a step before the
uninstaller, or with one of the failures that tell by themselves that it did, or if there is nothing
to install, then nothing was launched and everything in the installation is as it was.  And in every
run, whatever the parties do, the updater itself changes no file outside of its staging directory
but the uninstaller, which it removes after this ended with exit code 0. -/
theorem Updater.run_untouched (u : Updater σ) (w : World σ) :
    (Contained u w →
      (∀ f, (u.run.outcome w).1 = .error f → ∃ state, u.FailedIn w ⟨state, f⟩)
      ∧ (∀ f, u.FailedIn w f → f.state.isEarly = true → Untouched u w)
      ∧ (u.executor.runner.ReportsEnds → ∀ f, (u.run.outcome w).1 = .error f →
          f.isEarly = true ∨ f.Promises →
            (∀ state, u.FailedIn w ⟨state, f⟩ → state.isEarly = true) ∧ Untouched u w)
      ∧ ∀ current latest, (u.run.outcome w).1 = .ok (.upToDate current latest) → Untouched u w)
    ∧ Footprint u w := by
  refine ⟨fun contained => ⟨fun f => failedIn_of_error, ?_, ?_, ?_⟩, u.run_footprint w⟩
  · intro f failed early
    exact contained.untouched (failed.idle early)
  · intro runner f failed kind
    have early : f.isEarly = true := kind.elim id Failure.Promises.isEarly
    have arose : ∀ state, u.FailedIn w ⟨state, f⟩ → state.isEarly = true := by
      rintro state ⟨_, ds, _, _, fails⟩
      exact fails.isEarly runner early
    obtain ⟨state, failed⟩ := failedIn_of_error failed
    exact ⟨arose, contained.untouched (failed.idle (arose state failed))⟩
  · intro current latest upToDate
    exact contained.untouched (idle_of_upToDate upToDate)

/-! ## A run without a network -/

/-- A run that reaches no feed fails, and the failure says so. -/
lemma Updater.run_unreachable
    (refuses : ∀ request site, (u.resolver.network request site).1 = .refused) :
    ∃ reason, (u.run.outcome w).1 = .error (.feedUnreachable u.resolver.feedUrl reason) := by
  have asks : ∀ {accept : String} {redirects : Nat} {url : Url} {answer : Except String Response}
      {vs : List Visit}, Asked u.resolver.network accept redirects url answer vs →
      ∃ reason, answer = .error reason := by
    intro accept redirects url answer vs asked
    cases asked with
    | unaskable | refused | silent | exhausted => exact ⟨_, rfl⟩
    | last site _ answer | redirected site _ answer =>
      rw [refuses] at answer
      cases answer
  have release : ∀ {answer : Except Failure Release} {ms : List Mark},
      ReleaseTold u.resolver answer ms →
        ∃ reason, answer = .error (.feedUnreachable u.resolver.feedUrl reason) := by
    rintro answer ms ⟨fetched⟩
    cases fetched with
    | noAddress | failed => exact ⟨_, rfl⟩
    | answered _ asked =>
      obtain ⟨_, ⟨⟩⟩ := asks asked
  have resolves : ∀ {answer : Except Failure Decision} {ms : List Mark}, Resolving u answer ms →
      ∃ reason, answer = .error (.feedUnreachable u.resolver.feedUrl reason) := by
    intro answer ms resolving
    cases resolving with
    | noRelease versions =>
      cases versions with
      | failed _ told =>
        obtain ⟨reason, ⟨⟩⟩ := release told
        exact ⟨reason, rfl⟩
    | undecided versions | decided versions =>
      cases versions with
      | tagged _ told | untagged _ told =>
        obtain ⟨_, ⟨⟩⟩ := release told
  obtain ⟨ms, _, running⟩ := u.run_traced w
  generalize (u.run.outcome w).1 = result at running
  cases running with
  | failed _ resolving =>
    obtain ⟨reason, ⟨⟩⟩ := resolves resolving
    exact ⟨reason, rfl⟩
  | upToDate _ resolving | notInstalled _ resolving | installed _ resolving =>
    obtain ⟨_, ⟨⟩⟩ := resolves resolving

/-- A runner that knows a version command and nothing else. -/
def Runner.asked : Runner Unit where
  run _ _ _ site := (.ok { code := some 0, stdout := "certbot 2.0.0" }, site)
  runWithTail program _ _ _ site := (.error (.processLaunchFailed program.text "not there"), site)

/-- An updater without a network, which keeps its events in a file. -/
def Updater.offline : Updater Unit where
  resolver := {
    runner := .asked
    network := fun _ site => (.refused, site)
    reporter := [.file "/var/log/updater.log"]
    command := "certbot"
    feedUrl := "http://localhost/latest"
    pattern := default
    wording := fun _ _ => "no release" }
  executor := {
    runner := .asked
    network := fun _ site => (.refused, site)
    inspector := fun path site => (.error (.signatureInspectionFailed path.text "not there"), site)
    reporter := [.file "/var/log/updater.log"]
    trustedKey := default
    installDirectory := "/opt/certbot"
    stagingParent := "/tmp" }
  reporter := [.file "/var/log/updater.log"]

/-- A world with an installation and no other files. -/
def World.installed : World Unit where
  files := {
    entries := [(["opt"], .directory), (["opt", "certbot"], .directory),
      (["opt", "certbot", "uninstall.exe"], .file [] true)] }
  outside := ()
  names _ := "1"

/-- Without a network the run fails, and the installation is untouched. -/
theorem Updater.run_untouched_offline :
    (∃ reason, (Updater.offline.run.outcome World.installed).1
      = .error (.feedUnreachable "http://localhost/latest" reason))
    ∧ Untouched Updater.offline World.installed := by
  have fresh : '/' ∉ "1".toList
      ∧ Staging.directoryName "upgrade" "1" ∉ Updater.offline.installation World.installed := by
    decide +kernel
  have contained : Contained Updater.offline World.installed := by
    refine ⟨?_, by decide +kernel, fun _ => fresh, fun _ _ => rfl, fun _ _ => rfl, fun _ _ => rfl,
      fun _ _ => rfl⟩
    intro sink mem
    refine .inl ⟨"/var/log/updater.log", ?_, by decide +kernel⟩
    simpa [Updater.sinks, Updater.offline] using mem
  have runner : Updater.offline.executor.runner.ReportsEnds := by
    rintro program arguments tail limit site f ⟨⟩
    exact .inl ⟨_, _, rfl⟩
  obtain ⟨reason, failed⟩ := run_unreachable (u := offline) (w := .installed) fun _ _ => rfl
  have kept := ((Updater.run_untouched offline .installed).1 contained).2.2.1 runner _ failed
    (.inl rfl)
  exact ⟨⟨reason, failed⟩, kept.2⟩

end SignedUpgrade
