import SignedUpgrade.Proofs.Files.Repetition
import SignedUpgrade.Proofs.Tracing.Changes
import SignedUpgrade.Proofs.Upgrade.Untouched

/-!
# What is left after an installation

An installation works in a staging directory of its own, and whatever becomes of it this directory
is removed at the end.  So the directory above it looks the same before and after, provided that the
parties which act in between keep out of it, apart from the staging directory.

* `Staging.discard_gone` — a directory that was discarded is gone, or the log says why it is not;
* `Executor.history` — the visits that an installation pays to the parties;
* `Executor.Clearable` — the staging directory is there and can be removed, or is gone;
* `Executor.Confined` — what a party may do: anything outside of the parent and in the staging
  directory, which it may remove;
* `Executor.Secluded` — what is asked of the parties and of the places of files;
* `Executor.Kept` — the invariant that carries the steps;
* `Executor.execute_cleans_up` — the main statement: the parent is as it was, and the result is that
  of the steps.
-/

namespace SignedUpgrade

open Net Text

variable {σ : Type}

/-! ## Removing directories -/

/-- What was removed is gone, unless it is the top of the tree. -/
lemma FileTree.at?_of_removeAll {t t' : FileTree} {p : Path} (h : t.removeAll p = .ok t')
    (below : p.place t.workingDirectory ≠ []) : t'.at? p = none := by
  obtain ⟨l, found, _, _, rfl⟩ := removeAll_cases h
  rw [at?]
  cases found' : (t.eraseBelow l).resolve p with
  | error fault => rfl
  | ok m =>
    have place : m = l := (resolve_eq_place found').trans (resolve_eq_place found).symm
    rw [← resolve_eq_place found] at below
    rw [place]
    exact get?_eraseBelow_of_prefix t List.prefix_rfl below

/-- **A directory that was discarded is gone, or the log says why it is not.** -/
theorem Staging.discard_gone (path : Path) (w : World σ)
    (below : path.place w.files.workingDirectory ≠ []) :
    (discard path w).2.files.at? path = none
      ∨ ∃ fault, w.files.removeAll path = .error fault ∧ discard path w = ((), { w with
        log := w.log ++ [{
          level := .warn
          text := "Failed to remove staging directory " ++ path.text ++ ": " ++ fault.text }] }) := by
  have removed : remove path w = ((removeFrom path w.toSite).1,
      { w with toSite := (removeFrom path w.toSite).2 }) := rfl
  rw [discard, bind_run, removed, removeFrom]
  cases removal : w.files.removeAll path with
  | ok t => exact .inl (FileTree.at?_of_removeAll removal below)
  | error fault =>
    by_cases missing : fault.kind = .notFound
    · simp only [if_pos missing]
      exact .inl (FileTree.at?_of_removeAll_error removal missing)
    · simp only [if_neg missing]
      exact .inr ⟨fault, rfl, rfl⟩

/-! ## Files that events are kept in -/

/-- A sink that keeps events in a file takes no directory away. -/
lemma Sink.file_keepsDirectories (path : Path) (event : Event) (site : Site σ) :
    FileTree.KeepsDirectories site.files ((Sink.file path).record event site).2.files := by
  have append : ∀ site : Site σ, FileTree.KeepsDirectories site.files
      (site.tryFiles fun t => t.append path (Text.Utf8.encode event.line)).2.files := by
    intro site
    unfold Site.tryFiles
    cases added : site.files.append path (Text.Utf8.encode event.line) with
    | ok t => simpa [added] using FileTree.append_keepsDirectories added
    | error fault => simpa [added] using FileTree.KeepsDirectories.refl site.files
  unfold Sink.file appendLine
  cases directoryOf? path with
  | none => exact append site
  | some directory =>
    simp only
    cases made : site.files.createDirectories directory with
    | ok t =>
      have grown := (FileTree.createDirectories_grown made).keepsDirectories
      simpa [Site.tryFiles, made] using grown.trans (append { site with files := t })
    | error fault => simpa [Site.tryFiles, made] using FileTree.KeepsDirectories.refl site.files

/-! ## What is asked for -/

namespace Executor

variable (e : Executor σ) (w : World σ)

/-- The place of the directory in which the staging directory is made. -/
def parentPlace : Location :=
  e.stagingParent.place w.files.workingDirectory

/-- The staging directory that the next installation works in. -/
def nextStaging : Path :=
  e.stagingDirectory (w.names w.namesUsed)

/-- Its place. -/
def stagingPlace : Location :=
  e.parentPlace w ++ [Staging.directoryName "upgrade" (w.names w.namesUsed)]

/-- The visits that an installation pays to the parties, in order. -/
def history (version : Version) (asset : Asset) : List Visit :=
  (e.watched.execute version asset w.watched).2.history

/-- The staging directory is there, and the system would not refuse to remove it; or it is gone with
everything in it. -/
def Clearable (t : FileTree) : Prop :=
  (t.hasDirectory (e.nextStaging w) = true ∧ t.isPinned (e.stagingPlace w) = false)
    ∨ ∀ l, e.stagingPlace w <+: l → t.get? l = none

/-- A party may do anything outside of the parent and anything in the staging directory, which it may
remove as a whole, but not replace by a file. -/
structure Confined (t t' : FileTree) : Prop where
  others : FileTree.SameBut (fun l => e.parentPlace w <+: l → e.stagingPlace w <+: l) t t'
  staging : e.Clearable w t → e.Clearable w t'

/-- A file that events are kept in is not in the parent, and neither is a directory that would have
to be made for it: where its path leads through the parent, nothing is missing. -/
structure KeptOut (path : Path) : Prop where
  place : ¬ e.parentPlace w <+: path.place w.files.workingDirectory
  way : ∀ l, path.OnWay w.files.workingDirectory l → e.parentPlace w <+: l →
    w.files.get? l ≠ none

variable {e w} in
lemma KeptOut.of_keepsOut {path : Path}
    (out : path.KeepsOut w.files.workingDirectory (e.parentPlace w)) : e.KeptOut w path :=
  ⟨out _ (path.onWay_place _), fun l way inside => absurd inside (out l way)⟩

/-- Whoever is visited is confined, or keeps an event in a file that is kept out. -/
def Admits (v : Visit) : Prop :=
  e.Confined w v.before v.after
    ∨ ∃ (path : Path) (event : Event) (site : Site σ), e.KeptOut w path
      ∧ v = .of ((Sink.file path).record event) (.offer "file" event) site

/-- What is asked of the parties of an installation and of the places of its files. -/
structure Secluded (version : Version) (asset : Asset) : Prop where
  parent : w.files.hasDirectory e.stagingParent = true
  /-- The fresh name is a name, and nothing stands under it. -/
  fresh : '/' ∉ (w.names w.namesUsed).toList ∧ ∀ l, e.stagingPlace w <+: l → w.files.get? l = none
  /-- The system would not refuse to remove a directory with this name. -/
  removable : w.files.isPinned (e.stagingPlace w) = false
  installation : ¬ e.parentPlace w <+: e.installDirectory.place w.files.workingDirectory
  visits : ∀ v ∈ e.history w version asset, e.Admits w v

/-! ## The steps -/

/-- As long as the steps are under way, everything in the parent is as it was before, but for the
staging directory, of which nothing will be left at the end. -/
structure Kept (t : FileTree) : Prop where
  workingDirectory : t.workingDirectory = w.files.workingDirectory
  others : ∀ l, e.parentPlace w <+: l → ¬ e.stagingPlace w <+: l → t.get? l = w.files.get? l
  staging : e.Clearable w t

variable {e w}

/-- Nothing changes about the staging directory if no directory is taken away and nothing new is made
in it. -/
lemma Clearable.of_keeps {t t' : FileTree} (h : e.Clearable w t)
    (directories : FileTree.KeepsDirectories t t')
    (free : ∀ l, e.stagingPlace w <+: l → t.get? l = none → t'.get? l = none) :
    e.Clearable w t' := by
  rcases h with ⟨stands, removable⟩ | gone
  · exact .inl ⟨directories.hasDirectory stands, (directories.isPinned _).trans removable⟩
  · exact .inr fun l below => free l below (gone l below)

/-- A file in the staging directory can only be written as long as this one is there. -/
lemma Clearable.of_writes {t t' : FileTree} {path : Path} {name : String} (h : e.Clearable w t)
    (writes : FileTree.Writes path t t')
    (inside : path.place t.workingDirectory = e.stagingPlace w ++ [name]) : e.Clearable w t' := by
  rcases h with ⟨stands, removable⟩ | gone
  · have directories := writes.keepsDirectories
    exact .inl ⟨directories.hasDirectory stands, (directories.isPinned _).trans removable⟩
  · have missing : t.get? (path.place t.workingDirectory).dropLast = none := by
      rw [inside, List.dropLast_concat]
      exact gone _ List.prefix_rfl
    rw [writes.eq_of_missing missing]
    exact .inr gone

lemma Clearable.of_removeFile {t t' : FileTree} {path : Path} (h : e.Clearable w t)
    (removal : t.removeFile path = .ok t') : e.Clearable w t' := by
  refine h.of_keeps (FileTree.removeFile_keepsDirectories removal) fun l _ free => ?_
  obtain ⟨m, _, _, _, stands, rfl⟩ := FileTree.removeFile_cases removal
  have apart : l ≠ m := by
    rintro rfl
    rw [free] at stands
    cases stands
  rw [FileTree.get?_erase_of_ne t apart, free]

namespace Kept

variable {t t' : FileTree}

/-- What a confined party does keeps the invariant. -/
lemma confined (h : e.Kept w t) (c : e.Confined w t t') : e.Kept w t' := by
  refine ⟨c.others.workingDirectory.trans h.workingDirectory, fun l inside out => ?_,
    c.staging h.staging⟩
  have same : t'.get? l = t.get? l := c.others.same l fun within => out (within inside)
  exact same.trans (h.others l inside out)

end Kept

/-- The name of a staging directory is a single step down. -/
lemma Secluded.named {version : Version} {asset : Asset} (h : e.Secluded w version asset) :
    Path.IsName (Staging.directoryName "upgrade" (w.names w.namesUsed)) :=
  Staging.isName_directoryName (by decide) h.fresh.1

lemma Secluded.place_nextStaging {version : Version} {asset : Asset}
    (h : e.Secluded w version asset) :
    (e.nextStaging w).place w.files.workingDirectory = e.stagingPlace w :=
  Path.place_join _ h.named _

/-- The parent is a directory. -/
lemma Secluded.parent_stands {version : Version} {asset : Asset} (h : e.Secluded w version asset) :
    w.files.get? (e.parentPlace w) = some .directory := by
  obtain ⟨l, found, stands⟩ := FileTree.hasDirectory_iff.1 h.parent
  rw [FileTree.resolve_eq_place found] at stands
  exact stands

lemma not_stagingPlace_prefix_parentPlace : ¬ e.stagingPlace w <+: e.parentPlace w := by
  intro above
  have longer := above.length_le
  rw [stagingPlace, List.length_append, List.length_singleton] at longer
  omega

namespace Kept

variable {t t' : FileTree} {version : Version} {asset : Asset}

/-- The changes that the steps make themselves keep the invariant. -/
lemma stepChange (h : e.Kept w t) (s : e.Secluded w version asset)
    (c : StepChange e (e.nextStaging w) (t, t')) : e.Kept w t' := by
  cases c with
  | @saved name _ _ safe writes =>
    have place : ((e.nextStaging w).join name).place t.workingDirectory
        = e.stagingPlace w ++ [name] := by
      rw [Path.place_join _ (AssetName.isName_of_isSafe safe), h.workingDirectory,
        s.place_nextStaging]
    refine h.confined ⟨writes.sameBut.mono ?_, fun clearable => clearable.of_writes writes place⟩
    rintro _ rfl _
    rw [place]
    exact List.prefix_append _ _
  | uninstalled removal =>
    refine h.confined ⟨(FileTree.removeFile_sameBut removal).mono ?_,
      fun clearable => clearable.of_removeFile removal⟩
    rintro _ rfl inside
    have place : e.uninstaller.place t.workingDirectory
        = e.installDirectory.place w.files.workingDirectory ++ ["uninstall.exe"] := by
      rw [h.workingDirectory]
      exact Path.place_join _ ⟨by decide, by decide⟩ _
    rw [place] at inside
    rcases List.prefix_concat_iff.1 inside with same | above
    · -- the parent itself is a directory, which cannot be removed as a file
      obtain ⟨l, _, _, found, file, _⟩ := FileTree.removeFile_cases removal
      rw [FileTree.resolve_eq_place found, place, ← same,
        h.others _ List.prefix_rfl not_stagingPlace_prefix_parentPlace, s.parent_stands] at file
      cases file
    · exact absurd above s.installation

/-- An event that is kept in a file keeps the invariant. -/
lemma offered {path : Path} {event : Event} {site : Site σ} (h : e.Kept w site.files)
    (s : e.Secluded w version asset) (out : e.KeptOut w path) :
    e.Kept w ((Sink.file path).record event site).2.files := by
  have fresh := s.fresh.2
  obtain ⟨t, before, same⟩ := Sink.file_changes path event site
  have directories := Sink.file_keepsDirectories path event site
  -- a directory that had to be made in the parent would have been missing at the start
  have made : t.workingDirectory = site.files.workingDirectory
      ∧ ∀ l, e.parentPlace w <+: l → t.get? l = site.files.get? l := by
    rcases before with rfl | ⟨directory, parent, grown⟩
    · exact ⟨rfl, fun _ _ => rfl⟩
    · refine ⟨grown.workingDirectory, fun l inside => ?_⟩
      rcases grown.grows l with same | ⟨free, _, way⟩
      · exact same
      · rw [h.workingDirectory] at way
        have missing : w.files.get? l = none := by
          by_cases below : e.stagingPlace w <+: l
          · exact fresh l below
          · rw [← h.others l inside below, free]
        exact absurd missing (out.way l (way.of_parent parent) inside)
  have unchanged : ∀ l, e.parentPlace w <+: l →
      ((Sink.file path).record event site).2.files.get? l = site.files.get? l := by
    intro l inside
    have elsewhere : l ≠ path.place t.workingDirectory := by
      rintro rfl
      rw [made.1, h.workingDirectory] at inside
      exact out.place inside
    rw [same.same l elsewhere, made.2 l inside]
  refine ⟨directories.workingDirectory.trans h.workingDirectory,
    fun l inside off => (unchanged l inside).trans (h.others l inside off),
    h.staging.of_keeps directories fun l below free => ?_⟩
  rw [unchanged l ((List.prefix_append _ _).trans below), free]

/-- A trace of visits and of changes of the steps keeps the invariant. -/
lemma trace {ms : List Mark} {c c' : Scene} (h : e.Kept w c.files)
    (s : e.Secluded w version asset) (leads : Leads c ms c')
    (changes : ∀ d ∈ changesOf ms, StepChange e (e.nextStaging w) d)
    (visits : ∀ v ∈ visitsOf ms, v ∈ e.history w version asset) : e.Kept w c'.files := by
  induction ms generalizing c with
  | nil =>
    cases leads
    exact h
  | cons m ms ih =>
    obtain ⟨c₁, move, rest⟩ := leads.uncons
    rw [changesOf_cons, List.forall_mem_append] at changes
    rw [visitsOf_cons, List.forall_mem_append] at visits
    obtain ⟨change, changes⟩ := changes
    obtain ⟨visit, visits⟩ := visits
    cases m with
    | visit v =>
      obtain ⟨found, rfl⟩ := move
      refine ih ?_ rest changes visits
      rw [← found] at h
      rcases s.visits v (visit v (by simp)) with confined | ⟨path, event, site, out, rfl⟩
      · exact h.confined confined
      · exact h.offered s out
    | change before after =>
      obtain ⟨rfl, rfl⟩ := move
      exact ih (h.stepChange s (change (_, after) (by simp [Mark.change?]))) rest changes visits
    | note | enter | look | draw =>
      rw [← move.files_eq (by simp) (by simp)] at h
      exact ih h rest changes visits

end Kept

/-! ## Parties that are confined wherever they act -/

/-- An updater that has nothing but this executor. -/
def alone (e : Executor σ) : Updater σ where
  resolver := {
    runner := {
      run := fun program _ _ site => (.error (.processLaunchFailed program.text ""), site) }
    network := fun _ site => (.refused, site)
    reporter := []
    command := ""
    feedUrl := ""
    pattern := default
    wording := fun _ _ => "" }
  executor := e
  reporter := []

lemma Confined.refl (e : Executor σ) (w : World σ) (t : FileTree) : e.Confined w t t :=
  ⟨.refl _ t, id⟩

/-- Parties that are confined on every site are so on the sites of an installation. -/
lemma confined_of_parties
    (launch : ∀ program tail site,
      e.Confined w site.files (e.runner.runWithTail program [silent] tail none site).2.files)
    (download : ∀ request site, e.Confined w site.files (e.network request site).2.files)
    (inspection : ∀ path site, e.Confined w site.files (e.inspector path site).2.files)
    (sinks : ∀ sink ∈ e.reporter, (∃ path, sink = .file path ∧ e.KeptOut w path)
      ∨ ∀ event site, e.Confined w site.files (sink.record event site).2.files)
    (version : Version) (asset : Asset) :
    ∀ v ∈ e.history w version asset, e.Admits w v := by
  obtain ⟨ms, leads, executing⟩ := e.execute_runs version asset w.watched
  have conduct : Conduct e.alone _ ms := executing.conduct (u := e.alone) leads
  have history : e.history w version asset = visitsOf ms := leads.history_eq
  rw [history]
  intro v mem
  cases (conduct none).paid v mem with
  | @offer sink known event site =>
    have ours : sink ∈ e.reporter := by simpa [alone, Updater.sinks] using known
    rcases sinks sink ours with ⟨path, rfl, out⟩ | confined
    · exact .inr ⟨path, event, site, out, rfl⟩
    · exact .inl (confined event site)
  | witnessed event t => exact .inl (.refl e w t)
  | version program site => exact .inl (.refl e w site.files)
  | feed request site => exact .inl (.refl e w site.files)
  | download request site => exact .inl (download request site)
  | inspection path site => exact .inl (inspection path site)
  | launch program tail site => exact .inl (launch program tail site)

/-! ## The end of an installation -/

/-- Cleaning up removes the directory if this can be done; else nothing but the log is touched. -/
lemma cleanUp_cases (directory : Path) (w : World σ) :
    (∃ t log, w.files.removeAll directory = .ok t
        ∧ (cleanUp directory w).2 = { w with files := t, log })
      ∨ ∃ fault log, w.files.removeAll directory = .error fault
        ∧ (cleanUp directory w).2 = { w with log } := by
  have removed : Staging.remove directory w = ((Staging.removeFrom directory w.toSite).1,
      { w with toSite := (Staging.removeFrom directory w.toSite).2 }) := rfl
  rw [cleanUp, bind_run, removed, Staging.removeFrom]
  cases removal : w.files.removeAll directory with
  | ok t => exact .inl ⟨t, _, rfl, rfl⟩
  | error fault =>
    right
    by_cases gone : fault.kind = .notFound
    · refine ⟨fault, w.log, rfl, ?_⟩
      simp only [if_pos gone]
      rfl
    · refine ⟨fault, w.log ++ [{
        level := .warn, text := "Failed to remove staging directory: " ++ fault.text }], rfl, ?_⟩
      simp only [if_neg gone]
      rfl

/-- How an installation ends: the result is that of the steps, and whether the staging directory can
be removed changes nothing about it. -/
inductive Ended (e : Executor σ) (version : Version) (asset : Asset) (w : World σ) :
    Except StepFailure Unit × World σ → Prop where
  | unstaged {failure : Failure} {w' : World σ}
      (creation : (Staging.create e.stagingParent "upgrade").outcome w = (.error failure, w')) :
      Ended e version asset w (.error { state := .downloading, failure }, w')
  | removed {directory : Path} {w₁ w₂ : World σ} {result : Except StepFailure Unit} {t : FileTree}
      {log : List LogLine}
      (creation : (Staging.create e.stagingParent "upgrade").outcome w = (.ok directory, w₁))
      (steps : (e.steps directory version asset).run w₁ = (result, w₂))
      (removal : w₂.files.removeAll directory = .ok t) :
      Ended e version asset w (result, { w₂ with files := t, log })
  | left {directory : Path} {w₁ w₂ : World σ} {result : Except StepFailure Unit} {fault : IoFault}
      {log : List LogLine}
      (creation : (Staging.create e.stagingParent "upgrade").outcome w = (.ok directory, w₁))
      (steps : (e.steps directory version asset).run w₁ = (result, w₂))
      (removal : w₂.files.removeAll directory = .error fault) :
      Ended e version asset w (result, { w₂ with log })

lemma execute_ended (e : Executor σ) (version : Version) (asset : Asset) (w : World σ) :
    e.Ended version asset w (e.execute version asset w) := by
  rw [execute, bind_run]
  rcases creation : (Staging.create e.stagingParent "upgrade").outcome w
    with ⟨failure | directory, w₁⟩
  · exact .unstaged creation
  · dsimp only
    rw [bind_run]
    rcases steps : (e.steps directory version asset).run w₁ with ⟨result, w₂⟩
    dsimp only
    rw [bind_run]
    rcases cleanUp_cases directory w₂ with ⟨t, log, removal, after⟩ | ⟨fault, log, removal, after⟩
    · rw [after]
      exact .removed creation steps removal
    · rw [after]
      exact .left creation steps removal

/-- The staging directory is new, and nothing but it is made; or nothing is made at all. -/
lemma Secluded.created {version : Version} {asset : Asset} (s : e.Secluded w version asset)
    {r : Except Failure Path} {w' : World (Watched σ)}
    (creation : (Staging.create e.stagingParent "upgrade").outcome w.watched = (r, w')) :
    w'.history = [] ∧ ((∃ failure, r = .error failure ∧ w'.files = w.files)
      ∨ r = .ok (e.nextStaging w) ∧ e.Kept w w'.files) := by
  obtain ⟨ms, leads, name, t, made⟩ := Staging.create_runs e.stagingParent "upgrade" w.watched
  have run : (Staging.create e.stagingParent "upgrade").run w.watched = (r, w') := creation
  rw [run] at leads made
  rcases made with ⟨t', creation, rfl, rfl⟩ | ⟨fault, _, rfl, rfl⟩
  · obtain ⟨_, ⟨rfl, rfl⟩, leads⟩ := leads.uncons
    obtain ⟨_, ⟨rfl, moved⟩, rest⟩ := leads.uncons
    cases rest
    have files : w'.files = t' := congrArg Scene.files moved
    have history : w'.history = [] := congrArg Scene.history moved
    have free := s.fresh.2 _ List.prefix_rfl
    obtain ⟨rfl, stands⟩ := FileTree.createDirectories_join s.named s.parent free creation
    refine ⟨history, .inr ⟨rfl, ?_⟩⟩
    rw [files]
    refine ⟨rfl, fun l _ off => ?_, .inl ⟨stands, s.removable⟩⟩
    have elsewhere : l ≠ e.stagingPlace w := by
      rintro rfl
      exact off List.prefix_rfl
    exact FileTree.get?_put_of_ne _ _ elsewhere
  · obtain ⟨_, ⟨rfl, rfl⟩, leads⟩ := leads.uncons
    obtain ⟨_, ⟨rfl, moved⟩, rest⟩ := leads.uncons
    cases rest
    exact ⟨congrArg Scene.history moved, .inl ⟨_, rfl, congrArg Scene.files moved⟩⟩

namespace Kept

variable {t t' : FileTree} {version : Version} {asset : Asset} {l : Location}

lemma eq_stagingPlace (h : e.Kept w t) (s : e.Secluded w version asset) {m : Location}
    (found : t.resolve (e.nextStaging w) = .ok m) : m = e.stagingPlace w := by
  rw [FileTree.resolve_eq_place found, h.workingDirectory, s.place_nextStaging]

/-- Where the staging directory is removed, nothing is left of it. -/
lemma removed (h : e.Kept w t) (s : e.Secluded w version asset)
    (removal : t.removeAll (e.nextStaging w) = .ok t') (inside : e.parentPlace w <+: l) :
    t'.get? l = w.files.get? l := by
  obtain ⟨m, found, _, _, rfl⟩ := FileTree.removeAll_cases removal
  obtain rfl := h.eq_stagingPlace s found
  by_cases below : e.stagingPlace w <+: l
  · rw [s.fresh.2 l below]
    exact FileTree.get?_eraseBelow_of_prefix _ below (by simp [stagingPlace])
  · rw [← h.others l inside below]
    exact FileTree.get?_eraseBelow_of_not_prefix _ below

/-- The staging directory can only fail to be removed where it is gone already. -/
lemma left {fault : IoFault} (h : e.Kept w t) (s : e.Secluded w version asset)
    (removal : t.removeAll (e.nextStaging w) = .error fault) (inside : e.parentPlace w <+: l) :
    t.get? l = w.files.get? l := by
  rcases h.staging with ⟨stands, removable⟩ | gone
  · obtain ⟨m, found, stands⟩ := FileTree.hasDirectory_iff.1 stands
    obtain rfl := h.eq_stagingPlace s found
    rw [FileTree.removeAll_of_directory found stands removable] at removal
    cases removal
  · by_cases below : e.stagingPlace w <+: l
    · exact (gone l below).trans (s.fresh.2 l below).symm
    · exact h.others l inside below

end Kept

/-- An installation of secluded parties leaves the parent of its staging directory as it was. -/
lemma Secluded.get?_eq {version : Version} {asset : Asset} (s : e.Secluded w version asset)
    {l : Location} (inside : e.parentPlace w <+: l) :
    (e.execute version asset w).2.files.get? l = w.files.get? l := by
  have watched : (e.execute version asset w).2.files
      = (e.watched.execute version asset w.watched).2.files :=
    congrArg (·.2.files) (e.execute_mirrors version asset w.watched)
  have history : e.history w version asset
      = (e.watched.execute version asset w.watched).2.history := rfl
  rw [watched]
  have ended := e.watched.execute_ended version asset w.watched
  generalize e.watched.execute version asset w.watched = after at ended history
  -- the steps are taken in the new staging directory and keep everything beside it
  have keeps : ∀ {directory : Path} {w₁ w₂ : World (Watched σ)} {result : Except StepFailure Unit},
      (Staging.create e.stagingParent "upgrade").outcome w.watched = (.ok directory, w₁) →
      (e.watched.steps directory version asset).run w₁ = (result, w₂) →
      after.2.history = w₂.history → directory = e.nextStaging w ∧ e.Kept w w₂.files := by
    intro directory w₁ w₂ result creation steps same
    obtain ⟨unvisited, ⟨_, failed, _⟩ | ⟨made, kept⟩⟩ := s.created creation
    · cases failed
    · cases made
      obtain ⟨ms, leads, stepping⟩ := e.steps_runs (e.nextStaging w) version asset w₁
      rw [steps] at leads stepping
      refine ⟨rfl, kept.trace s leads stepping.changes fun v mem => ?_⟩
      have visited : w₂.history = w₁.history ++ visitsOf ms := leads.history_eq
      rw [history, same, visited, unvisited]
      exact mem
  cases ended with
  | @unstaged failure w' creation =>
    obtain ⟨_, ⟨_, _, files⟩ | ⟨made, _⟩⟩ := s.created creation
    · rw [files]
    · cases made
  | @removed directory w₁ w₂ result t log creation steps removal =>
    obtain ⟨rfl, kept⟩ := keeps creation steps rfl
    exact kept.removed s removal inside
  | @left directory w₁ w₂ result fault log creation steps removal =>
    obtain ⟨rfl, kept⟩ := keeps creation steps rfl
    exact kept.left s removal inside

/-- **Whatever becomes of an installation, the parent of its staging directory is as it was before,
and the result is that of the steps.** -/
theorem execute_cleans_up (e : Executor σ) (version : Version) (asset : Asset) (w : World σ) :
    e.Ended version asset w (e.execute version asset w)
    ∧ (e.Secluded w version asset → ∀ l, e.parentPlace w <+: l →
      (e.execute version asset w).2.files.get? l = w.files.get? l) :=
  ⟨e.execute_ended version asset w, fun s _ inside => s.get?_eq inside⟩

/-- An installation in `/tmp`, whose programs leave a file in the staging directory. -/
def leaving : Executor Unit where
  runner := {
    run := fun program _ _ site => (.error (.processLaunchFailed program.text "not there"), site)
    runWithTail := fun _ _ _ _ site => (.ok { code := some 0 },
      (site.tryFiles fun t => t.write "/tmp/certbot-updater_upgrade_1/setup.log" []).2) }
  network := fun _ site => (.response { status := 200, body := { chunks := [[0x4D, 0x5A]] } }, site)
  inspector := fun _ site =>
    (.ok { status := .valid, message := "", subject := none, signerKey := some [1] }, site)
  reporter := [.file "/var/log/updater.log"]
  trustedKey := ⟨[1]⟩
  installDirectory := "/opt/certbot"
  stagingParent := "/tmp"

/-- A world in which another file is kept in `/tmp`. -/
def temporary : World Unit where
  files := { entries := [(["tmp"], .directory), (["tmp", "other"], .file [1] false)] }
  outside := ()
  names _ := "1"

/-- The installation succeeds, and of all that it left in `/tmp` nothing stays. -/
theorem execute_cleans_up_leaving :
    leaving.Secluded temporary ⟨2, 1, 0⟩ ⟨"setup.exe", "http://localhost/setup.exe"⟩
    ∧ (leaving.execute ⟨2, 1, 0⟩ ⟨"setup.exe", "http://localhost/setup.exe"⟩ temporary).1 = .ok ()
    ∧ ∀ l, leaving.parentPlace temporary <+: l →
      (leaving.execute ⟨2, 1, 0⟩ ⟨"setup.exe", "http://localhost/setup.exe"⟩
        temporary).2.files.get? l = temporary.files.get? l := by
  have parent : leaving.parentPlace temporary = ["tmp"] := by decide +kernel
  have staging : leaving.stagingPlace temporary = ["tmp", "certbot-updater_upgrade_1"] := by
    decide +kernel
  have writes : Path.components "/tmp/certbot-updater_upgrade_1/setup.log"
      = [.root, .name "tmp", .name "certbot-updater_upgrade_1", .name "setup.log"] := by
    decide +kernel
  have confined : ∀ site : Site Unit, leaving.Confined temporary site.files
      (site.tryFiles fun t => t.write "/tmp/certbot-updater_upgrade_1/setup.log" []).2.files := by
    intro site
    unfold Site.tryFiles
    cases written : site.files.write "/tmp/certbot-updater_upgrade_1/setup.log" [] with
    | error fault => simpa [written] using Confined.refl leaving temporary site.files
    | ok t =>
      simp only [written]
      have place : Path.place "/tmp/certbot-updater_upgrade_1/setup.log"
          site.files.workingDirectory = leaving.stagingPlace temporary ++ ["setup.log"] := by
        rw [staging, Path.place, writes]
        rfl
      refine ⟨(FileTree.write_sameBut written).mono ?_,
        fun clearable => clearable.of_writes (.write written (.nothing t)) place⟩
      rintro _ rfl _
      rw [place]
      exact List.prefix_append _ _
  have secluded : leaving.Secluded temporary ⟨2, 1, 0⟩
      ⟨"setup.exe", "http://localhost/setup.exe"⟩ := by
    refine ⟨by decide +kernel, ⟨by decide +kernel, ?_⟩, rfl, ?_, confined_of_parties ?_ ?_ ?_ ?_ _ _⟩
    · rw [staging]
      rintro _ ⟨rest, rfl⟩
      simp [FileTree.get?, temporary]
    · rw [parent]
      decide +kernel
    · exact fun _ _ => confined
    · exact fun _ site => .refl _ _ site.files
    · exact fun _ site => .refl _ _ site.files
    · intro sink mem
      refine .inl ⟨"/var/log/updater.log", by simpa [leaving] using mem, .of_keepsOut ?_⟩
      rw [parent]
      decide +kernel
  exact ⟨secluded, by decide +kernel, (execute_cleans_up leaving _ _ temporary).2 secluded⟩

end Executor

end SignedUpgrade
