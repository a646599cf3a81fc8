import SignedUpgrade.Proofs.Upgrade.Conduct

/-!
# The footprint of a run

What an updater itself leaves behind in the files is told apart from what its parties do: it is what
is different from the end of one visit to the beginning of the next one.

* `Modest` — what the updater may do itself after a visit;
* `Between` — a relation holds wherever the updater is on its own;
* `Visit.WritesOnly` — what a file that events are kept in allows a sink to do;
* `Footprint`, `Updater.run_footprint` — **every run is modest**, and its sinks keep to their files.
-/

namespace SignedUpgrade

variable {σ : Type}

/-! ## On its own -/

/-- The uninstaller was launched and ended with exit code 0. -/
def Visit.Uninstalled (e : Executor σ) (v : Visit) : Prop :=
  ∃ output, v.exchange = .tailCommand e.uninstaller [Executor.silent]
    (Executor.uninstallArgument e.installDirectory) none (.ok output) ∧ output.code = some 0

/-- Files outside of the staging directory stay as they are, and none is added.  Only the
uninstaller may be removed, if the visit before was its own and it ended with exit code 0. -/
structure Modest (e : Executor σ) (staging : Path) (last : Option Visit) (t t' : FileTree) :
    Prop where
  workingDirectory : t'.workingDirectory = t.workingDirectory
  files : ∀ l, t'.file? l = t.file? l ∨ staging.place t.workingDirectory <+: l
    ∨ l = e.uninstaller.place t.workingDirectory ∧ t'.file? l = none
      ∧ ∃ v, last = some v ∧ v.Uninstalled e

namespace Modest

variable {e : Executor σ} {staging : Path} {last : Option Visit} {t t' t'' : FileTree}

lemma refl (e : Executor σ) (staging : Path) (last : Option Visit) (t : FileTree) :
    Modest e staging last t t :=
  ⟨rfl, fun _ => .inl rfl⟩

lemma trans (h : Modest e staging last t t') (h' : Modest e staging last t' t'') :
    Modest e staging last t t'' := by
  refine ⟨h'.workingDirectory.trans h.workingDirectory, fun l => ?_⟩
  have second := h'.files l
  rw [h.workingDirectory] at second
  rcases h.files l with same | below | ⟨place, gone, after⟩
  · rwa [same] at second
  · exact .inr (.inl below)
  · rcases second with same | below | removed
    · exact .inr (.inr ⟨place, same.trans gone, after⟩)
    · exact .inr (.inl below)
    · exact .inr (.inr removed)

/-- Changes at or below the place of the staging directory are modest. -/
lemma of_sameBut {P : Location → Prop} (h : FileTree.SameBut P t t')
    (below : ∀ l, P l → staging.place t.workingDirectory <+: l) : Modest e staging last t t' := by
  refine ⟨h.workingDirectory, fun l => ?_⟩
  by_cases at_ : P l
  · exact .inr (.inl (below l at_))
  · exact .inl (FileTree.file?_congr (h.same l at_))

end Modest

/-- A safe name of an asset is a single step down. -/
lemma AssetName.isName_of_isSafe {name : String} (h : isSafe name = true) : Path.IsName name := by
  unfold isSafe isPlain at h
  simp only [ne_eq, decide_not, Bool.and_eq_true, Bool.not_eq_eq_eq_not, Bool.not_true,
    decide_eq_false_iff_not] at h
  obtain ⟨⟨⟨⟨⟨empty, parted⟩, _⟩, dot⟩, dots⟩, _⟩ := h
  refine ⟨?_, ?_⟩
  · simp [Path.component?, Path.componentText, empty, dot, dots]
  · intro slash
    have any : name.toList.any parts.contains = true :=
      List.any_eq_true.2 ⟨'/', slash, by decide⟩
    rw [any] at parted
    cases parted

/-- The changes that an executor makes itself are modest. -/
lemma OwnChange.modest {e : Executor σ} {name : String} {last : Option Visit} {t t' : FileTree}
    (h : OwnChange e name last t t') : Modest e (e.stagingDirectory name) last t t' := by
  cases h with
  | staged creation =>
    have grown := FileTree.createDirectories_grown creation
    exact ⟨grown.workingDirectory, fun l => .inl (grown.file?_eq l)⟩
  | @saved asset safe writes =>
    refine .of_sameBut writes.sameBut ?_
    rintro _ rfl
    rw [Path.place_join _ (AssetName.isName_of_isSafe safe)]
    exact List.prefix_append _ _
  | discarded removal =>
    exact .of_sameBut (FileTree.removeAll_sameBut removal) fun _ below => below
  | uninstalled site just ended removal =>
    have same := FileTree.removeFile_sameBut removal
    obtain ⟨output, answer, code⟩ := ending_eq_ok_iff.1 ended
    refine ⟨same.workingDirectory, fun l => ?_⟩
    by_cases place : l = e.uninstaller.place t.workingDirectory
    · refine .inr (.inr ⟨place, ?_, _, just, output, ?_, code⟩)
      · rw [place]
        exact FileTree.removeFile_gone removal
      · simp only [uninstallerVisit, launchVisit, Visit.of, answer]
    · exact .inl (FileTree.file?_congr (same.same l place))

/-! ## Between visits -/

/-- A relation holds wherever nobody is visited: before the first visit, between two of them and
after the last one.  It may depend on the visit before. -/
def Between (R : Option Visit → FileTree → FileTree → Prop) :
    Option Visit → FileTree → List Visit → FileTree → Prop
  | last, t, [], t' => R last t t'
  | last, t, v :: vs, t' => R last t v.before ∧ Between R (some v) v.after vs t'

/-- Where the marks of a trace fit, the updater is modest on its own. -/
lemma Fitting.between {u : Updater σ} {name : String} {last : Option Visit} {ms : List Mark}
    {s s' : Scene} {t : FileTree} (fits : Fitting u name last ms) (leads : Leads s ms s')
    (so : Modest u.executor (u.executor.stagingDirectory name) last t s.files) :
    Between (Modest u.executor (u.executor.stagingDirectory name)) last t (visitsOf ms)
      s'.files := by
  induction ms generalizing s t last with
  | nil =>
    cases leads
    exact so
  | cons m ms ih =>
    obtain ⟨s₁, move, rest⟩ := leads.uncons
    obtain ⟨fit, fits⟩ := fits
    cases m with
    | visit v =>
      obtain ⟨before, rfl⟩ := move
      refine ⟨?_, ih fits rest (.refl _ _ _ _)⟩
      rw [before]
      exact so
    | change before after =>
      obtain ⟨rfl, rfl⟩ := move
      exact ih fits rest (so.trans fit.modest)
    | note | enter | look | draw =>
      rw [← move.files_eq (by simp) (by simp)] at so
      exact ih fits rest so

/-- All visits of a trace that fits are paid. -/
lemma Fitting.paid {u : Updater σ} {name : String} {last : Option Visit} {ms : List Mark}
    (fits : Fitting u name last ms) : ∀ v ∈ visitsOf ms, Paid u v := by
  induction ms generalizing last with
  | nil => simp
  | cons m ms ih =>
    obtain ⟨fit, fits⟩ := fits
    intro v mem
    rw [visitsOf_cons, List.mem_append] at mem
    rcases mem with mem | mem
    · cases m with
      | visit v' =>
        rw [List.mem_singleton.1 mem]
        exact fit
      | _ => cases mem
    · exact ih fits v mem

/-! ## Files that events are kept in -/

/-- No other file than the one of a path was changed. -/
def Visit.WritesOnly (path : Path) (v : Visit) : Prop :=
  v.after.workingDirectory = v.before.workingDirectory
    ∧ ∀ l, l ≠ path.place v.before.workingDirectory → v.after.file? l = v.before.file? l

namespace Sink

/-- A file that events are kept in is written to after its directory was made. -/
lemma file_changes (path : Path) (event : Event) (site : Site σ) :
    ∃ t, (t = site.files ∨ ∃ directory, path.parent? = some directory
        ∧ FileTree.Grown directory site.files t)
      ∧ FileTree.SameBut (· = path.place t.workingDirectory) t
          ((Sink.file path).record event site).2.files := by
  have append : ∀ site : Site σ, FileTree.SameBut (· = path.place site.files.workingDirectory)
      site.files (site.tryFiles fun t => t.append path (Text.Utf8.encode event.line)).2.files := by
    intro site
    unfold Site.tryFiles
    cases added : site.files.append path (Text.Utf8.encode event.line) with
    | ok t => simpa [added] using FileTree.append_sameBut added
    | error fault => simpa [added] using FileTree.SameBut.refl _ site.files
  unfold Sink.file appendLine
  cases above : directoryOf? path with
  | none =>
    simp only
    exact ⟨site.files, .inl rfl, append site⟩
  | some directory =>
    have parent : path.parent? = some directory := (Option.filter_eq_some_iff.1 above).1
    simp only
    cases made : site.files.createDirectories directory with
    | ok t =>
      refine ⟨t, .inr ⟨directory, parent, FileTree.createDirectories_grown made⟩, ?_⟩
      simpa [Site.tryFiles, made] using append { site with files := t }
    | error fault =>
      refine ⟨site.files, .inl rfl, ?_⟩
      simpa [Site.tryFiles, made] using FileTree.SameBut.refl _ site.files

/-- A sink that keeps events in a file writes only to this file. -/
lemma file_writesOnly (path : Path) (event : Event) (site : Site σ) :
    (Visit.of ((Sink.file path).record event) (.offer (Sink.file (σ := σ) path).name event)
      site).WritesOnly path := by
  obtain ⟨t, before, same⟩ := file_changes path event site
  have grown : t.workingDirectory = site.files.workingDirectory
      ∧ ∀ l, t.file? l = site.files.file? l := by
    rcases before with rfl | ⟨_, _, grown⟩
    · exact ⟨rfl, fun _ => rfl⟩
    · exact ⟨grown.workingDirectory, grown.file?_eq⟩
  refine ⟨same.workingDirectory.trans grown.1, fun l out => ?_⟩
  have elsewhere : l ≠ path.place t.workingDirectory := by
    rw [grown.1]
    exact out
  exact (FileTree.file?_congr (same.same l elsewhere)).trans (grown.2 l)

end Sink

/-- What a run does to the files itself. -/
structure Footprint (u : Updater σ) (w : World σ) : Prop where
  /-- Wherever nobody is visited, the updater changes no file outside of its own staging directory,
  but that it removes the uninstaller after this ended with exit code 0. -/
  own : ∃ i, Between (Modest u.executor (u.executor.stagingDirectory (w.names i))) none w.files
    (u.history w) (u.run.outcome w).2.files
  /-- Events are offered to the sinks of the updater alone, and a sink that keeps them in a file
  writes to no other one. -/
  sinks : ∀ v ∈ u.history w, ∀ name event answer, v.exchange = .offer name event answer →
    ∃ sink ∈ u.sinks, ∃ site, v = .of (sink.record event) (.offer sink.name event) site
      ∧ ∀ path, sink = .file path → v.WritesOnly path

/-- **Every run is modest**, whatever its parties do. -/
theorem Updater.run_footprint (u : Updater σ) (w : World σ) : Footprint u w := by
  obtain ⟨ms, traced, running⟩ := u.run_traced w
  obtain ⟨s, leads, files⟩ := traced.leads
  obtain ⟨i, conduct⟩ := running.conduct leads
  refine ⟨⟨i, ?_⟩, ?_⟩
  · rw [traced.history, ← files]
    exact (conduct none).between leads (.refl _ _ _ _)
  · rw [traced.history]
    intro v mem name event answer offer
    cases (conduct none).paid v mem with
    | @offer sink known event' site =>
      simp only [Visit.of, Exchange.offer.injEq] at offer
      obtain ⟨-, rfl, -⟩ := offer
      refine ⟨sink, known, site, rfl, ?_⟩
      rintro path rfl
      exact Sink.file_writesOnly path event' site
    | witnessed | version | feed | download | inspection | launch => cases offer

end SignedUpgrade
