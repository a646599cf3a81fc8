import SignedUpgrade.Proofs.Files.Agreement
import SignedUpgrade.Proofs.Upgrade.Cleanup
import SignedUpgrade.Proofs.Watching.Likeness

/-!
# What sinks may touch

Sinks keep events somewhere: in files, in a log of the system, in memory.  An **archive** is all that
a number of sinks may touch between them.  A site with sinks that keep to an archive differs from one
without them in the archive, and nowhere else.

* `Archive` — the places that sinks may change, the directories above these, and what of the outside
  is left alone;
* `Archive.Alike` — two sites that are the same but for the archive;
* `Sink.KeepsTo` — a sink that touches nothing else, with a lemma for each kind of sink;
* `Archive.likeness` — such sites look alike to whoever does not read the archive;
* `Archive.KeepsOff` — a directory with nothing of the archive in it or along the way to it, with a
  lemma for each operation that can be used there;
* `Archive.inDirectory` — the archive of sinks that keep all events in one directory.
-/

namespace SignedUpgrade

open Text

variable {σ ρ : Type}

/-- What sinks may touch. -/
structure Archive (σ ρ : Type) where
  /-- The directory that relative paths start from. -/
  start : Location
  /-- The places that sinks may change. -/
  places : Location → Prop
  /-- Directories that sinks find on the way to these places, and leave alone. -/
  standing : Location → Prop
  /-- The state of the outside without what sinks keep there. -/
  rest : σ → ρ

namespace Archive

variable (a : Archive σ ρ)

/-- A tree in which sinks find their way. -/
structure Fits (t : FileTree) : Prop where
  workingDirectory : t.workingDirectory = a.start
  standing : ∀ l, a.standing l → t.get? l = some .directory

/-- Two sites that are the same but for the archive.  The log is part of no archive and may differ,
since a sink that fails leaves a line in it. -/
structure Alike (s s' : Site σ) : Prop where
  left : a.Fits s.files
  right : a.Fits s'.files
  files : FileTree.SameBut a.places s.files s'.files
  rest : a.rest s'.outside = a.rest s.outside

variable {a} {s s' s'' : Site σ} {t t' : FileTree}

lemma Fits.of_keeps (h : a.Fits t) (keeps : FileTree.KeepsDirectories t t') : a.Fits t' :=
  ⟨keeps.workingDirectory.trans h.workingDirectory, fun l stands => keeps.kept l (h.standing l stands)⟩

namespace Alike

lemma refl (h : a.Fits s.files) : a.Alike s s :=
  ⟨h, h, .refl _ _, rfl⟩

lemma symm (h : a.Alike s s') : a.Alike s' s :=
  ⟨h.right, h.left, h.files.symm, h.rest.symm⟩

lemma trans (h : a.Alike s s') (h' : a.Alike s' s'') : a.Alike s s'' :=
  ⟨h.left, h'.right, h.files.trans h'.files, h'.rest.trans h.rest⟩

/-- The logs do not matter. -/
lemma logged_right (h : a.Alike s s') (line : LogLine) : a.Alike s (s'.logged line) :=
  ⟨h.left, h.right, h.files, h.rest⟩

lemma logged (h : a.Alike s s') (line : LogLine) : a.Alike (s.logged line) (s'.logged line) :=
  ⟨h.left, h.right, h.files, h.rest⟩

end Alike

end Archive

/-! ## Sinks -/

/-- A sink that touches nothing but the archive. -/
def Sink.KeepsTo (a : Archive σ ρ) (sink : Sink σ) : Prop :=
  ∀ event site, a.Fits site.files → a.Alike site (sink.record event site).2

namespace Sink

variable {a : Archive σ ρ}

lemma file_outside (path : Path) (event : Event) (site : Site σ) :
    ((Sink.file path).record event site).2.outside = site.outside := by
  have kept : ∀ (change : FileTree → Except IoFault FileTree) (site : Site σ),
      (site.tryFiles change).2.outside = site.outside := by
    intro change site
    unfold Site.tryFiles
    cases change site.files <;> rfl
  have written := kept fun t => t.append path (Utf8.encode event.line)
  unfold Sink.file appendLine
  cases directoryOf? path with
  | none => exact written site
  | some directory =>
    have first := kept (fun t => t.createDirectories directory) site
    simp only
    generalize site.tryFiles (fun t => t.createDirectories directory) = made at first
    obtain ⟨_ | _, after⟩ := made
    · exact first
    · exact (written after).trans first

/-- A file is an archive of its own: the file, and the directories that are made for it.  Those that
are there already are left alone. -/
lemma file_keepsTo {path : Path}
    (way : ∀ l, path.OnWay a.start l → a.places l ∨ a.standing l) :
    (Sink.file path : Sink σ).KeepsTo a := by
  intro event site fits
  obtain ⟨t, before, same⟩ := Sink.file_changes path event site
  have keeps := Sink.file_keepsDirectories path event site
  -- a directory that stands is not changed, neither by what is made nor by what is written
  have stays : ∀ l, a.standing l →
      ((Sink.file path).record event site).2.files.get? l = site.files.get? l := by
    intro l stands
    have there := fits.standing l stands
    rw [there, keeps.kept l there]
  refine ⟨fits, fits.of_keeps keeps,
    ⟨keeps.workingDirectory, fun l out => ?_, fun _ _ => by rw [keeps.pinned]⟩,
    congrArg a.rest (Sink.file_outside path event site)⟩
  by_cases stands : a.standing l
  · exact stays l stands
  · have off : ¬ path.OnWay a.start l := fun on => (way l on).elim out stands
    have made : t.workingDirectory = a.start ∧ t.get? l = site.files.get? l := by
      rcases before with rfl | ⟨directory, parent, grown⟩
      · exact ⟨fits.workingDirectory, rfl⟩
      · refine ⟨grown.workingDirectory.trans fits.workingDirectory, ?_⟩
        rcases grown.grows l with same | ⟨_, _, on⟩
        · exact same
        · rw [fits.workingDirectory] at on
          exact absurd (on.of_parent parent) off
    have elsewhere : l ≠ path.place t.workingDirectory := by
      rintro rfl
      rw [made.1] at off
      exact off (path.onWay_place _)
    exact (same.same l elsewhere).trans made.2

/-- Events that are kept in memory are part of no file. -/
lemma memory_keepsTo {add : Event → σ → σ} (kept : ∀ event o, a.rest (add event o) = a.rest o) :
    (Sink.memory add).KeepsTo a := fun event site fits =>
  ⟨fits, fits, .refl _ _, kept event site.outside⟩

/-- The event log is as far away as the runner by which it is written. -/
lemma eventLog_keepsTo {runner : Runner σ}
    (kept : ∀ program arguments limit site, a.Fits site.files →
      a.Alike site (runner.run program arguments limit site).2) :
    (Sink.eventLog runner).KeepsTo a := by
  intro event site fits
  have after := kept PowerShell.program
    (PowerShell.scriptArguments (eventScript event.severity event.message)) (some PowerShell.limit)
    site fits
  unfold Sink.eventLog PowerShell.run
  simp only
  rcases ran : runner.run PowerShell.program
    (PowerShell.scriptArguments (eventScript event.severity event.message)) (some PowerShell.limit)
    site with ⟨_ | _, _⟩
  all_goals
    rw [ran] at after
    exact after

end Sink

/-- Sinks that touch nothing but the archive. -/
def Archive.Holds (a : Archive σ ρ) (r : Reporter σ) : Prop :=
  ∀ sink ∈ r, sink.KeepsTo a

/-! ## Off the archive

Whoever does not read the archive cannot tell two sites apart that are the same but for it.  This
holds of the operations on files, as long as their paths lead into no part of it.
-/

namespace Archive

/-- Sites that are the same but for the archive look alike. -/
def likeness (a : Archive σ ρ) : Likeness σ σ where
  sites := a.Alike
  logged line alike := alike.logged line

/-- A directory with nothing of the archive in it or along the way to it.  The way matters as well:
whoever puts a file there keeps the directory from being made. -/
structure KeepsOff (a : Archive σ ρ) (dir : Path) : Prop where
  way : ∀ l, dir.Along a.start l → ¬ a.places l
  inside : ∀ l, dir.place a.start <+: l → ¬ a.places l ∧ ¬ a.standing l

variable {a : Archive σ ρ} {p dir : Path}

lemma Alike.along {s s' : Site σ} (h : a.Alike s s')
    (clear : ∀ l, p.Along a.start l → ¬ a.places l) :
    FileTree.SameAlong p s.files s'.files :=
  h.files.along (by rwa [h.left.workingDirectory])

lemma looks (clear : ∀ l, p.Along a.start l → ¬ a.places l) :
    a.likeness.Looks (·.hasFile p) (·.hasFile p) :=
  fun _ _ alike => (alike.along clear).hasFile

/-- An operation that does the same on trees that are the same but for the archive, and leaves the
directories that sinks find. -/
lemma changes {change : FileTree → Except IoFault FileTree}
    (together : ∀ t t', a.Fits t → FileTree.SameBut a.places t t' →
      FileTree.Together a.places (change t) (change t'))
    (fits : ∀ t t', a.Fits t → change t = .ok t' → a.Fits t') : a.likeness.Changes change := by
  intro s s' alike
  have goes := together _ _ alike.left alike.files
  have left := fun t => fits s.files t alike.left
  have right := fun t => fits s'.files t alike.right
  generalize change s.files = done at goes left
  generalize change s'.files = done' at goes right
  cases goes with
  | @ok t t' same => exact .inl ⟨t, t', rfl, rfl, left t rfl, right t' rfl, same, alike.rest⟩
  | error fault => exact .inr ⟨fault, rfl, rfl⟩

/-- An operation whose path is clear of the archive, and which takes no directory away. -/
lemma changes_along {change : FileTree → Except IoFault FileTree}
    (clear : ∀ l, p.Along a.start l → ¬ a.places l)
    (together : ∀ {t t'}, FileTree.SameBut a.places t t' →
      (∀ l, p.Along t.workingDirectory l → ¬ a.places l) →
      FileTree.Together a.places (change t) (change t'))
    (keeps : ∀ {t t'}, change t = .ok t' → FileTree.KeepsDirectories t t') :
    a.likeness.Changes change :=
  changes (fun _ _ fits same => together same (by rwa [fits.workingDirectory]))
    fun _ _ fits changed => fits.of_keeps (keeps changed)

/-! ## Archives that are one directory -/

/-- The archive of sinks that keep all events in one directory, whose parent is there. -/
def inDirectory (start directory : Location) (rest : σ → ρ) : Archive σ ρ where
  start := start
  places := (directory <+: ·)
  standing l := l <+: directory ∧ l ≠ directory
  rest := rest

variable {start directory : Location} {rest : σ → ρ}

lemma keepsOff_inDirectory (out : dir.KeepsOut start directory)
    (apart : ¬ dir.place start <+: directory) : (inDirectory start directory rest).KeepsOff dir where
  way := by
    rintro l ⟨m, way, above⟩ inside
    exact out m way (inside.trans above)
  inside l within := by
    refine ⟨fun inside => ?_, fun stands => apart (within.trans stands.1)⟩
    rcases List.prefix_or_prefix_of_prefix inside within with above | above
    · exact out _ (dir.onWay_place start) above
    · exact apart above

lemma file_keepsTo_inDirectory {path : Path} (below : ∀ cs ∈ path.components.inits,
      follow start cs <+: directory ∨ directory <+: follow start cs) :
    (Sink.file path).KeepsTo (inDirectory start directory rest) := by
  refine Sink.file_keepsTo (Path.forall_onWay.2 fun cs mem => ?_)
  rcases below cs mem with above | inside
  · by_cases same : follow start cs = directory
    · exact .inl (same ▸ List.prefix_rfl)
    · exact .inr ⟨above, same⟩
  · exact .inl inside

/-! ## Operations off the archive -/

namespace KeepsOff

variable (h : a.KeepsOff dir)
include h

/-- A file in such a directory is off the archive as well. -/
lemma join {name : String} (named : Path.IsName name) :
    ∀ l, (dir.join name).Along a.start l → ¬ a.places l := by
  intro l along
  rcases along.of_join named with along | rfl
  · exact h.way l along
  · exact (h.inside _ (List.prefix_append _ _)).1

lemma create : a.likeness.Changes (·.createDirectories dir) :=
  changes_along h.way FileTree.createDirectories_together
    fun created => (FileTree.createDirectories_grown created).keepsDirectories

lemma write {name : String} (named : Path.IsName name) (content : Bytes) :
    a.likeness.Changes (·.write (dir.join name) content) :=
  changes_along (h.join named) (fun same clear => FileTree.write_together same clear content)
    FileTree.write_keepsDirectories

lemma append {name : String} (named : Path.IsName name) (added : Bytes) :
    a.likeness.Changes (·.append (dir.join name) added) :=
  changes_along (h.join named) (fun same clear => FileTree.append_together same clear added)
    FileTree.append_keepsDirectories

lemma removeFile {name : String} (named : Path.IsName name) :
    a.likeness.Changes (·.removeFile (dir.join name)) :=
  changes_along (h.join named) FileTree.removeFile_together FileTree.removeFile_keepsDirectories

lemma removeAll : a.likeness.Changes (·.removeAll dir) := by
  refine changes (fun t t' fits same => ?_) fun t t' fits removed => ?_
  · exact FileTree.removeAll_together same (by rw [fits.workingDirectory]; exact h.way)
      (by rw [fits.workingDirectory]; exact fun l within => (h.inside l within).1)
  · have same := FileTree.removeAll_sameBut removed
    refine ⟨same.workingDirectory.trans fits.workingDirectory, fun l stands => ?_⟩
    rw [fits.workingDirectory] at same
    rw [same.same l fun within => (h.inside l within).2 stands]
    exact fits.standing l stands

end KeepsOff

end Archive

end SignedUpgrade
