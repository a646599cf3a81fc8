import SignedUpgrade.Proofs.Tracing.Installation

/-!
# Changes of an installation

Beside the visits that it pays, an installation changes files itself.  While its steps are under way
there are two such changes, and a trace of the steps shows no others.

* `changesOf` — the changes that a trace shows;
* `StepChange` — the changes that the steps of an installation make;
* `Stepping.changes` — they make no others.
-/

namespace SignedUpgrade

open Net Text

variable {σ : Type}

/-! ## Changes of a trace -/

/-- The change that a mark shows. -/
def Mark.change? : Mark → Option (FileTree × FileTree)
  | change t t' => some (t, t')
  | _ => none

/-- The changes that an updater makes itself along a trace. -/
def changesOf (ms : List Mark) : List (FileTree × FileTree) :=
  ms.filterMap Mark.change?

@[simp] lemma changesOf_nil : changesOf [] = [] := rfl

@[simp] lemma changesOf_cons (m : Mark) (ms : List Mark) :
    changesOf (m :: ms) = m.change?.toList ++ changesOf ms := by
  cases m <;> rfl

@[simp] lemma changesOf_append (ms ns : List Mark) :
    changesOf (ms ++ ns) = changesOf ms ++ changesOf ns := by
  simp [changesOf]

@[simp] lemma changesOf_map_visit (vs : List Visit) : changesOf (vs.map .visit) = [] := by
  induction vs <;> simp_all [Mark.change?]

/-- A change that the steps of an installation make: an asset is saved in the directory for it, or
the uninstaller is removed. -/
inductive StepChange (e : Executor σ) (directory : Path) : FileTree × FileTree → Prop where
  | saved {asset : String} {t t' : FileTree} (safe : AssetName.isSafe asset = true)
      (writes : FileTree.Writes (directory.join asset) t t') : StepChange e directory (t, t')
  | uninstalled {t t' : FileTree} (removal : t.removeFile e.uninstaller = .ok t') :
      StepChange e directory (t, t')

variable {e : Executor σ} {directory : Path} {ms : List Mark}

/-- A report changes nothing. -/
lemma Reported.changes {r : Reporter σ} {severity : Severity} {message : String}
    (h : Reported r severity message ms) : changesOf ms = [] := by
  obtain ⟨time, vs, t, _, rfl⟩ := h
  rw [changesOf_cons, changesOf_map_visit]
  rfl

/-- A download changes files only by writing to the one that has the asset's name. -/
lemma Downloading.writes {n : Network σ} {asset : Asset} {r : Except Failure Downloaded}
    (h : Downloading n asset directory r ms) :
    ∀ c ∈ changesOf ms, AssetName.isSafe asset.name = true
      ∧ FileTree.Writes (directory.join asset.name) c.1 c.2 := by
  cases h with
  | unsafeName => simp
  | unanswered => simp [Mark.change?]
  | unsaved safe _ saving => simpa [Mark.change?] using ⟨safe, saving.writes⟩
  | saved safe _ saving => simpa [Mark.change?] using ⟨safe, saving.writes⟩

lemma Downloading.changes {n : Network σ} {asset : Asset} {r : Except Failure Downloaded}
    (h : Downloading n asset directory r ms) :
    ∀ c ∈ changesOf ms, StepChange e directory c := by
  intro c change
  obtain ⟨safe, writes⟩ := h.writes c change
  exact .saved safe writes

lemma Fetching.changes {version : Version} {asset : Asset} {r : Except Failure Downloaded}
    (h : Fetching e directory version asset r ms) :
    ∀ c ∈ changesOf ms, StepChange e directory c := by
  cases h with
  | failed reported downloading =>
    rw [changesOf_append, reported.changes]
    exact downloading.changes
  | fetched reported downloading told =>
    rw [changesOf_append, changesOf_append, reported.changes, told.changes, List.append_nil]
    exact downloading.changes

lemma Verifying.changes {path : Path} {r : Except Failure Unit} (h : Verifying e path r ms) :
    changesOf ms = [] := by
  cases h with
  | refused => rfl
  | accepted _ _ told =>
    rw [changesOf_cons, changesOf_cons, told.changes]
    rfl

/-- Uninstalling changes files only by removing the uninstaller. -/
lemma Uninstalling.removes {r : Except Failure Unit} (h : Uninstalling e r ms) :
    ∀ c ∈ changesOf ms, c.1.removeFile e.uninstaller = .ok c.2 := by
  cases h with
  | failed _ reported => simp [reported.changes, uninstallerMarks, Mark.change?]
  | removed _ reported _ removal =>
    simpa [reported.changes, uninstallerMarks, Mark.change?] using removal
  | gone _ reported | kept _ reported => simp [reported.changes, uninstallerMarks, Mark.change?]

lemma OldUninstalled.removes {r : Except Failure Unit} (h : OldUninstalled e r ms) :
    ∀ c ∈ changesOf ms, c.1.removeFile e.uninstaller = .ok c.2 := by
  cases h with
  | present _ uninstalling => exact uninstalling.removes
  | absent _ reported => simp [reported.changes, Mark.change?]

lemma Installing.changes {path : Path} {version : Version} {asset : Asset}
    {r : Except Failure Unit} (h : Installing e path version asset r ms) : changesOf ms = [] := by
  cases h with
  | ended _ reported =>
    rw [changesOf_append, reported.changes]
    rfl

/-- Behind the download nothing is changed but that the uninstaller is removed. -/
lemma Finishing.removes {file : Downloaded} {version : Version} {asset : Asset}
    {r : Except StepFailure Unit} (h : Finishing e file version asset r ms) :
    ∀ c ∈ changesOf ms, c.1.removeFile e.uninstaller = .ok c.2 := by
  cases h with
  | unverified verifying => simp [verifying.changes]
  | notUninstalled verifying uninstalled =>
    rw [changesOf_append, verifying.changes, List.nil_append]
    exact uninstalled.removes
  | notInstalled verifying uninstalled installing =>
    rw [changesOf_append, changesOf_append, verifying.changes, installing.changes,
      List.append_nil, List.nil_append]
    exact uninstalled.removes
  | installed verifying uninstalled installing reported =>
    rw [changesOf_append, changesOf_append, changesOf_append, verifying.changes,
      installing.changes, reported.changes, List.append_nil, List.append_nil, List.nil_append]
    exact uninstalled.removes

/-- The steps are those of the download, and those behind it if it succeeds. -/
lemma Stepping.parted {version : Version} {asset : Asset} {r : Except StepFailure Unit}
    (h : Stepping e directory version asset r ms) :
    (∃ f, Fetching e directory version asset (.error f) ms)
      ∨ ∃ file ns os, Fetching e directory version asset (.ok file) ns
        ∧ Finishing e file version asset r os ∧ ms = ns ++ os := by
  cases h with
  | unfetched fetching => exact .inl ⟨_, fetching⟩
  | unverified fetching verifying => exact .inr ⟨_, _, _, fetching, .unverified verifying, rfl⟩
  | notUninstalled fetching verifying uninstalled =>
    exact .inr ⟨_, _, _, fetching, .notUninstalled verifying uninstalled, rfl⟩
  | notInstalled fetching verifying uninstalled installing =>
    exact .inr ⟨_, _, _, fetching, .notInstalled verifying uninstalled installing, rfl⟩
  | installed fetching verifying uninstalled installing reported =>
    exact .inr ⟨_, _, _, fetching, .installed verifying uninstalled installing reported, rfl⟩

/-- The steps save an asset and remove the uninstaller, and change nothing else. -/
lemma Stepping.changes {version : Version} {asset : Asset} {r : Except StepFailure Unit}
    (h : Stepping e directory version asset r ms) :
    ∀ c ∈ changesOf ms, StepChange e directory c := by
  rcases h.parted with ⟨f, fetching⟩ | ⟨file, ns, os, fetching, finishing, rfl⟩
  · exact fetching.changes
  · rw [changesOf_append]
    refine List.forall_mem_append.2 ⟨fetching.changes, fun c change => ?_⟩
    exact .uninstalled (finishing.removes c change)

end SignedUpgrade
