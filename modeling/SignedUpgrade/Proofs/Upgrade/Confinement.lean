import SignedUpgrade.Proofs.Upgrade.Cleanup

/-!
# Downloads stay where they belong

The name of an asset comes from the feed, which nobody vouches for, and a file gets it.  It is
looked at in two ways: character by character, and as a path of its own.  Neither lets a name pass
that could lead out of the directory of a download.

* `AssetName.IsFileName` — what a text must be to name a file in any directory;
* `AssetName.isSafe_iff`, `AssetName.isOneStep_of_isPlain` — the accepted names are these, and the
  second look refuses none that the first one admits;
* `downloadHistory` — the visits that a download pays to the network;
* `download_confined` — **a download changes no other file than the one of its name**, and without
  such a name nothing happens at all.
-/

namespace SignedUpgrade

open Net Text

variable {σ : Type}

/-! ## Names -/

namespace AssetName

/-- What a text must be to name a file in any directory.  The characters of the category `Cc` are
those up to U+001F and those from U+007F to U+009F. -/
structure IsFileName (name : String) : Prop where
  filled : name ≠ ""
  notHere : name ≠ "."
  notAbove : name ≠ ".."
  undivided : '/' ∉ name.toList ∧ '\\' ∉ name.toList ∧ ':' ∉ name.toList
  uncontrolled : ∀ c ∈ name.toList, ¬ (c.toNat ≤ 0x1F ∨ 0x7F ≤ c.toNat ∧ c.toNat ≤ 0x9F)

lemma not_any_parts_iff {cs : List Char} :
    cs.any parts.contains = false ↔ '/' ∉ cs ∧ '\\' ∉ cs ∧ ':' ∉ cs := by
  rw [List.any_eq_false]
  constructor
  · intro none
    refine ⟨fun mem => none _ mem (by decide), fun mem => none _ mem (by decide),
      fun mem => none _ mem (by decide)⟩
  · rintro ⟨slash, backslash, colon⟩ c mem part
    have one : c = '/' ∨ c = '\\' ∨ c = ':' := by simpa [parts] using part
    rcases one with rfl | rfl | rfl
    · exact slash mem
    · exact backslash mem
    · exact colon mem

lemma not_any_isControl_iff {cs : List Char} :
    cs.any isControl = false
      ↔ ∀ c ∈ cs, ¬ (c.toNat ≤ 0x1F ∨ 0x7F ≤ c.toNat ∧ c.toNat ≤ 0x9F) := by
  rw [List.any_eq_false]
  refine forall₂_congr fun c _ => not_congr ?_
  rw [isControl]
  simp only [Bool.or_eq_true, Bool.and_eq_true, decide_eq_true_eq]
  omega

/-- The look at the characters of a name. -/
lemma isPlain_iff (name : String) : isPlain name = true ↔ IsFileName name := by
  have look : isPlain name = true ↔ name ≠ "" ∧ name.toList.any parts.contains = false
      ∧ name.toList.any isControl = false ∧ name ≠ "." ∧ name ≠ ".." := by
    simp only [isPlain, Bool.and_eq_true, Bool.not_eq_true', decide_eq_true_eq, and_assoc]
  rw [look, not_any_parts_iff, not_any_isControl_iff]
  constructor
  · rintro ⟨filled, undivided, uncontrolled, notHere, notAbove⟩
    exact ⟨filled, notHere, notAbove, undivided, uncontrolled⟩
  · rintro ⟨filled, notHere, notAbove, undivided, uncontrolled⟩
    exact ⟨filled, undivided, uncontrolled, notHere, notAbove⟩

lemma IsFileName.isName {name : String} (h : IsFileName name) : Path.IsName name := by
  refine ⟨?_, h.undivided.1⟩
  simp [Path.component?, Path.componentText, h.filled, h.notHere, h.notAbove]

/-- The look at the path of a name refuses nothing that its characters admit. -/
lemma isOneStep_of_isPlain {name : String} (h : isPlain name = true) :
    isOneStep name = true := by
  rw [isOneStep, ((isPlain_iff name).1 h).isName.components]

/-- The names that are accepted. -/
lemma isSafe_iff (name : String) : isSafe name = true ↔ IsFileName name := by
  rw [← isPlain_iff, isSafe, Bool.and_eq_true]
  exact ⟨And.left, fun plain => ⟨plain, isOneStep_of_isPlain plain⟩⟩

end AssetName

/-! ## Between the visits of a download -/

/-- What every change of a trace keeps holds wherever nobody is visited. -/
lemma Leads.between {R : FileTree → FileTree → Prop} (refl : ∀ t, R t t)
    (trans : ∀ {t t' t''}, R t t' → R t' t'' → R t t'') {s s' : Scene} {ms : List Mark}
    (h : Leads s ms s') (changes : ∀ c ∈ changesOf ms, R c.1 c.2) {last : Option Visit}
    {t : FileTree} (so : R t s.files) :
    Between (fun _ => R) last t (visitsOf ms) s'.files := by
  induction ms generalizing s t last with
  | nil =>
    cases h
    exact so
  | cons m ms ih =>
    obtain ⟨s₁, move, rest⟩ := h.uncons
    rw [changesOf_cons, List.forall_mem_append] at changes
    obtain ⟨change, changes⟩ := changes
    cases m with
    | visit v =>
      obtain ⟨before, rfl⟩ := move
      refine ⟨?_, ih rest changes (refl v.after)⟩
      rw [before]
      exact so
    | change before after =>
      obtain ⟨rfl, rfl⟩ := move
      exact ih rest changes (trans so (change (_, after) (by simp [Mark.change?])))
    | note | enter | look | draw =>
      rw [← move.files_eq (by simp) (by simp)] at so
      exact ih rest changes so

/-- Nothing is different but, at most, what stands under a name directly in a directory. -/
def OnlyChild (directory : Path) (name : String) (t t' : FileTree) : Prop :=
  FileTree.SameBut (· = directory.place t.workingDirectory ++ [name]) t t'

namespace OnlyChild

variable {directory : Path} {name : String} {t t' t'' : FileTree}

lemma refl (t : FileTree) : OnlyChild directory name t t :=
  FileTree.SameBut.refl _ t

lemma trans (h : OnlyChild directory name t t') (h' : OnlyChild directory name t' t'') :
    OnlyChild directory name t t'' := by
  rw [OnlyChild, h.workingDirectory] at h'
  exact FileTree.SameBut.trans h h'

/-- What is written to a file with a safe name. -/
lemma of_writes (safe : AssetName.isSafe name = true)
    (h : FileTree.Writes (directory.join name) t t') : OnlyChild directory name t t' := by
  refine h.sameBut.mono ?_
  rintro _ rfl
  exact Path.place_join directory ((AssetName.isSafe_iff name).1 safe).isName _

end OnlyChild

/-! ## Downloads -/

/-- The visits that a download pays to the network, in order. -/
def downloadHistory (network : Network σ) (asset : Asset) (directory : Path) (w : World σ) :
    List Visit :=
  ((download (Network.watched network) asset directory).run w.watched).2.history

lemma download_mirrors (network : Network σ) (asset : Asset) (directory : Path) :
    Steps.Mirrors (download (Network.watched network) asset directory)
      (download network asset directory) :=
  (Likeness.download (fun _ => Likeness.watch_acts _ _) (Likeness.bare_stages directory)
    asset).mirrors

/-- Nothing happens for a name that is not safe. -/
lemma download_of_not_isSafe (network : Network σ) {asset : Asset} (directory : Path)
    (refused : AssetName.isSafe asset.name = false) (w : World σ) :
    (download network asset directory).run w = (.error (.invalidAssetName asset.name), w) := by
  unfold download
  rw [refused]
  rfl

/-- Wherever the network is not at work, a download changes nothing but the file of its name. -/
lemma download_between (network : Network σ) (asset : Asset) (directory : Path) (w : World σ) :
    Between (fun _ => OnlyChild directory asset.name) none w.files
      (downloadHistory network asset directory w)
      ((download network asset directory).run w).2.files := by
  obtain ⟨ms, leads, downloading⟩ := download_runs network asset directory w.watched
  have history : downloadHistory network asset directory w = visitsOf ms := leads.history_eq
  have mirrored := congrArg Prod.snd (download_mirrors network asset directory w.watched)
  have files : ((download network asset directory).run w).2.files
      = ((download (Network.watched network) asset directory).run w.watched).2.scene.files :=
    congrArg (fun w' : World σ => w'.files) mirrored
  rw [history, files]
  refine leads.between OnlyChild.refl OnlyChild.trans ?_ (OnlyChild.refl w.files)
  intro c change
  obtain ⟨safe, writes⟩ := downloading.writes c change
  exact .of_writes safe writes

/-- **The name of an asset keeps its download in the directory.**  A name is accepted if it is the
name of a file, and then leads one step down from every directory; the look at its path refuses
nothing that its characters admit.  Wherever the network is not at work, a download changes no other
file than the one directly below the directory that has its name, and without a name that is
accepted it asks nobody and changes nothing. -/
theorem download_confined (network : Network σ) (asset : Asset) (directory : Path) (w : World σ) :
    (∀ name, AssetName.isSafe name = true ↔ AssetName.IsFileName name)
      ∧ (∀ name, AssetName.isPlain name = true → AssetName.isOneStep name = true)
      ∧ (∀ name, AssetName.isSafe name = true → ∀ dir : Path,
          (dir.join name).components = dir.components ++ [.name name])
      ∧ Between (fun _ => OnlyChild directory asset.name) none w.files
          (downloadHistory network asset directory w)
          ((download network asset directory).run w).2.files
      ∧ (AssetName.isSafe asset.name = false →
          (download network asset directory).run w = (.error (.invalidAssetName asset.name), w)
            ∧ downloadHistory network asset directory w = []) := by
  refine ⟨AssetName.isSafe_iff, fun _ => AssetName.isOneStep_of_isPlain, ?_,
    download_between network asset directory w, ?_⟩
  · intro name safe dir
    exact Path.components_join dir ((AssetName.isSafe_iff name).1 safe).isName
  · intro refused
    refine ⟨download_of_not_isSafe network directory refused w, ?_⟩
    rw [downloadHistory, download_of_not_isSafe _ directory refused]
    rfl

/-- A network that answers every request with the start of a program, in three pieces. -/
def answering : Network Unit := fun _ site =>
  (.response { status := 200, body := { chunks := [[0x4D], [], [0x5A]] } }, site)

/-- Dots within a name lead nowhere; a name that climbs is refused before anybody is asked. -/
theorem download_confined_climbing :
    AssetName.isPlain "setup..exe" = true ∧ AssetName.isOneStep "setup..exe" = true
      ∧ AssetName.isSafe "setup..exe" = true
      ∧ Path.components (Path.join "./tmp/" "setup..exe") = [.here, .name "tmp", .name "setup..exe"]
      ∧ AssetName.isSafe "../setup.exe" = false
      ∧ (download answering ⟨"../setup.exe", "http://localhost/setup.exe"⟩ "/tmp").run
          Executor.temporary = (.error (.invalidAssetName "../setup.exe"), Executor.temporary)
      ∧ downloadHistory answering ⟨"../setup.exe", "http://localhost/setup.exe"⟩ "/tmp"
          Executor.temporary = [] := by
  obtain ⟨_, oneStep, below, _, refused⟩ := download_confined answering
    ⟨"../setup.exe", "http://localhost/setup.exe"⟩ "/tmp" Executor.temporary
  have plain : AssetName.isPlain "setup..exe" = true := by decide +kernel
  have safe : AssetName.isSafe "setup..exe" = true := by decide +kernel
  have climbs : AssetName.isSafe "../setup.exe" = false := by decide +kernel
  have directory : Path.components "./tmp/" = [.here, .name "tmp"] := by decide +kernel
  refine ⟨plain, oneStep _ plain, safe, ?_, climbs, refused climbs⟩
  rw [below _ safe "./tmp/", directory]
  rfl

end SignedUpgrade
