import SignedUpgrade.Proofs.Files.Operations
import SignedUpgrade.Proofs.Tracing.Visits

/-!
# The trace of a download

A download asks the network, and writes what arrives piece by piece into a file.

* `Saving` — what became of a body and of the file for it;
* `Downloading` — the trace of a download, with one constructor for each way in which it can end.
-/

namespace SignedUpgrade

open Net Text

variable {σ : Type}

/-! ## Saving

The pieces of a body are written one by one.  The trace shows this as a single change, since nobody
is visited in between.
-/

/-- A body is saved between two trees. -/
structure Saving (asset : Asset) (path : Path) (body : Body) (r : Except Failure Download.Received)
    (t t' : FileTree) : Prop where
  writes : FileTree.Writes path t t'
  /-- A body that was saved arrived as a whole, and the file holds it. -/
  saved : ∀ received, r = .ok received →
    body.complete = true ∧ t'.read path = .ok body.chunks.flatten
  failed : ∀ f, r = .error f → (∃ fault, f = .io fault) ∨ f = Download.failed asset notDecoded

namespace Download

/-- Pieces are added behind what the file holds. -/
lemma receive_scene (path : Path) (received : Received) (pieces : List Bytes)
    (w : World (Watched σ)) :
    ∃ r t w', (receive path received pieces).run w = (r, w')
      ∧ w'.scene = { w.scene with files := t } ∧ FileTree.Writes path w.files t
      ∧ (∀ p, r = .ok p → ∀ content, w.files.read path = .ok content →
          t.read path = .ok (content ++ pieces.flatten))
      ∧ ∀ f, r = .error f → ∃ fault, f = .io fault := by
  induction pieces generalizing received w with
  | nil =>
    refine ⟨.ok received, w.files, w, rfl, rfl, .nothing _, ?_, ?_⟩
    · intro _ _ content before
      simpa using before
    · rintro _ ⟨⟩
  | cons piece more ih =>
    rw [receive, Attempt.run_bind, Attempt.onFiles_run]
    cases added : w.files.append path piece with
    | error fault =>
      refine ⟨_, w.files, w, rfl, rfl, .nothing _, ?_, ?_⟩
      · rintro _ ⟨⟩
      · rintro _ ⟨⟩
        exact ⟨fault, rfl⟩
    | ok t =>
      obtain ⟨r, t', w', goes, scene, writes, reads, fails⟩ :=
        ih (received.add piece) { w with files := t }
      refine ⟨r, t', w', goes, scene, .append added writes, ?_, fails⟩
      intro p done content before
      have behind := reads p done _ (FileTree.read_append before added)
      simpa using behind

lemma save_scene (asset : Asset) (path : Path) (body : Body) (w : World (Watched σ)) :
    ∃ r t w', (save asset path body).run w = (r, w') ∧ w'.scene = { w.scene with files := t }
      ∧ Saving asset path body r w.files t := by
  rw [save, Attempt.run_bind, Attempt.onFiles_run]
  cases opened : w.files.write path [] with
  | error fault =>
    refine ⟨.error (.io fault), w.files, w, rfl, rfl, .nothing _, ?_, ?_⟩
    · rintro _ ⟨⟩
    · rintro _ ⟨⟩
      exact .inl ⟨fault, rfl⟩
  | ok t =>
    obtain ⟨r, t', w', goes, scene, writes, reads, fails⟩ :=
      receive_scene path {} body.chunks { w with files := t }
    have written : FileTree.Writes path w.files t' := .write opened writes
    simp only [Attempt.run_bind, goes]
    cases r with
    | error f =>
      refine ⟨.error f, t', w', rfl, scene, written, ?_, ?_⟩
      · rintro _ ⟨⟩
      · rintro _ ⟨⟩
        exact .inl (fails f rfl)
    | ok received =>
      by_cases whole : body.complete = true
      · refine ⟨.ok received, t', w', by simp only [whole]; rfl, scene, written, ?_, ?_⟩
        · intro _ _
          have held := reads received rfl [] (FileTree.read_write opened)
          exact ⟨whole, by simpa using held⟩
        · rintro _ ⟨⟩
      · refine ⟨.error (failed asset notDecoded), t', w', by simp only [whole]; rfl, scene, written,
          ?_, ?_⟩
        · rintro _ ⟨⟩
        · rintro _ ⟨⟩
          exact .inr rfl

lemma save_runs (asset : Asset) (path : Path) (body : Body) :
    Steps.Runs (σ := σ) (save asset path body) fun r ms =>
      ∃ t t', Saving asset path body r t t' ∧ ms = [.change t t'] := by
  intro w
  obtain ⟨r, t, w', goes, scene, saving⟩ := save_scene asset path body w
  rw [goes]
  exact ⟨[.change w.files t], .one ⟨rfl, scene⟩, w.files, t, saving, rfl⟩

end Download

/-! ## Fetching -/

/-- The trace of a download. -/
inductive Downloading (n : Network σ) (asset : Asset) (directory : Path) :
    Except Failure Downloaded → List Mark → Prop where
  | unsafeName (name : AssetName.isSafe asset.name = false) :
      Downloading n asset directory (.error (.invalidAssetName asset.name)) []
  | unanswered {reason : String} {vs : List Visit} (name : AssetName.isSafe asset.name = true)
      (fetched : Fetched n Download.accept asset.url (.error reason) vs) :
      Downloading n asset directory (.error (Download.failed asset reason))
        (.note (.action (.downloadRequest asset.url)) :: vs.map .visit)
  | unsaved {response : Response} {vs : List Visit} {f : Failure} {t t' : FileTree}
      (name : AssetName.isSafe asset.name = true)
      (fetched : Fetched n Download.accept asset.url (.ok response) vs)
      (saving : Saving asset (directory.join asset.name) response.body (.error f) t t') :
      Downloading n asset directory (.error f)
        (.note (.action (.downloadRequest asset.url)) :: (vs.map .visit ++ [.change t t']))
  | saved {response : Response} {vs : List Visit} {received : Download.Received} {t t' : FileTree}
      {file : Downloaded} (name : AssetName.isSafe asset.name = true)
      (fetched : Fetched n Download.accept asset.url (.ok response) vs)
      (saving : Saving asset (directory.join asset.name) response.body (.ok received) t t')
      (path : file.path = directory.join asset.name) :
      Downloading n asset directory (.ok file)
        (.note (.action (.downloadRequest asset.url)) :: (vs.map .visit ++ [.change t t']))

lemma download_runs (n : Network σ) (asset : Asset) (directory : Path) :
    Steps.Runs (download (Network.watched n) asset directory) (Downloading n asset directory) := by
  unfold download
  by_cases name : AssetName.isSafe asset.name = true
  · simp only [name]
    refine .liftBind (.debug _) ?_
    rintro _ _ rfl
    refine .liftBind (.note _) ?_
    rintro _ _ rfl
    refine .liftBind (.onSite (fetchSuccess_visits n Download.accept asset.url)) ?_
    rintro answer _ ⟨vs, rfl, fetched⟩
    cases answer with
    | error reason =>
      refine .throw ?_
      simpa using Downloading.unanswered name fetched
    | ok response =>
      refine .bind (Download.save_runs asset _ response.body) ?_ ?_
      · rintro received _ ⟨t, t', saving, rfl⟩
        refine .liftBind (.debug _) ?_
        rintro _ _ rfl
        refine .pure ?_
        simpa using Downloading.saved name fetched saving rfl
      · rintro f _ ⟨t, t', saving, rfl⟩
        simpa using Downloading.unsaved name fetched saving
  · rw [Bool.not_eq_true] at name
    simp only [name]
    exact .throw (.unsafeName name)

end SignedUpgrade
