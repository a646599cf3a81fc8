import SignedUpgrade.Proofs.Files.Repetition
import SignedUpgrade.Proofs.Text.Sha256
import SignedUpgrade.Proofs.Upgrade.Confinement

/-!
# What a download holds

A body arrives in pieces, and each of them is written, hashed and counted before the next one is
waited for.  The three accounts never part: together they come to what they would be if the whole
content had been at hand.

* `Download.ask` — what the network answers to a download;
* `Download.settle` — what becomes of an answer if the content is written and hashed as a whole;
* `Download.save_run` — pieces are saved as if they were one;
* `download_run` — **a download settles what the network answers**, however it was cut.
-/

namespace SignedUpgrade

open Net Text

variable {σ : Type}

namespace FileTree

variable {t t' : FileTree} {p : Path} {content : Bytes}

/-- A file in which one content can be written can hold any other one. -/
lemma write_of_written (h : t.write p content = .ok t') (other : Bytes) :
    ∃ t'', t.write p other = .ok t'' := by
  rw [write_eq] at h ⊢
  cases opened : t.openForWriting p with
  | error fault =>
    rw [opened] at h
    cases h
  | ok found => exact ⟨_, rfl⟩

lemma write_eq_error {fault : IoFault} (h : t.write p content = .error fault) (other : Bytes) :
    t.write p other = .error fault := by
  rw [write_eq] at h ⊢
  cases opened : t.openForWriting p with
  | error fault' =>
    rw [opened] at h
    exact congrArg Except.error (Except.error.inj h)
  | ok found =>
    rw [opened] at h
    cases h

end FileTree

namespace Download

/-! ## Hashing and counting -/

/-- What is known of pieces that have all arrived. -/
def receivedOf (pieces : List Bytes) : Received :=
  pieces.foldl Received.add {}

lemma Received.foldl_hash (received : Received) (pieces : List Bytes) :
    (pieces.foldl Received.add received).hash
      = pieces.foldl Sha256.Progress.add received.hash := by
  induction pieces generalizing received with
  | nil => rfl
  | cons piece more ih => exact ih (received.add piece)

/-- The pieces are counted as if they had come as one, both modulo the width of the counter. -/
lemma Received.foldl_size (received : Received) (pieces : List Bytes) :
    (pieces.foldl Received.add received).size
      = received.size + .ofNat pieces.flatten.length := by
  induction pieces generalizing received with
  | nil => exact (UInt64.add_zero _).symm
  | cons piece more ih =>
    calc (more.foldl Received.add (received.add piece)).size
        = received.size + .ofNat piece.length + .ofNat more.flatten.length := ih _
      _ = received.size + .ofNat (piece :: more).flatten.length := by
        rw [List.flatten_cons, List.length_append, UInt64.ofNat_add, UInt64.add_assoc]

lemma receivedOf_digest (pieces : List Bytes) :
    Hex.encode (receivedOf pieces).hash.digest = Sha256.hexDigest pieces.flatten := by
  have holds := Sha256.Progress.holds_nil.foldl pieces
  rw [List.nil_append] at holds
  rw [receivedOf, Received.foldl_hash, holds.digest_eq]
  rfl

lemma receivedOf_size (pieces : List Bytes) :
    (receivedOf pieces).size = .ofNat pieces.flatten.length := by
  rw [receivedOf, Received.foldl_size]
  exact UInt64.zero_add _

/-! ## Saving -/

/-- Pieces that are added to a file that holds the content before them make it hold all. -/
lemma receive_run {path : Path} {t : FileTree} (pieces : List Bytes) {content : Bytes}
    (received : Received) {w : World σ} (written : t.write path content = .ok w.files) :
    ∃ t', t.write path (content ++ pieces.flatten) = .ok t'
      ∧ (receive path received pieces).run w
        = (.ok (pieces.foldl Received.add received), { w with files := t' }) := by
  induction pieces generalizing content received w with
  | nil => exact ⟨w.files, by simpa using written, rfl⟩
  | cons piece more ih =>
    obtain ⟨t₁, grown⟩ := FileTree.write_of_written written (content ++ piece)
    have added : w.files.append path piece = .ok t₁ := by
      rw [FileTree.append_of_written written, grown]
    obtain ⟨t', whole, rest⟩ := ih (received.add piece) (w := { w with files := t₁ }) grown
    refine ⟨t', by simpa using whole, ?_⟩
    rw [receive, Attempt.run_bind, Attempt.onFiles_run, added]
    exact rest

/-- **A body is saved as if all its pieces had come as one.** -/
lemma save_run (asset : Asset) (path : Path) (body : Body) (w : World σ) :
    (save asset path body).run w = match w.files.write path body.chunks.flatten with
      | .error fault => (.error (.io fault), w)
      | .ok files =>
        (if body.complete then .ok (receivedOf body.chunks)
          else .error (failed asset notDecoded), { w with files }) := by
  rw [save, Attempt.run_bind, Attempt.onFiles_run]
  cases opened : w.files.write path [] with
  | error fault => rw [FileTree.write_eq_error opened]
  | ok t =>
    obtain ⟨t', whole, ran⟩ :=
      receive_run body.chunks {} (w := { w with files := t }) opened
    rw [List.nil_append] at whole
    simp only [Attempt.run_bind, ran, whole]
    cases body.complete with
    | true => rfl
    | false => rfl

/-! ## Asking and settling -/

/-- What the network answers to the download of an asset to a path. -/
def ask (network : Network σ) (asset : Asset) (path : Path) : Work σ (Except String Response) := do
  Work.debug ("Downloading " ++ asset.url ++ " to " ++ path.text)
  Work.note (.action (.downloadRequest asset.url))
  Work.onSite (fetch network accept asset.url)

/-- What is told about a content that is saved as a whole. -/
def saved (path : Path) (content : Bytes) : Downloaded where
  path := path
  sha256 := Sha256.hexDigest content
  size := .ofNat content.length

/-- What becomes of an answer if its content is written once and hashed once.  The answer has to be
a success; its content is written even if it broke off. -/
def settle (asset : Asset) (path : Path) :
    Except String Response → World σ → Except Failure Downloaded × World σ
  | .error reason, w => (.error (failed asset reason), w)
  | .ok response, w =>
    let content := response.body.chunks.flatten
    if isSuccess response.status then
      match w.files.write path content with
      | .error fault => (.error (.io fault), w)
      | .ok files =>
        if response.body.complete then
          (.ok (saved path content), (Work.debug ("Downloaded "
            ++ toString (UInt64.ofNat content.length) ++ " bytes, sha256 "
            ++ Sha256.hexDigest content) { w with files }).2)
        else (.error (failed asset notDecoded), { w with files })
    else (.error (failed asset ("HTTP " ++ statusText response.status)), w)

/-- What a download does about a response of success, or about the reason why there is none. -/
def conclude (asset : Asset) (path : Path) : Except String Response → Attempt σ Downloaded
  | .error reason => throw (failed asset reason)
  | .ok response => do
    let received ← save asset path response.body
    Attempt.debug ("Downloaded " ++ toString received.size ++ " bytes, sha256 "
      ++ Hex.encode received.hash.digest)
    return { path, sha256 := Hex.encode received.hash.digest, size := received.size }

end Download

open Download

/-- A download asks first; then it looks at the status of what was answered. -/
lemma download_eq (network : Network σ) {asset : Asset} (directory : Path)
    (safe : AssetName.isSafe asset.name = true) (w : World σ) :
    (download network asset directory).run w
      = (conclude asset (directory.join asset.name)
          ((ask network asset (directory.join asset.name) w).1.bind Response.success)).run
        (ask network asset (directory.join asset.name) w).2 := by
  -- the line of the log and the note go before, and change nothing about the rest
  generalize before : (Work.note (.action (.downloadRequest asset.url))
    (Work.debug ("Downloading " ++ asset.url ++ " to " ++ (directory.join asset.name).text) w).2).2
      = w₁
  have asked : ask network asset (directory.join asset.name) w
      = Work.onSite (fetch network accept asset.url) w₁ := by
    rw [← before]
    rfl
  have fetched : (download network asset directory).run w
      = (conclude asset (directory.join asset.name)
          (fetchSuccess network accept asset.url w₁.toSite).1).run
        { w₁ with toSite := (fetchSuccess network accept asset.url w₁.toSite).2 } := by
    unfold download
    rw [safe, ← before]
    rfl
  rw [asked, fetched, fetchSuccess, Work.onSite]
  rcases fetch network accept asset.url w₁.toSite with ⟨reason | response, site⟩
  · rfl
  · rfl

/-- **A download settles what the network answers,** as if the content had come as a whole. -/
lemma download_run (network : Network σ) {asset : Asset} (directory : Path)
    (safe : AssetName.isSafe asset.name = true) (w : World σ) :
    (download network asset directory).run w
      = settle asset (directory.join asset.name) (ask network asset (directory.join asset.name) w).1
          (ask network asset (directory.join asset.name) w).2 := by
  rw [download_eq network directory safe]
  generalize directory.join asset.name = path
  rcases ask network asset path w with ⟨reason | response, w₁⟩
  · rfl
  · simp only [Except.bind, Response.success, settle]
    by_cases success : isSuccess response.status = true
    · simp only [success, if_true, conclude, Attempt.run_bind, save_run]
      cases w₁.files.write path response.body.chunks.flatten with
      | error fault => rfl
      | ok files =>
        cases response.body.complete with
        | false => rfl
        | true =>
          simp only [if_true, receivedOf_size, receivedOf_digest]
          rfl
    · simp only [success]
      rfl

end SignedUpgrade
