import SignedUpgrade.Proofs.Upgrade.Cleanup
import SignedUpgrade.Proofs.Upgrade.Contents
import SignedUpgrade.Proofs.Upgrade.Gate

/-!
# What arrives is what is installed

An installation tells the size and the digest of what it downloaded, has a path inspected and
launches a path.  All of this is about one file: the one that the pieces of the body were written
to, which holds them one behind the other.  Where the body does not arrive as a whole nobody gets
to see the file.

* `Download.Settled` — what a download comes to, by what the network answered;
* `Visit.HandsOver` — an inspector or a program is visited;
* `Executor.HandsOn` — what becomes of a content that arrived;
* `Executor.installs_what_arrives` — the main statement.
-/

namespace SignedUpgrade

open Net Text

variable {σ : Type}

/-! ## Downloads -/

/-- What a download to a path comes to, by what the network answered and by the world in which it
did.  The file may hold anything before. -/
structure Download.Settled (asset : Asset) (path : Path) (answer : Except String Response)
    (w : World σ) (result : Except Failure Downloaded × World σ) : Prop where
  /-- No response came. -/
  unanswered : ∀ reason, answer = .error reason →
    result.1 = .error (.downloadFailed asset.url reason)
  /-- The response was no success. -/
  unsuccessful : ∀ response, answer = .ok response → isSuccess response.status = false →
    result.1 = .error (.downloadFailed asset.url ("HTTP " ++ statusText response.status))
  /-- The file cannot be written. -/
  blocked : ∀ response fault, answer = .ok response → isSuccess response.status = true →
    w.files.openForWriting path = .error fault → result.1 = .error (.io fault)
  /-- The body broke off behind some of its pieces. -/
  broken : ∀ response found, answer = .ok response → isSuccess response.status = true →
    w.files.openForWriting path = .ok found → response.body.complete = false →
    result.1 = .error (.downloadFailed asset.url notDecoded)
  /-- The body arrived as a whole.  Its size is counted in 64 bits. -/
  arrived : ∀ response found, answer = .ok response → isSuccess response.status = true →
    w.files.openForWriting path = .ok found → response.body.complete = true →
    result.1 = .ok {
        path
        sha256 := Sha256.hexDigest response.body.chunks.flatten
        size := .ofNat response.body.chunks.flatten.length }
      ∧ result.2.files.read path = .ok response.body.chunks.flatten

lemma Download.settle_settled (asset : Asset) (path : Path) (answer : Except String Response)
    (w : World σ) : Settled asset path answer w (settle asset path answer w) := by
  refine ⟨?_, ?_, ?_, ?_, ?_⟩
  · rintro reason rfl
    rfl
  · rintro response rfl status
    simp [settle, status, failed]
  · rintro response fault rfl status opened
    simp [settle, status, FileTree.write_eq, opened, Except.map]
  · rintro response found rfl status opened whole
    simp [settle, status, FileTree.write_eq, opened, Except.map, whole, failed]
  · rintro response found rfl status opened whole
    obtain ⟨t, written⟩ : ∃ t, w.files.write path response.body.chunks.flatten = .ok t := by
      rw [FileTree.write_eq, opened]
      exact ⟨_, rfl⟩
    simp only [settle, status, written, whole, if_true]
    exact ⟨rfl, FileTree.read_write written⟩

/-! ## Handing over -/

/-- An inspector or a program is visited. -/
def Visit.HandsOver (v : Visit) : Prop :=
  (∃ path answer, v.exchange = .inspection path answer) ∨ v.IsLaunch

/-- A visit takes nothing away from a file that holds a content. -/
def Visit.Keeps (path : Path) (content : Bytes) (v : Visit) : Prop :=
  v.before.read path = .ok content → v.after.read path = .ok content

/-- Whoever is handed something inspects or runs a given file, or is the old uninstaller. -/
def OnlyHands (e : Executor σ) (path : Path) (v : Visit) : Prop :=
  v.HandsOver → ∃ site, v = inspectionVisit e path site ∨ v = uninstallerVisit e site
    ∨ v = installerVisit e path site

/-- What becomes of a file that arrived with a content, in two parts of a history: nobody gets it
before it is there, what is known about it is told, and it is the file that is inspected and
launched. -/
structure Executor.HandsOn (e : Executor σ) (asset : Asset) (file : Downloaded) (content : Bytes)
    (result : Except StepFailure Unit) (before after : List Visit) : Prop where
  idle : ∀ v ∈ before, ¬ v.HandsOver
  /-- The first one who is visited after the download finds the content. -/
  found : ∃ v vs, after = v :: vs ∧ v.before.read file.path = .ok content
  /-- Its size and its digest are told. -/
  told : ∃ v ∈ after, v.Tells (Executor.fetchedText asset file)
  inspected : ∃ site, inspectionVisit e file.path site ∈ after
  launched : result = .ok () → ∃ site, installerVisit e file.path site ∈ after
  /-- Beside this file only the old uninstaller is handed over to anybody. -/
  only : ∀ v ∈ after, OnlyHands e file.path v
  /-- Whoever is visited later finds the content as well, as long as nobody touches the file and it
  is not itself the old uninstaller. -/
  unaltered : (∀ start, e.uninstaller.place start ≠ file.path.place start) →
    ∀ vs v us, after = vs ++ v :: us → (∀ u ∈ vs, u.Keeps file.path content) →
      v.before.read file.path = .ok content

/-- What an installation makes of the download to a directory, from the world in which this
starts. -/
structure Executor.Delivers (e : Executor σ) (version : Version) (asset : Asset) (w : World σ)
    (directory : Path) (w₁ : World σ) : Prop where
  /-- A download that fails ends the installation, and nothing is inspected or launched. -/
  abandoned : ∀ f, ((download e.network asset directory).run w₁).1 = .error f →
    (e.execute version asset w).1 = .error ⟨.downloading, f⟩
      ∧ ∀ v ∈ e.history w version asset, ¬ v.HandsOver
  /-- What arrived is handed on. -/
  handed : ∀ file content, ((download e.network asset directory).run w₁).1 = .ok file →
    ((download e.network asset directory).run w₁).2.files.read file.path = .ok content →
    ∃ before after, e.history w version asset = before ++ after
      ∧ e.HandsOn asset file content (e.execute version asset w).1 before after

/-! ## Traces of those who get the file -/

section Traces

variable {e : Executor σ} {ms : List Mark} {s s' : Scene}

/-- Those who are told an event get nothing. -/
lemma Reported.idle {r : Reporter σ} {severity : Severity} {message : String}
    (h : Reported r severity message ms) : ∀ v ∈ visitsOf ms, ¬ v.HandsOver := by
  obtain ⟨time, vs, t, offered, rfl⟩ := h
  intro v mem
  rw [visitsOf_cons, visitsOf_map_visit] at mem
  rcases List.mem_append.1 mem with mem | mem
  · cases mem
  rcases List.mem_append.1 mem with mem | mem
  · obtain ⟨name, answer, offer⟩ := offered.offers v mem
    simp [Visit.HandsOver, Visit.IsLaunch, offer]
  · rw [List.mem_singleton.1 mem]
    simp [Visit.HandsOver, Visit.IsLaunch, witnessed]

lemma Reported.tells {r : Reporter σ} {message : String}
    (h : Reported r .information message ms) : ∃ v ∈ visitsOf ms, v.Tells message := by
  obtain ⟨time, vs, t, _, rfl⟩ := h
  exact ⟨witnessed ⟨time, .information, message⟩ t, by simp, time, rfl⟩

/-- A download visits nobody but the network. -/
lemma Downloading.idle {n : Network σ} {asset : Asset} {directory : Path}
    {r : Except Failure Downloaded} (h : Downloading n asset directory r ms) :
    ∀ v ∈ visitsOf ms, ¬ v.HandsOver := by
  have requests : ∀ v ∈ visitsOf ms, ∃ request answer, v.exchange = .request request answer := by
    cases h with
    | unsafeName => simp
    | unanswered _ fetched => simpa using fetched.requests
    | unsaved _ fetched => simpa using fetched.requests
    | saved _ fetched => simpa using fetched.requests
  intro v mem
  obtain ⟨request, answer, asked⟩ := requests v mem
  simp [Visit.HandsOver, Visit.IsLaunch, asked]

lemma Reported.onlyHands {r : Reporter σ} {severity : Severity} {message : String}
    (h : Reported r severity message ms) (path : Path) : ∀ v ∈ visitsOf ms, OnlyHands e path v :=
  fun v mem handed => absurd handed (h.idle v mem)

lemma Verifying.hands {path : Path} {r : Except Failure Unit} (h : Verifying e path r ms) :
    (∃ site, inspectionVisit e path site ∈ visitsOf ms)
      ∧ ∀ v ∈ visitsOf ms, OnlyHands e path v := by
  cases h with
  | refused site =>
    refine ⟨⟨site, by simp⟩, ?_⟩
    intro v mem
    rw [List.mem_singleton.1 mem]
    exact fun _ => ⟨site, .inl rfl⟩
  | accepted site _ told =>
    refine ⟨⟨site, by simp⟩, ?_⟩
    intro v mem
    rw [visitsOf_cons, visitsOf_cons] at mem
    rcases List.mem_cons.1 mem with rfl | mem
    · exact fun _ => ⟨site, .inl rfl⟩
    · exact told.onlyHands path v mem

lemma OldUninstalled.onlyHands {r : Except Failure Unit} (h : OldUninstalled e r ms)
    (path : Path) : ∀ v ∈ visitsOf ms, OnlyHands e path v := by
  have launch : ∀ {start : List Mark} (rest : List Mark) (site : Site σ),
      Reported e.reporter .information Executor.uninstallingText start → visitsOf rest = [] →
      ∀ v ∈ visitsOf (start ++ (uninstallerMarks e site ++ rest)), OnlyHands e path v := by
    intro start rest site reported none
    rw [visitsOf_append, visitsOf_append, none, List.append_nil]
    refine List.forall_mem_append.2 ⟨reported.onlyHands path, ?_⟩
    intro v mem
    rw [List.mem_singleton.1 mem]
    exact fun _ => ⟨site, .inr (.inl rfl)⟩
  cases h with
  | present _ uninstalling =>
    cases uninstalling with
    | failed site reported =>
      simpa using launch [] site reported rfl
    | removed site reported => exact launch _ site reported rfl
    | gone site reported => exact launch _ site reported rfl
    | kept site reported => exact launch _ site reported rfl
  | absent _ reported => exact reported.onlyHands path

lemma Installing.hands {path : Path} {version : Version} {asset : Asset} {r : Except Failure Unit}
    (h : Installing e path version asset r ms) :
    (∃ site, installerVisit e path site ∈ visitsOf ms)
      ∧ ∀ v ∈ visitsOf ms, OnlyHands e path v := by
  cases h with
  | ended site reported =>
    refine ⟨⟨site, by simp⟩, ?_⟩
    rw [visitsOf_append]
    refine List.forall_mem_append.2 ⟨reported.onlyHands path, ?_⟩
    intro v mem
    rw [List.mem_singleton.1 mem]
    exact fun _ => ⟨site, .inr (.inr rfl)⟩

/-- Behind the download the file is inspected, and it is launched if the installation succeeds. -/
lemma Finishing.hands {file : Downloaded} {version : Version} {asset : Asset}
    {r : Except StepFailure Unit} (h : Finishing e file version asset r ms) :
    (∃ site, inspectionVisit e file.path site ∈ visitsOf ms)
      ∧ (r = .ok () → ∃ site, installerVisit e file.path site ∈ visitsOf ms)
      ∧ ∀ v ∈ visitsOf ms, OnlyHands e file.path v := by
  cases h with
  | unverified verifying => exact ⟨verifying.hands.1, nofun, verifying.hands.2⟩
  | notUninstalled verifying uninstalled =>
    obtain ⟨⟨site, inspected⟩, only⟩ := verifying.hands
    rw [visitsOf_append]
    exact ⟨⟨site, List.mem_append_left _ inspected⟩, nofun,
      List.forall_mem_append.2 ⟨only, uninstalled.onlyHands _⟩⟩
  | notInstalled verifying uninstalled installing =>
    obtain ⟨⟨site, inspected⟩, only⟩ := verifying.hands
    rw [visitsOf_append, visitsOf_append]
    exact ⟨⟨site, List.mem_append_left _ inspected⟩, nofun, List.forall_mem_append.2
      ⟨only, List.forall_mem_append.2 ⟨uninstalled.onlyHands _, installing.hands.2⟩⟩⟩
  | installed verifying uninstalled installing reported =>
    obtain ⟨⟨site, inspected⟩, only⟩ := verifying.hands
    obtain ⟨⟨site', launched⟩, only'⟩ := installing.hands
    rw [visitsOf_append, visitsOf_append, visitsOf_append]
    refine ⟨⟨site, List.mem_append_left _ inspected⟩, fun _ => ⟨site', ?_⟩, ?_⟩
    · exact List.mem_append_right _ (List.mem_append_right _ (List.mem_append_left _ launched))
    · exact List.forall_mem_append.2 ⟨only, List.forall_mem_append.2 ⟨uninstalled.onlyHands _,
        List.forall_mem_append.2 ⟨only', reported.onlyHands _⟩⟩⟩

/-- A content that no change takes away is found at every visit, up to the first one that does. -/
lemma Leads.reads {path : Path} {content : Bytes} (h : Leads s ms s')
    (changes : ∀ c ∈ changesOf ms, c.1.read path = .ok content → c.2.read path = .ok content)
    (start : s.files.read path = .ok content) {vs us : List Visit} {v : Visit}
    (visits : visitsOf ms = vs ++ v :: us) (kept : ∀ u ∈ vs, u.Keeps path content) :
    v.before.read path = .ok content := by
  induction ms generalizing s vs with
  | nil => simp at visits
  | cons m ms ih =>
    obtain ⟨s₁, move, rest⟩ := h.uncons
    rw [changesOf_cons, List.forall_mem_append] at changes
    obtain ⟨change, changes⟩ := changes
    rw [visitsOf_cons] at visits
    cases m with
    | visit u =>
      obtain ⟨before, rfl⟩ := move
      rw [← before] at start
      cases vs with
      | nil =>
        obtain ⟨rfl, -⟩ := List.cons.inj visits
        exact start
      | cons u' vs =>
        obtain ⟨rfl, later⟩ := List.cons.inj visits
        obtain ⟨keeps, kept⟩ := List.forall_mem_cons.1 kept
        exact ih rest changes (keeps start) later kept
    | change before after =>
      obtain ⟨rfl, rfl⟩ := move
      exact ih rest changes (change (_, after) (by simp [Mark.change?]) start) visits kept
    | note | enter | look | draw =>
      rw [← move.files_eq (by simp) (by simp)] at start
      exact ih rest changes start visits kept

end Traces

/-! ## Installations -/

namespace Executor

variable (e : Executor σ) (version : Version) (asset : Asset)

omit e in
/-- A step that belongs to a state, and what comes behind it. -/
lemma during_bind_run {α β : Type} (state : UpdateState) (x : Attempt σ α)
    (f : α → Installation σ β) (w : World σ) :
    (during state x >>= f).run w = match x.run w with
      | (.ok a, w') => (f a).run w'
      | (.error failure, w') => (.error ⟨state, failure⟩, w') := by
  simp only [during, Attempt.outcome, bind, ExceptT.bind, ExceptT.mk, ExceptT.run, StateT.bind,
    ExceptT.bindCont]
  rcases x w with ⟨_ | _, _⟩
  · rfl
  · rfl

/-- The steps report, download, report again and go on; or they end with the download. -/
lemma steps_run (directory : Path) (w : World σ) :
    (e.steps directory version asset).run w
      = match (download e.network asset directory).run
            (e.reporter.info (fetchingText version asset) w).2 with
        | (.error f, w') => (.error ⟨.downloading, f⟩, w')
        | (.ok file, w') => (e.finish file version asset).run
            (e.reporter.info (fetchedText asset file) w').2 := by
  have fetched : (e.fetch directory version asset).run w
      = match (download e.network asset directory).run
            (e.reporter.info (fetchingText version asset) w).2 with
        | (.error f, w') => (.error f, w')
        | (.ok file, w') => (.ok file, (e.reporter.info (fetchedText asset file) w').2) := by
    have start : (e.fetch directory version asset).run w
        = (download e.network asset directory >>= fun file => do
            liftM (e.reporter.info (fetchedText asset file))
            return file).run (e.reporter.info (fetchingText version asset) w).2 := rfl
    rw [start, Attempt.run_bind]
    rcases (download e.network asset directory).run
      (e.reporter.info (fetchingText version asset) w).2 with ⟨f | file, w'⟩
    · rfl
    · rfl
  have goes : (e.steps directory version asset).run w
      = (during .downloading (e.fetch directory version asset) >>= fun file =>
          e.finish file version asset).run w := rfl
  rw [goes, during_bind_run, fetched]
  rcases (download e.network asset directory).run
    (e.reporter.info (fetchingText version asset) w).2 with ⟨f | file, w'⟩
  · rfl
  · rfl

variable {e version asset}

variable (e version asset) in
/-- An installation in a new directory takes the steps there, and then touches nothing but the files
and the log. -/
lemma execute_of_created {w w₀ : World σ} {directory : Path}
    (creation : (Staging.create e.stagingParent "upgrade").outcome w = (.ok directory, w₀)) :
    ∃ files log, e.execute version asset w = (((e.steps directory version asset).run w₀).1,
      { ((e.steps directory version asset).run w₀).2 with files, log }) := by
  have ended := e.execute_ended version asset w
  generalize e.execute version asset w = after at ended
  cases ended with
  | unstaged failed =>
    rw [creation] at failed
    cases failed
  | removed created steps =>
    rw [creation] at created
    cases created
    rw [steps]
    exact ⟨_, _, rfl⟩
  | left created steps =>
    rw [creation] at created
    cases created
    rw [steps]
    exact ⟨_, _, rfl⟩

/-- The directory is made in the same way if the parties are watched, and none is visited. -/
lemma created_watched {w w₀ : World σ} {directory : Path}
    (creation : (Staging.create e.stagingParent "upgrade").outcome w = (.ok directory, w₀)) :
    ∃ W₀ : World (Watched σ),
      (Staging.create e.stagingParent "upgrade").outcome w.watched = (.ok directory, W₀)
        ∧ W₀.bare = w₀ ∧ W₀.history = [] := by
  have mirrored := (Likeness.bare_executors e).create.mirrors w.watched
  have made : (Staging.create e.stagingParent "upgrade").run w.watched.bare
      = (.ok directory, w₀) := creation
  obtain ⟨ms, leads, name, t, fresh⟩ := Staging.create_runs e.stagingParent "upgrade" w.watched
  rw [made] at mirrored
  rcases run : (Staging.create e.stagingParent "upgrade").run w.watched with ⟨r, W₀⟩
  rw [run] at leads
  have run' : (Staging.create e.watched.stagingParent "upgrade").run w.watched = (r, W₀) := run
  rw [run'] at mirrored
  obtain ⟨same, bare⟩ := Prod.mk.inj mirrored
  have unvisited : visitsOf ms = [] := by
    rcases fresh with ⟨t', _, _, rfl⟩ | ⟨fault, _, _, rfl⟩
    · rfl
    · rfl
  have history : W₀.history = w.watched.history ++ visitsOf ms := leads.history_eq
  rw [unvisited] at history
  refine ⟨W₀, ?_, bare.symm, history⟩
  rw [same]
  exact run

variable (version asset) in
/-- The visits of an installation up to the end of its download, and what is left to do then. -/
lemma delivered {w w₀ : World σ} {directory : Path}
    (creation : (Staging.create e.stagingParent "upgrade").outcome w = (.ok directory, w₀)) :
    ∃ (r : Except Failure Downloaded) (W : World (Watched σ)),
      (download e.network asset directory).run
          (e.reporter.info (fetchingText version asset) w₀).2 = (r, W.bare)
        ∧ (∀ v ∈ W.history, ¬ v.HandsOver)
        ∧ ((e.execute version asset w).1, e.history w version asset) = (match r with
          | .error f => (.error ⟨.downloading, f⟩, W.history)
          | .ok file =>
            let after := (e.watched.finish file version asset).run
              (e.watched.reporter.info (fetchedText asset file) W).2
            (after.1, after.2.history)) := by
  obtain ⟨W₀, created, rfl, unvisited⟩ := created_watched creation
  obtain ⟨files, log, done⟩ := execute_of_created e.watched version asset created
  obtain ⟨start, leads, reported⟩ :=
    e.reporter.report_runs .information (fetchingText version asset) W₀
  have told : e.reporter.report .information (fetchingText version asset) W₀.bare
      = ((e.watched.reporter.info (fetchingText version asset) W₀).1,
        (e.watched.reporter.info (fetchingText version asset) W₀).2.bare) :=
    e.reporter.report_mirrors .information (fetchingText version asset) W₀
  have bare : (e.reporter.info (fetchingText version asset) W₀.bare).2
      = (e.watched.reporter.info (fetchingText version asset) W₀).2.bare := congrArg Prod.snd told
  have visited : (e.watched.reporter.info (fetchingText version asset) W₀).2.history
      = W₀.history ++ visitsOf start := leads.history_eq
  have steps := e.watched.steps_run version asset directory W₀
  have watchedNetwork : e.watched.network = Network.watched e.network := rfl
  rw [watchedNetwork] at steps
  rw [bare]
  generalize (e.watched.reporter.info (fetchingText version asset) W₀).2 = W₁ at *
  obtain ⟨ms, leads, downloading⟩ := download_runs e.network asset directory W₁
  have mirrored := download_mirrors e.network asset directory W₁
  rcases run : (download (Network.watched e.network) asset directory).run W₁ with ⟨r, W⟩
  rw [run] at leads downloading mirrored steps
  have asked : W.history = W₁.history ++ visitsOf ms := leads.history_eq
  refine ⟨r, W, mirrored, ?_, ?_⟩
  · rw [asked, visited, unvisited, List.nil_append]
    exact List.forall_mem_append.2 ⟨reported.idle, downloading.idle⟩
  · have same : (e.execute version asset w).1
        = (e.watched.execute version asset w.watched).1 :=
      congrArg Prod.fst (e.execute_mirrors version asset w.watched)
    rw [same, history, done, steps]
    cases r with
    | error f => rfl
    | ok file => rfl

/-- **What a download comes to decides on the installation.** -/
lemma delivers {w w₀ : World σ} {directory : Path}
    (creation : (Staging.create e.stagingParent "upgrade").outcome w = (.ok directory, w₀)) :
    e.Delivers version asset w directory (e.reporter.info (fetchingText version asset) w₀).2 := by
  obtain ⟨r, W, downloaded, idle, after⟩ := delivered version asset creation
  constructor
  · rw [downloaded]
    rintro f (rfl : r = _)
    obtain ⟨result, history⟩ := Prod.mk.inj after
    rw [history]
    exact ⟨result, idle⟩
  · rw [downloaded]
    rintro file content (rfl : r = _) holds
    obtain ⟨result, history⟩ := Prod.mk.inj after
    obtain ⟨told, leads, reported⟩ :=
      e.reporter.report_runs .information (fetchedText asset file) W
    obtain ⟨ms, leads', finishing⟩ := e.finish_runs file version asset
      (e.watched.reporter.info (fetchedText asset file) W).2
    rw [← result] at finishing
    have whole := leads.append leads'
    have visits : e.history w version asset = W.history ++ visitsOf (told ++ ms) := by
      rw [history]
      exact whole.history_eq
    refine ⟨W.history, visitsOf (told ++ ms), visits, idle, ?_, ?_, ?_, ?_, ?_, ?_⟩
    · obtain ⟨v, vs, first, before⟩ := reported.first leads
      refine ⟨v, vs ++ visitsOf ms, ?_, ?_⟩
      · rw [visitsOf_append, first, List.cons_append]
      · rw [before]
        exact holds
    · obtain ⟨v, mem, tells⟩ := reported.tells
      exact ⟨v, by rw [visitsOf_append]; exact List.mem_append_left _ mem, tells⟩
    · obtain ⟨site, inspected⟩ := finishing.hands.1
      exact ⟨site, by rw [visitsOf_append]; exact List.mem_append_right _ inspected⟩
    · intro success
      obtain ⟨site, launched⟩ := finishing.hands.2.1 success
      exact ⟨site, by rw [visitsOf_append]; exact List.mem_append_right _ launched⟩
    · rw [visitsOf_append]
      exact List.forall_mem_append.2 ⟨reported.onlyHands _, finishing.hands.2.2⟩
    · intro apart vs v us parted kept
      refine whole.reads ?_ holds parted kept
      rw [changesOf_append, reported.changes, List.nil_append]
      intro c change found
      exact FileTree.read_removeFile (finishing.removes c change) (apart _) found

/-- **What is downloaded is what is hashed, inspected and launched.**  However the body of a
response of success was cut into pieces, the file holds the pieces one behind the other, whatever it
held before, and its size and the lower-case text of its digest are told; this file is the one that
is inspected, and launched if the installation succeeds.  If there is no response, or none of
success, or the body breaks off, then the download fails for the address of the asset, and nothing
is inspected or launched. -/
theorem installs_what_arrives (e : Executor σ) (version : Version) (asset : Asset)
    (safe : AssetName.isSafe asset.name = true) :
    (∀ (directory : Path) (w : World σ),
        Download.Settled asset (directory.join asset.name)
          (Download.ask e.network asset (directory.join asset.name) w).1
          (Download.ask e.network asset (directory.join asset.name) w).2
          ((download e.network asset directory).run w))
      ∧ (∀ content : Bytes, Hex.decode (Sha256.hexDigest content) = some (Sha256.digest content)
        ∧ ∀ c ∈ (Sha256.hexDigest content).toList, c ∈ "0123456789abcdef".toList)
      ∧ ∀ (directory : Path) (w w₀ : World σ),
        (Staging.create e.stagingParent "upgrade").outcome w = (.ok directory, w₀) →
        e.Delivers version asset w directory
          (e.reporter.info (fetchingText version asset) w₀).2 := by
  refine ⟨fun directory w => ?_, fun content => ⟨?_, ?_⟩, fun directory w w₀ => delivers⟩
  · rw [download_run e.network directory safe]
    exact Download.settle_settled asset _ _ _
  · exact Hex.decode_encode (Sha256.digest content)
  · exact Hex.encode_lower (Sha256.digest content)

/-- An installation in `/tmp` of an asset with a given body. -/
def serving (body : Body) : Executor Unit :=
  { leaving with
    network := fun _ site => (.response { status := 200, body }, site)
    reporter := [] }

/-- An asset that is installed there. -/
def setup : Asset := ⟨"setup.exe", "http://localhost/setup.exe"⟩

/-- The world in which a staging directory was made for it. -/
def prepared : World Unit :=
  ((Staging.create "/tmp" "upgrade").outcome temporary).2

/-- The world in which its download starts. -/
def underWay (body : Body) : World Unit :=
  ((serving body).reporter.info (fetchingText ⟨2, 1, 0⟩ setup) prepared).2

/-- Two bytes in three pieces, one of which is empty, are handed on; where the body breaks off
behind the first of them nothing is. -/
theorem installs_what_arrives_in_pieces :
    AssetName.isSafe setup.name = true
      ∧ (∃ before after,
        (serving { chunks := [[0x4D], [], [0x5A]] }).history temporary ⟨2, 1, 0⟩ setup
            = before ++ after
          ∧ (serving { chunks := [[0x4D], [], [0x5A]] }).HandsOn setup
            { path := Path.join "/tmp/certbot-updater_upgrade_1" setup.name
              sha256 := Sha256.hexDigest [0x4D, 0x5A]
              size := 2 }
            [0x4D, 0x5A]
            ((serving { chunks := [[0x4D], [], [0x5A]] }).execute ⟨2, 1, 0⟩ setup temporary).1
            before after)
      ∧ ((serving { chunks := [[0x4D]], complete := false }).execute ⟨2, 1, 0⟩ setup temporary).1
          = .error ⟨.downloading, .downloadFailed setup.url notDecoded⟩
      ∧ ∀ v ∈ (serving { chunks := [[0x4D]], complete := false }).history temporary ⟨2, 1, 0⟩ setup,
          ¬ v.HandsOver := by
  have safe : AssetName.isSafe setup.name = true := by decide +kernel
  have made : ((Staging.create "/tmp" "upgrade").outcome temporary).1
      = .ok "/tmp/certbot-updater_upgrade_1" := by decide +kernel
  have creation : (Staging.create "/tmp" "upgrade").outcome temporary
      = (.ok "/tmp/certbot-updater_upgrade_1", prepared) := Prod.ext made rfl
  refine ⟨safe, ?_, ?_⟩
  · obtain ⟨settled, -, delivers⟩ := installs_what_arrives
      (serving { chunks := [[0x4D], [], [0x5A]] }) ⟨2, 1, 0⟩ setup safe
    have delivered : (serving { chunks := [[0x4D], [], [0x5A]] }).Delivers ⟨2, 1, 0⟩ setup temporary
        "/tmp/certbot-updater_upgrade_1" (underWay { chunks := [[0x4D], [], [0x5A]] }) :=
      delivers _ temporary prepared creation
    obtain ⟨arrived, holds⟩ := (settled "/tmp/certbot-updater_upgrade_1"
      (underWay { chunks := [[0x4D], [], [0x5A]] })).arrived
      { status := 200, body := { chunks := [[0x4D], [], [0x5A]] } }
      (["tmp", "certbot-updater_upgrade_1", "setup.exe"], [], false)
      (by decide +kernel) (by decide) (by decide +kernel) rfl
    have pieces : ([[0x4D], [], [0x5A]] : List Bytes).flatten = [0x4D, 0x5A] := rfl
    rw [pieces] at arrived holds
    exact delivered.handed _ _ arrived holds
  · obtain ⟨settled, -, delivers⟩ := installs_what_arrives
      (serving { chunks := [[0x4D]], complete := false }) ⟨2, 1, 0⟩ setup safe
    have delivered : (serving { chunks := [[0x4D]], complete := false }).Delivers ⟨2, 1, 0⟩ setup
        temporary "/tmp/certbot-updater_upgrade_1"
        (underWay { chunks := [[0x4D]], complete := false }) :=
      delivers _ temporary prepared creation
    have failed := (settled "/tmp/certbot-updater_upgrade_1"
      (underWay { chunks := [[0x4D]], complete := false })).broken
      { status := 200, body := { chunks := [[0x4D]], complete := false } }
      (["tmp", "certbot-updater_upgrade_1", "setup.exe"], [], false)
      (by decide +kernel) (by decide) (by decide +kernel) rfl
    exact delivered.abandoned _ failed

end Executor

end SignedUpgrade
