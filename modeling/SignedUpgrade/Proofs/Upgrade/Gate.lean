import SignedUpgrade.Proofs.Upgrade.Deeds

/-!
# The gate before an installation

Nothing is launched on the word of a server alone.  An uninstaller or an installer is started only
after the installer arrived as a whole and an inspector reported, for the very path that it was
written to, a good signature made with the trusted key.  The order of the actions is fixed, and none
of them is tried a second time.

* `InOrder` — the order of the actions of a run;
* `Arrived`, `Accepted` — the two conditions of the gate;
* `Gated` — what a run launches, and when;
* `Updater.run_gated` — **every run is gated**, whatever the parties answer.
-/

namespace SignedUpgrade

open Net

variable {σ : Type} {u : Updater σ}

/-! ## The order of actions -/

/-- Actions are the beginning of a complete upgrade, in which the uninstaller may be left out. -/
def InOrder (actions : List Action) : Prop :=
  ∃ program feed url file uninstaller,
    actions <+: [.versionCommand program, .feedRequest feed, .downloadRequest url,
      .inspection file, .uninstaller uninstaller, .installer file]
    ∨ actions <+: [.versionCommand program, .feedRequest feed, .downloadRequest url,
      .inspection file, .installer file]

/-- Actions in order are all different. -/
lemma InOrder.nodup {actions : List Action} (h : InOrder actions) : actions.Nodup := by
  obtain ⟨program, feed, url, file, uninstaller, full | short⟩ := h
  · exact full.sublist.nodup (by simp)
  · exact short.sublist.nodup (by simp)

/-! ## The verdict on a signature -/

/-- A report is accepted if the verdict is good and the signer's key is the trusted one, and in no
other case. -/
lemma SignatureReport.verify_eq_ok_iff {report : SignatureReport} {key : TrustedKey} {path : Path} :
    report.verify key path = .ok ()
      ↔ report.status = .valid ∧ report.signerKey = some key.bytes := by
  unfold verify
  cases status : report.status with
  | valid =>
    cases signer : report.signerKey with
    | none => simp
    | some bytes =>
      by_cases same : key.bytes = bytes
      · simp [TrustedKey.accepts, same]
      · simp [TrustedKey.accepts, same, Ne.symm same]
  | _ => simp

lemma Executor.verdict_eq_ok_iff {e : Executor σ} {path : Path}
    {answer : Except Failure SignatureReport} :
    e.verdict path answer = .ok () ↔ ∃ report, answer = .ok report ∧ report.status = .valid
      ∧ report.signerKey = some e.trustedKey.bytes := by
  cases answer with
  | error f => simp [verdict, Except.bind]
  | ok report => simp [verdict, Except.bind, SignatureReport.verify_eq_ok_iff]

/-! ## The conditions of the gate -/

/-- An installer arrived as a whole, and the first who looks at its path after the download finds
what arrived. -/
def Arrived (u : Updater σ) (history : List Visit) (ds : List Deed) (path : Path) : Prop :=
  ∃ url response vs before next after, (⟨.downloadRequest url, vs⟩ : Deed) ∈ ds
    ∧ Fetched u.executor.network Download.accept url (.ok response) vs
    ∧ response.body.complete = true
    ∧ history = before ++ (vs ++ next :: after)
    ∧ next.before.read path = .ok response.body.chunks.flatten

/-- The inspector reported on a path that the signature is good and made with the trusted key. -/
def Accepted (u : Updater σ) (ds : List Deed) (path : Path) : Prop :=
  ∃ v report, (⟨.inspection path, [v]⟩ : Deed) ∈ ds
    ∧ v.exchange = .inspection path (.ok report) ∧ report.status = .valid
    ∧ report.signerKey = some u.executor.trustedKey.bytes

/-- The witness took down that something was reported. -/
def Visit.Tells (v : Visit) (message : String) : Prop :=
  ∃ time, v.exchange = .event { time, severity := .information, message }

/-- A program was launched and ended with exit code 0. -/
def Visit.Succeeded (v : Visit) : Prop :=
  ∃ program arguments tail limit output,
    v.exchange = .tailCommand program arguments tail limit (.ok output) ∧ output.code = some 0

/-- A file can be removed, or it is gone already. -/
def FileTree.CanLose (t : FileTree) (path : Path) : Prop :=
  (∃ t', t.removeFile path = .ok t')
    ∨ ∃ fault, t.removeFile path = .error fault ∧ fault.kind = .notFound

/-- What is launched, and when. -/
structure Gated (u : Updater σ) (history : List Visit) (ds : List Deed) : Prop where
  /-- Only a file that arrived and was accepted is launched as the installer. -/
  installer : ∀ path, .installer path ∈ ds.map (·.action) →
    Arrived u history ds path ∧ Accepted u ds path
  /-- The uninstaller is launched only for an installer that arrived and was accepted. -/
  uninstaller : ∀ path, .uninstaller path ∈ ds.map (·.action) →
    path = u.executor.uninstaller ∧ ∃ file, Arrived u history ds file ∧ Accepted u ds file
  /-- Once a file is accepted, the files that are there when this is told decide on the uninstaller,
  and the end of the uninstaller decides on the installer. -/
  accepted : ∀ path, Accepted u ds path → ∃ told ∈ history, told.Tells Executor.acceptedText
    ∧ (.uninstaller u.executor.uninstaller ∈ ds.map (·.action)
        ↔ told.after.hasFile u.executor.uninstaller = true)
    ∧ (.installer path ∈ ds.map (·.action) ↔ told.after.hasFile u.executor.uninstaller = false
        ∨ ∃ v, (⟨.uninstaller u.executor.uninstaller, [v]⟩ : Deed) ∈ ds ∧ v.Succeeded
          ∧ v.after.CanLose u.executor.uninstaller)

/-! ## Steps of the gate

The facts that the gate asks for are collected along the steps.  Where a step looks at files, the
trace shows which files these were, and `Leads` says that they are the ones that the visit before
left behind.
-/

lemma ending_eq_ok_iff {name : String} {answer : Except Failure Output} :
    ending name answer = .ok () ↔ ∃ output, answer = .ok output ∧ output.code = some 0 := by
  cases answer with
  | error f => simp [ending, Except.bind]
  | ok output =>
    by_cases code : output.code = some 0
    · simp [ending, Except.bind, Except.map, Output.check, Output.succeeded, code]
    · simp [ending, Except.bind, Except.map, Output.check, Output.succeeded, code]

lemma uninstallerVisit_succeeded {e : Executor σ} {site : Site σ} :
    (uninstallerVisit e site).Succeeded ↔ uninstallerEnding e site = .ok () := by
  unfold uninstallerEnding
  rw [ending_eq_ok_iff]
  constructor
  · rintro ⟨_, _, _, _, output, seen, code⟩
    simp only [uninstallerVisit, launchVisit, Visit.of, Exchange.tailCommand.injEq] at seen
    exact ⟨output, seen.2.2.2.2, code⟩
  · rintro ⟨output, answer, code⟩
    refine ⟨e.uninstaller, [Executor.silent], Executor.uninstallArgument e.installDirectory, none,
      output, ?_, code⟩
    simp only [uninstallerVisit, launchVisit, Visit.of, answer]

variable {s s' : Scene} {ms : List Mark}

/-- An installer that was fetched has arrived. -/
lemma Fetching.arrived {directory : Path} {version : Version} {asset : Asset} {file : Downloaded}
    (h : Fetching u.executor directory version asset (.ok file) ms) (leads : Leads s ms s') :
    ∃ vs, Does u ms [⟨.downloadRequest asset.url, vs⟩]
      ∧ Arrived u (visitsOf ms) [⟨.downloadRequest asset.url, vs⟩] file.path := by
  cases h with
  | @fetched _ start _ done reported downloading told =>
    cases downloading with
    | @saved response vs received t t' _ name fetched saving path =>
      obtain ⟨whole, holds⟩ := saving.saved received rfl
      obtain ⟨s₁, _, leads⟩ := leads.split
      obtain ⟨s₂, during, after⟩ := leads.split
      obtain ⟨v, others, visits, before⟩ := told.first after
      have files : s₂.files = t' := by
        rw [← List.cons_append] at during
        obtain ⟨_, _, moved⟩ := during.last
        rw [moved]
      refine ⟨vs, ?_, asset.url, response, vs, visitsOf start, v, others, by simp, fetched, whole,
        ?_, ?_⟩
      · have downloaded : Does u
            (.note (.action (.downloadRequest asset.url)) :: (vs.map .visit ++ [.change t t']))
            [⟨.downloadRequest asset.url, vs⟩] := by
          refine .one ?_ ?_ (.downloadRequest fetched)
          · simp [acts_fetched fetched]
          · simp
        simpa using (Does.reported reported).append (downloaded.append (.reported told))
      · simp [visits]
      · rw [before, files, path]
        exact holds

/-- A signature that is not refused is accepted, and this is told. -/
lemma Verifying.accepted_told {path : Path} (h : Verifying u.executor path (.ok ()) ms)
    (leads : Leads s ms s') :
    ∃ v told, Does u ms [⟨.inspection path, [v]⟩] ∧ Accepted u [⟨.inspection path, [v]⟩] path
      ∧ told ∈ visitsOf ms ∧ told.Tells Executor.acceptedText ∧ told.after = s'.files := by
  cases h with
  | @accepted done site verdict told =>
    obtain ⟨_, _, leads⟩ := leads.uncons
    obtain ⟨_, _, leads⟩ := leads.uncons
    obtain ⟨time, vs, visits⟩ := told.last leads
    obtain ⟨report, answer, good⟩ := Executor.verdict_eq_ok_iff.1 verdict
    refine ⟨inspectionVisit u.executor path site,
      witnessed ⟨time, .information, Executor.acceptedText⟩ s'.files, ?_,
      ⟨inspectionVisit u.executor path site, report, by simp, ?_, good⟩, ?_, ⟨time, rfl⟩, rfl⟩
    · have inspected : Does u
          [.note (.action (.inspection path)), .visit (inspectionVisit u.executor path site)]
          [⟨.inspection path, [inspectionVisit u.executor path site]⟩] := by
        refine .one ?_ ?_ (.inspection path site)
        · simp
        · simp
      simpa using inspected.append (.reported told)
    · simp only [inspectionVisit, Visit.of, answer]
    · simp [visits]

/-- How uninstalling can fail: the uninstaller does not succeed, or it cannot be removed. -/
def UninstallFails (e : Executor σ) (site : Site σ) (f : Failure) : Prop :=
  uninstallerEnding e site = .error f
    ∨ uninstallerEnding e site = .ok () ∧ ∃ fault : IoFault, f = .io fault

/-- The deed of uninstalling is the same however it ends. -/
lemma does_uninstallerMarks (site : Site σ) {rest : List Mark} (visits : visitsOf rest = [])
    (notes : notesOf rest = []) :
    Does u (uninstallerMarks u.executor site ++ rest)
      [⟨.uninstaller u.executor.uninstaller, [uninstallerVisit u.executor site]⟩] := by
  refine .one ?_ ?_ (.uninstaller site)
  · simp [uninstallerMarks, uninstallerVisit, visits]
  · simp [uninstallerMarks, notes]

/-- What comes behind the uninstaller starts with the files that this left. -/
lemma leads_uninstallerMarks {e : Executor σ} {start : List Mark} {site : Site σ} {k : Mark}
    (leads : Leads s (start ++ (uninstallerMarks e site ++ [k])) s') :
    ∃ s₁, s₁.files = (uninstallerVisit e site).after ∧ k.Moves s₁ s' := by
  obtain ⟨_, _, leads⟩ := leads.split
  obtain ⟨_, _, leads⟩ := leads.uncons
  obtain ⟨s₁, ⟨_, visited⟩, leads⟩ := leads.uncons
  obtain ⟨_, move, rest⟩ := leads.uncons
  cases rest
  exact ⟨s₁, by rw [visited], move⟩

/-- Uninstalling succeeds if the uninstaller does and is then gone, and in no other case. -/
lemma Uninstalling.does {r : Except Failure Unit} (h : Uninstalling u.executor r ms)
    (leads : Leads s ms s') :
    ∃ site, Does u ms
        [⟨.uninstaller u.executor.uninstaller, [uninstallerVisit u.executor site]⟩]
      ∧ (r = .ok () ↔ (uninstallerVisit u.executor site).Succeeded
          ∧ (uninstallerVisit u.executor site).after.CanLose u.executor.uninstaller)
      ∧ ∀ f, r = .error f → UninstallFails u.executor site f := by
  cases h with
  | @failed f start site reported ended =>
    refine ⟨site, ?_, ?_, ?_⟩
    · have launched := does_uninstallerMarks (u := u) site (rfl : visitsOf [] = []) rfl
      simpa using (Does.reported reported).append launched
    · simp [uninstallerVisit_succeeded, ended]
    · rintro _ ⟨⟩
      exact .inl ended
  | @removed start t t' site reported ended removal =>
    obtain ⟨s₁, files, same, _⟩ := leads_uninstallerMarks leads
    refine ⟨site, (Does.reported reported).append (does_uninstallerMarks site rfl rfl), ?_, ?_⟩
    · rw [← files, ← same]
      simp [uninstallerVisit_succeeded, ended, FileTree.CanLose, removal]
    · rintro _ ⟨⟩
  | @gone start t fault site reported ended removal kind =>
    obtain ⟨s₁, files, same, _⟩ := leads_uninstallerMarks leads
    refine ⟨site, (Does.reported reported).append (does_uninstallerMarks site rfl rfl), ?_, ?_⟩
    · rw [← files, ← same]
      simp [uninstallerVisit_succeeded, ended, FileTree.CanLose, removal, kind]
    · rintro _ ⟨⟩
  | @kept start t fault site reported ended removal kind =>
    obtain ⟨s₁, files, same, _⟩ := leads_uninstallerMarks leads
    refine ⟨site, (Does.reported reported).append (does_uninstallerMarks site rfl rfl), ?_, ?_⟩
    · rw [← files, ← same]
      simp [uninstallerVisit_succeeded, ended, FileTree.CanLose, removal, kind]
    · rintro _ ⟨⟩
      exact .inr ⟨ended, fault, rfl⟩

/-- The deed of uninstalling, if there is one. -/
def uninstallerDeeds (u : Updater σ) (v : Option Visit) : List Deed :=
  (v.map fun v => ⟨.uninstaller u.executor.uninstaller, [v]⟩).toList

/-- The deed of installing, if there is one. -/
def installerDeeds (file : Path) (v : Option Visit) : List Deed :=
  (v.map fun v => ⟨.installer file, [v]⟩).toList

/-- The old version is out of the way: there is none, or its uninstaller succeeded and is gone. -/
def Cleared (u : Updater σ) (t : FileTree) (v : Option Visit) : Prop :=
  t.hasFile u.executor.uninstaller = false
    ∨ ∃ v', v = some v' ∧ v'.Succeeded ∧ v'.after.CanLose u.executor.uninstaller

/-- What is done about an old version depends on the files that are found. -/
lemma OldUninstalled.does {r : Except Failure Unit} (h : OldUninstalled u.executor r ms)
    (leads : Leads s ms s') :
    ∃ v, Does u ms (uninstallerDeeds u v) ∧ v.isSome = s.files.hasFile u.executor.uninstaller
      ∧ (r = .ok () ↔ Cleared u s.files v)
      ∧ ∀ f, r = .error f → ∃ site, v = some (uninstallerVisit u.executor site)
        ∧ UninstallFails u.executor site f := by
  cases h with
  | present there uninstalling =>
    obtain ⟨_, ⟨rfl, _⟩, rest⟩ := leads.uncons
    obtain ⟨site, does, ends, fails⟩ := uninstalling.does rest
    refine ⟨some (uninstallerVisit u.executor site), does.cons rfl rfl, ?_, ?_, ?_⟩
    · simp [there]
    · simp [Cleared, there, ends]
    · intro f failed
      exact ⟨site, rfl, fails f failed⟩
  | absent gone reported =>
    obtain ⟨_, ⟨rfl, _⟩, _⟩ := leads.uncons
    refine ⟨none, (Does.reported reported).cons rfl rfl, ?_, ?_, ?_⟩
    · simp [gone]
    · simp [Cleared, gone]
    · rintro _ ⟨⟩

/-! ## Putting the gate together -/

/-- Where no signature is accepted, nothing is launched. -/
lemma Gated.closed {history : List Visit} {ds : List Deed}
    (launches : ∀ path, .installer path ∉ ds.map (·.action) ∧ .uninstaller path ∉ ds.map (·.action))
    (refused : ∀ path, ¬ Accepted u ds path) : Gated u history ds := by
  refine ⟨?_, ?_, ?_⟩
  · intro path launched
    exact absurd launched (launches path).1
  · intro path launched
    exact absurd launched (launches path).2
  · intro path accepted
    exact absurd accepted (refused path)

/-- The deeds of an installation from the download on. -/
def installationDeeds (u : Updater σ) (url : String) (file : Path) (vs : List Visit)
    (inspected : Visit) (uninstalled installed : Option Visit) : List Deed :=
  ⟨.downloadRequest url, vs⟩ :: ⟨.inspection file, [inspected]⟩
    :: (uninstallerDeeds u uninstalled ++ installerDeeds file installed)

/-- Where a signature is accepted, the files and the end of the uninstaller decide. -/
lemma Gated.open {history vs : List Visit} {url : String} {file : Path}
    {inspected told : Visit} {uninstalled installed : Option Visit}
    (arrived : Arrived u history [⟨.downloadRequest url, vs⟩] file)
    (accepted : Accepted u [⟨.inspection file, [inspected]⟩] file) (mem : told ∈ history)
    (tells : told.Tells Executor.acceptedText)
    (uninstalls : uninstalled.isSome = told.after.hasFile u.executor.uninstaller)
    (installs : installed.isSome = true ↔ Cleared u told.after uninstalled) :
    Gated u history (installationDeeds u url file vs inspected uninstalled installed) := by
  have arrived' : Arrived u history
      (installationDeeds u url file vs inspected uninstalled installed) file := by
    obtain ⟨url', response, vs', before, next, after, mem, rest⟩ := arrived
    refine ⟨url', response, vs', before, next, after, ?_, rest⟩
    rw [List.mem_singleton.1 mem]
    exact List.mem_cons_self
  have accepted' : Accepted u
      (installationDeeds u url file vs inspected uninstalled installed) file := by
    obtain ⟨v, report, mem, rest⟩ := accepted
    refine ⟨v, report, ?_, rest⟩
    rw [List.mem_singleton.1 mem]
    exact List.mem_cons_of_mem _ List.mem_cons_self
  have actions : ∀ path,
      (.installer path ∈ (installationDeeds u url file vs inspected uninstalled installed).map
        (·.action) ↔ path = file ∧ installed.isSome = true)
      ∧ (.uninstaller path ∈ (installationDeeds u url file vs inspected uninstalled installed).map
        (·.action) ↔ path = u.executor.uninstaller ∧ uninstalled.isSome = true) := by
    intro path
    cases uninstalled <;> cases installed <;>
      simp [installationDeeds, uninstallerDeeds, installerDeeds]
  refine ⟨?_, ?_, ?_⟩
  · intro path launched
    obtain ⟨rfl, _⟩ := (actions path).1.1 launched
    exact ⟨arrived', accepted'⟩
  · intro path launched
    exact ⟨((actions path).2.1 launched).1, file, arrived', accepted'⟩
  · rintro path ⟨v, report, inspects, _⟩
    have same : path = file := by
      cases uninstalled <;> cases installed <;>
        simp_all [installationDeeds, uninstallerDeeds, installerDeeds]
    refine ⟨told, mem, tells, ?_, ?_⟩
    · rw [(actions _).2, ← uninstalls]
      simp
    · rw [(actions path).1, installs, same]
      cases uninstalled <;> cases installed <;>
        simp [Cleared, installationDeeds, uninstallerDeeds, installerDeeds]

/-- What arrived in a part of a history arrived in the whole of it. -/
lemma Arrived.within {history : List Visit} {ds : List Deed} {path : Path}
    (h : Arrived u history ds path) (earlier later : List Visit) (es : List Deed) :
    Arrived u (earlier ++ (history ++ later)) (es ++ ds) path := by
  obtain ⟨url, response, vs, before, next, after, mem, fetched, whole, rfl, holds⟩ := h
  refine ⟨url, response, vs, earlier ++ before, next, after ++ later,
    List.mem_append_right _ mem, fetched, whole, ?_, holds⟩
  simp

/-- What is gated in a part of a history, after deeds that only prepare, is gated in the whole. -/
lemma Gated.within {history : List Visit} {ds : List Deed} (h : Gated u history ds)
    (earlier later : List Visit) (es : List Deed)
    (prepares : ∀ d ∈ es, ∀ path, d.action ≠ .inspection path ∧ d.action ≠ .uninstaller path
      ∧ d.action ≠ .installer path) :
    Gated u (earlier ++ (history ++ later)) (es ++ ds) := by
  have accepted : ∀ path, Accepted u (es ++ ds) path ↔ Accepted u ds path := by
    intro path
    constructor
    · rintro ⟨v, report, mem, rest⟩
      rcases List.mem_append.1 mem with mem | mem
      · exact absurd rfl (prepares _ mem path).1
      · exact ⟨v, report, mem, rest⟩
    · rintro ⟨v, report, mem, rest⟩
      exact ⟨v, report, List.mem_append_right _ mem, rest⟩
  have launched : ∀ a, (∀ d ∈ es, d.action ≠ a) →
      (a ∈ (es ++ ds).map (·.action) ↔ a ∈ ds.map (·.action)) := by
    intro a none
    rw [List.map_append, List.mem_append]
    refine ⟨?_, .inr⟩
    rintro (mem | mem)
    · obtain ⟨d, mem, action⟩ := List.mem_map.1 mem
      exact absurd action (none d mem)
    · exact mem
  have noInstaller : ∀ path, ∀ d ∈ es, d.action ≠ .installer path :=
    fun path d mem => (prepares d mem path).2.2
  have noUninstaller : ∀ path, ∀ d ∈ es, d.action ≠ .uninstaller path :=
    fun path d mem => (prepares d mem path).2.1
  refine ⟨?_, ?_, ?_⟩
  · intro path mem
    obtain ⟨arrived, inspected⟩ := h.installer path ((launched _ (noInstaller path)).1 mem)
    exact ⟨arrived.within earlier later es, (accepted path).2 inspected⟩
  · intro path mem
    obtain ⟨same, file, arrived, inspected⟩ :=
      h.uninstaller path ((launched _ (noUninstaller path)).1 mem)
    exact ⟨same, file, arrived.within earlier later es, (accepted file).2 inspected⟩
  · intro path inspected
    obtain ⟨told, mem, tells, uninstalls, installs⟩ := h.accepted path ((accepted path).1 inspected)
    refine ⟨told, ?_, tells, ?_, ?_⟩
    · simp [mem]
    · rw [launched _ (noUninstaller _)]
      exact uninstalls
    · rw [launched _ (noInstaller _), installs]
      refine or_congr Iff.rfl (exists_congr fun v => and_congr_left fun _ => ?_)
      rw [List.mem_append]
      refine ⟨.inr, ?_⟩
      rintro (mem | mem)
      · exact absurd rfl (noUninstaller _ _ mem)
      · exact mem

/-- The deeds of an installation from an address are the last ones of a run that is in order. -/
def EndsInOrder (url : String) (ds : List Deed) : Prop :=
  ∃ file uninstaller,
    ds.map (·.action)
        <+: [.downloadRequest url, .inspection file, .uninstaller uninstaller, .installer file]
      ∨ ds.map (·.action) <+: [.downloadRequest url, .inspection file, .installer file]

lemma endsInOrder_installationDeeds (url : String) (file : Path) (vs : List Visit)
    (inspected : Visit) (uninstalled installed : Option Visit) :
    EndsInOrder url (installationDeeds u url file vs inspected uninstalled installed) := by
  refine ⟨file, u.executor.uninstaller, ?_⟩
  cases uninstalled <;> cases installed <;>
    simp [installationDeeds, uninstallerDeeds, installerDeeds]

/-- Nothing but the address of an installation is downloaded from. -/
lemma EndsInOrder.download {url url' : String} {ds : List Deed} (h : EndsInOrder url ds)
    (mem : .downloadRequest url' ∈ ds.map (·.action)) : url' = url := by
  obtain ⟨file, uninstaller, full | short⟩ := h
  · simpa using full.subset mem
  · simpa using short.subset mem

/-- Up to the verdict there is nothing to launch.  From a good verdict on, the deeds are those of an
installation, if old version and installer are treated as the files ask for. -/
lemma gated_verified {directory : Path} {version : Version} {asset : Asset} {file : Downloaded}
    {ns rest : List Mark} {s₁ s₂ : Scene} {uninstalled installed : Option Visit}
    (fetching : Fetching u.executor directory version asset (.ok file) ms)
    (verifying : Verifying u.executor file.path (.ok ()) ns) (first : Leads s ms s₁)
    (second : Leads s₁ ns s₂)
    (uninstalls : uninstalled.isSome = s₂.files.hasFile u.executor.uninstaller)
    (installs : installed.isSome = true ↔ Cleared u s₂.files uninstalled)
    (does : Does u rest (uninstallerDeeds u uninstalled ++ installerDeeds file.path installed)) :
    ∃ ds, Does u (ms ++ (ns ++ rest)) ds ∧ Gated u (visitsOf (ms ++ (ns ++ rest))) ds
      ∧ EndsInOrder asset.url ds := by
  obtain ⟨vs, fetched, arrived⟩ := fetching.arrived first
  obtain ⟨v, told, inspected, accepted, mem, tells, files⟩ := verifying.accepted_told second
  refine ⟨installationDeeds u asset.url file.path vs v uninstalled installed, ?_, ?_,
    endsInOrder_installationDeeds ..⟩
  · exact fetched.append (inspected.append does)
  · rw [← files] at uninstalls installs
    refine .open ?_ accepted ?_ tells uninstalls installs
    · simpa using arrived.within [] (visitsOf (ns ++ rest)) []
    · simp [mem]

lemma Stepping.gated {directory : Path} {version : Version} {asset : Asset}
    {r : Except StepFailure Unit} (h : Stepping u.executor directory version asset r ms)
    (leads : Leads s ms s') :
    ∃ ds, Does u ms ds ∧ Gated u (visitsOf ms) ds ∧ EndsInOrder asset.url ds := by
  cases h with
  | unfetched fetching =>
    obtain ⟨ds, does, fails⟩ := fetching.does_failed
    refine ⟨ds, does, .closed ?_ ?_, ⟨""⟩, ⟨""⟩, .inl ?_⟩
    · cases fails <;> simp
    · cases fails <;> simp [Accepted]
    · cases fails <;> simp
  | @unverified file f ms ns fetching verifying =>
    obtain ⟨s₁, first, second⟩ := leads.split
    obtain ⟨vs, fetched, arrived⟩ := fetching.arrived first
    obtain ⟨site, inspected, refused⟩ := verifying.does_refused
    refine ⟨_, fetched.append inspected, .closed (by simp) ?_, file.path, ⟨""⟩,
      .inl (by simp)⟩
    rintro path ⟨v', report, mem, seen, good⟩
    simp only [List.cons_append, List.nil_append, List.mem_cons, Deed.mk.injEq, reduceCtorEq,
      false_and, false_or, List.not_mem_nil, or_false, List.cons.injEq, and_true] at mem
    simp only [mem.2, inspectionVisit, Visit.of, Exchange.inspection.injEq] at seen
    rw [Executor.verdict_eq_ok_iff.2 ⟨report, seen.2, good⟩] at refused
    cases refused
  | @notUninstalled file _ _ _ os fetching verifying uninstalled =>
    obtain ⟨s₁, first, rest⟩ := leads.split
    obtain ⟨s₂, second, third⟩ := rest.split
    obtain ⟨v, does, found, ends, _⟩ := uninstalled.does third
    have launched : Does u os (uninstallerDeeds u v ++ installerDeeds file.path none) := by
      simpa [installerDeeds] using does
    refine gated_verified fetching verifying first second found ?_ launched
    simpa using ends
  | @notInstalled file _ _ _ os ps fetching verifying uninstalled installing =>
    obtain ⟨s₁, first, rest⟩ := leads.split
    obtain ⟨s₂, second, rest⟩ := rest.split
    obtain ⟨s₃, third, _⟩ := rest.split
    obtain ⟨v, does, found, ends, _⟩ := uninstalled.does third
    obtain ⟨site, installs, _⟩ := installing.does
    have launched : Does u (os ++ ps) (uninstallerDeeds u v
        ++ installerDeeds file.path (some (installerVisit u.executor file.path site))) :=
      does.append installs
    refine gated_verified fetching verifying first second found ?_ launched
    simpa using ends
  | @installed file _ _ os ps told fetching verifying uninstalled installing reported =>
    obtain ⟨s₁, first, rest⟩ := leads.split
    obtain ⟨s₂, second, rest⟩ := rest.split
    obtain ⟨s₃, third, _⟩ := rest.split
    obtain ⟨v, does, found, ends, _⟩ := uninstalled.does third
    obtain ⟨site, installs, _⟩ := installing.does
    have launched : Does u (os ++ (ps ++ told)) (uninstallerDeeds u v
        ++ installerDeeds file.path (some (installerVisit u.executor file.path site))) :=
      does.append (installs.append (.reported reported))
    refine gated_verified fetching verifying first second found ?_ launched
    simpa using ends

lemma Executing.gated {version : Version} {asset : Asset} {r : Except StepFailure Unit}
    (h : Executing u.executor version asset r ms) (leads : Leads s ms s') :
    ∃ ds, Does u ms ds ∧ Gated u (visitsOf ms) ds ∧ EndsInOrder asset.url ds := by
  cases h with
  | unstaged =>
    refine ⟨[], .nothing rfl rfl, .closed (by simp) (by simp [Accepted]), ⟨""⟩, ⟨""⟩, .inl ?_⟩
    simp
  | @staged name t t' _ ms cs creation stepping cleaned =>
    obtain ⟨_, _, rest⟩ := leads.uncons
    obtain ⟨_, _, rest⟩ := rest.uncons
    obtain ⟨_, steps, _⟩ := rest.split
    obtain ⟨ds, does, gated, inOrder⟩ := stepping.gated steps
    refine ⟨ds, ?_, ?_, inOrder⟩
    · have all : Does u (ms ++ cs) ds := by simpa using does.append cleaned.does
      exact (all.cons rfl rfl).cons rfl rfl
    · simpa using gated.within [] (visitsOf cs) [] (by simp)

/-- A run whose trace ends after the preparation launches nothing. -/
lemma gated_preparation {history : List Visit} {ds : List Deed}
    {result : Except StepFailure Decision} (h : Prepared u result ds) :
    Gated u history ds ∧ InOrder (ds.map (·.action)) := by
  obtain ⟨program, site, vs, rfl⟩ := h.eq_preparationDeeds
  refine ⟨.closed ?_ ?_, program, u.resolver.feedUrl, "", ⟨""⟩, ⟨""⟩, .inl ?_⟩
  · simp [preparationDeeds]
  · simp [preparationDeeds, Accepted]
  · simp [preparationDeeds]

/-- A run with an installation is gated as the installation is. -/
lemma gated_installation {history : List Visit} {ds es : List Deed}
    {result : Except StepFailure Decision} {url : String} (earlier later : List Visit)
    (h : Prepared u result es) (gated : Gated u history ds) (inOrder : EndsInOrder url ds) :
    Gated u (earlier ++ (history ++ later)) (es ++ ds)
      ∧ InOrder ((es ++ ds).map (·.action)) := by
  obtain ⟨program, site, vs, rfl⟩ := h.eq_preparationDeeds
  refine ⟨gated.within earlier later _ (by simp [preparationDeeds]), ?_⟩
  obtain ⟨file, uninstaller, full | short⟩ := inOrder
  · refine ⟨program, u.resolver.feedUrl, url, file, uninstaller, .inl ?_⟩
    simpa [preparationDeeds] using full
  · refine ⟨program, u.resolver.feedUrl, url, file, uninstaller, .inr ?_⟩
    simpa [preparationDeeds] using short

/-- A run that executes is gated, whatever it does behind the execution without an act.  It downloads
nothing but the asset. -/
lemma gated_executing {decision : Decision} {version : Version} {asset : Asset} {message : String}
    {severity severity' : Severity} {message' : String} {r : Except StepFailure Unit}
    {start told ns rest : List Mark} (started : Reported u.reporter severity message start)
    (resolving : Resolving u (.ok decision) ms)
    (reported : Reported u.reporter severity' message' told)
    (executing : Executing u.executor version asset r ns) (quiet : Does u rest [])
    (leads : Leads s (start ++ (ms ++ (told ++ .enter .downloading :: (ns ++ rest)))) s') :
    ∃ ds, Does u (start ++ (ms ++ (told ++ .enter .downloading :: (ns ++ rest)))) ds
      ∧ Gated u (visitsOf (start ++ (ms ++ (told ++ .enter .downloading :: (ns ++ rest))))) ds
      ∧ InOrder (ds.map (·.action))
      ∧ ∀ url, .downloadRequest url ∈ ds.map (·.action) → url = asset.url := by
  obtain ⟨_, _, leads⟩ := leads.split
  obtain ⟨_, _, leads⟩ := leads.split
  obtain ⟨_, _, leads⟩ := leads.split
  obtain ⟨_, _, leads⟩ := leads.uncons
  obtain ⟨_, steps, _⟩ := leads.split
  obtain ⟨_, es, _, prepares, prepared⟩ := resolving.does
  obtain ⟨ds, does, gated, inOrder⟩ := executing.gated steps
  refine ⟨es ++ ds, ?_, ?_, ?_, ?_⟩
  · have installed : Does u (.enter .downloading :: (ns ++ rest)) ds :=
      .cons rfl rfl (by simpa using does.append quiet)
    exact (Does.reported started).append
      (prepares.append ((Does.reported reported).append installed))
  · have whole := gated_installation (visitsOf (start ++ (ms ++ told))) (visitsOf rest)
      prepared gated inOrder
    simpa using whole.1
  · exact (gated_installation [] [] prepared gated inOrder).2
  · intro url mem
    obtain ⟨program, site, vs, rfl⟩ := prepared.eq_preparationDeeds
    refine inOrder.download ?_
    simpa [preparationDeeds] using mem

lemma Running.gated {r : Except Failure Outcome} (h : Running u r ms) (leads : Leads s ms s') :
    ∃ ds, Does u ms ds ∧ Gated u (visitsOf ms) ds ∧ InOrder (ds.map (·.action)) := by
  cases h with
  | failed started resolving =>
    obtain ⟨_, ds, _, does, prepared⟩ := resolving.does
    exact ⟨ds, (Does.reported started).append does, gated_preparation prepared⟩
  | upToDate started resolving reported =>
    obtain ⟨_, ds, _, does, prepared⟩ := resolving.does
    refine ⟨ds, ?_, gated_preparation prepared⟩
    simpa using (Does.reported started).append (does.append ((Does.reported reported).cons rfl rfl))
  | notInstalled started resolving reported executing aborting =>
    obtain ⟨ds, does, gated, inOrder, _⟩ :=
      gated_executing started resolving reported executing aborting.does leads
    exact ⟨ds, does, gated, inOrder⟩
  | installed started resolving reported executing =>
    obtain ⟨ds, does, gated, inOrder, _⟩ :=
      gated_executing started resolving reported executing (.nothing rfl rfl) leads
    exact ⟨ds, does, gated, inOrder⟩

/-- **Every run is gated.**  Whatever the feed, the download, the inspector and the runner answer,
the acts of a run are those of deeds that are carried out in order, each of them at most once, and
nothing is launched but what passed the gate.  The journal of the run tells the same actions. -/
theorem Updater.run_gated (u : Updater σ) (w : World σ) :
    ∃ ds : List Deed, (∀ d ∈ ds, d.CarriedOut u)
      ∧ acts (u.history w) = ds.flatMap (·.visits)
      ∧ (∃ notes, (u.run.outcome w).2.journal = w.journal ++ notes
          ∧ actionsOf notes = ds.map (·.action))
      ∧ InOrder (ds.map (·.action)) ∧ (ds.map (·.action)).Nodup
      ∧ Gated u (u.history w) ds := by
  obtain ⟨ms, traced, running⟩ := u.run_traced w
  obtain ⟨s, leads, _⟩ := traced.leads
  obtain ⟨ds, does, gated, inOrder⟩ := running.gated leads
  rw [traced.history]
  exact ⟨ds, does.carriedOut, does.acts, ⟨notesOf ms, traced.journal, does.journal⟩, inOrder,
    inOrder.nodup, gated⟩

end SignedUpgrade
