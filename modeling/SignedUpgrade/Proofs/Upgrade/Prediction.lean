import SignedUpgrade.Proofs.Upgrade.Ascent
import SignedUpgrade.Proofs.Upgrade.Looking
import SignedUpgrade.Proofs.Upgrade.Untouched

/-!
# A check predicts a run

A check and a run begin alike: both find out the two versions and decide.  So as long as the version
command and the feed answer alike, a check tells what a run does, in whatever worlds the two are
called and whatever the other parties do there.

* `Updater.runWith` — a run with anything in the place of the executor;
* `Updater.HandsOver` — a run hands a version and an installer to its executor, and nothing else;
* `Updater.Stages` — what comes of making a staging directory, in a run that gets there;
* `AbortedWith` — visits whose last event is the report of a failure;
* `Updater.Predicts`, `Updater.check_predicts` — **a check predicts a run**.

A run may find an upgrade and then fail to make the staging directory for it.  No check can tell: of
all failures without a staging directory, this is the one that a check does not predict.
-/

namespace SignedUpgrade

open Net

variable {σ : Type}

/-! ## Handing over -/

/-- Steps that cannot fail, and then others. -/
lemma Attempt.run_lift_bind {α β : Type} (work : Work σ α) (f : α → Attempt σ β) (w : World σ) :
    ((liftM work : Attempt σ α) >>= f).run w = (f (work w).1).run (work w).2 := rfl

namespace Updater

/-- What a run makes of the result of its executor. -/
def conclude (u : Updater σ) (current version : Version) :
    Except StepFailure Unit → Attempt σ Outcome
  | .error f => u.abort f
  | .ok () => do
    Attempt.enter .done
    return .installed current version

/-- Does what was decided, with anything in the place of the executor. -/
def carryOutWith (u : Updater σ)
    (execute : Version → Asset → Work σ (Except StepFailure Unit)) : Decision → Attempt σ Outcome
  | .noActionNeeded current latest => u.carryOut (.noActionNeeded current latest)
  | .upgradeTo current version installer => do
    u.reporter.info (upgradingText current version)
    Attempt.enter .downloading
    u.conclude current version (← Attempt.ofWork (execute version installer))

/-- A run with anything in the place of the executor. -/
def runWith (u : Updater σ) (execute : Version → Asset → Work σ (Except StepFailure Unit)) :
    Attempt σ Outcome := do
  u.reporter.info startingText
  u.carryOutWith execute (← u.resolve)

/-- A run is a run with its executor. -/
lemma runWith_execute (u : Updater σ) : u.runWith u.executor.execute = u.run := by
  have same : u.carryOutWith u.executor.execute = u.carryOut := by
    funext decision
    cases decision with
    | noActionNeeded => rfl
    | upgradeTo current version installer =>
      rw [carryOutWith, carryOut]
      refine congrArg _ (funext fun _ => congrArg _ (funext fun _ => congrArg _ (funext fun r => ?_)))
      cases r <;> rfl
  rw [runWith, same]
  rfl

/-- A run hands a version and an installer over in a world.  Whatever is there in the place of the
executor, it gets these two, in this world, and the run only concludes from its result. -/
def HandsOverIn (u : Updater σ) (w : World σ) (current version : Version) (installer : Asset)
    (w₁ : World σ) : Prop :=
  ∀ execute, (u.runWith execute).outcome w
    = (u.conclude current version (execute version installer w₁).1).outcome
        (execute version installer w₁).2

/-- A run hands a version and an installer over. -/
def HandsOver (u : Updater σ) (w : World σ) (current version : Version) (installer : Asset) :
    Prop :=
  ∃ w₁, u.HandsOverIn w current version installer w₁

/-- A run gets to the point of making a staging directory, which is where something is handed over,
and this is what comes of it. -/
def Stages (u : Updater σ) (w : World σ) (made : Except Failure Path) : Prop :=
  ∃ current version installer w₁, u.HandsOverIn w current version installer w₁
    ∧ ((Staging.create u.executor.stagingParent "upgrade").outcome w₁).1 = made

/-- The world in which a run finds out the versions. -/
def started (u : Updater σ) (w : World σ) : World σ :=
  (u.reporter.info startingText w).2

variable (u : Updater σ) {w : World σ} {current version : Version} {installer : Asset}

lemma runWith_outcome (execute : Version → Asset → Work σ (Except StepFailure Unit)) :
    (u.runWith execute).outcome w = match u.resolve.run (u.started w) with
      | (.ok decision, w') => (u.carryOutWith execute decision).run w'
      | (.error f, w') => (.error f, w') := by
  have begins : (u.runWith execute).outcome w
      = (u.resolve >>= u.carryOutWith execute).run (u.started w) :=
    Attempt.run_lift_bind _ _ _
  rw [begins, Attempt.run_bind]
  rcases u.resolve.run (u.started w) with ⟨_ | _, _⟩ <;> rfl

lemma conclude_ok : ((u.conclude current version (.ok ())).outcome w).1
    = .ok (.installed current version) := rfl

lemma conclude_error (f : StepFailure) :
    ((u.conclude current version (.error f)).outcome w).1 = .error f.failure := rfl

/-- The world in which a run hands over what it has decided on in another one. -/
def handing (u : Updater σ) (current version : Version) (w : World σ) : World σ :=
  ((do u.reporter.info (upgradingText current version); Work.enter .downloading) w).2

/-- Behind the decision to upgrade, whatever executes gets its version and its installer. -/
lemma carryOutWith_upgradeTo (execute : Version → Asset → Work σ (Except StepFailure Unit))
    (current version : Version) (installer : Asset) (w : World σ) :
    let executed := execute version installer (u.handing current version w)
    (u.carryOutWith execute (.upgradeTo current version installer)).run w
      = (u.conclude current version executed.1).outcome executed.2 :=
  rfl

variable {u} in
lemma handsOverIn_handing
    (decided : (u.resolve.run (u.started w)).1 = .ok (.upgradeTo current version installer)) :
    u.HandsOverIn w current version installer
      (u.handing current version (u.resolve.run (u.started w)).2) := fun execute => by
  rw [runWith_outcome]
  generalize u.resolve.run (u.started w) = resolved at decided ⊢
  obtain ⟨_, w'⟩ := resolved
  subst decided
  exact u.carryOutWith_upgradeTo execute current version installer w'

/-- A run hands over what was decided on, and nothing else. -/
lemma handsOver_iff : u.HandsOver w current version installer
    ↔ (u.resolve.run (u.started w)).1 = .ok (.upgradeTo current version installer) := by
  unfold HandsOver HandsOverIn
  simp only [runWith_outcome]
  generalize u.resolve.run (u.started w) = resolved
  obtain ⟨f | ⟨current', latest⟩ | ⟨current', version', installer'⟩, w'⟩ := resolved
  · refine ⟨fun ⟨w₁, handed⟩ => ?_, fun decided => by cases decided⟩
    cases congrArg Prod.fst (handed fun _ _ w => (.ok (), w))
  · refine ⟨fun ⟨w₁, handed⟩ => ?_, fun decided => by cases decided⟩
    cases congrArg Prod.fst (handed fun _ _ w => (.ok (), w))
  · simp only [carryOutWith_upgradeTo]
    constructor
    · rintro ⟨w₁, handed⟩
      -- an executor that accepts nothing but what was decided on accepts what is handed over
      have ended := congrArg Prod.fst (handed fun v a w =>
        (if v = version ∧ a = installer then .ok () else .error ⟨.start, .invalidAssetName ""⟩, w))
      simp only [and_self, if_true, conclude_ok] at ended
      by_cases same : version' = version ∧ installer' = installer
      · obtain ⟨rfl, rfl⟩ := same
        simp only [and_self, if_true, conclude_ok] at ended
        cases ended
        rfl
      · simp only [same, if_false, conclude_error] at ended
        cases ended
    · intro decided
      cases decided
      exact ⟨_, fun _ => rfl⟩

/-! ## Making a staging directory -/

variable {u}

/-- There is only one world in which a run hands something over. -/
lemma HandsOverIn.unique {current' version' : Version} {installer' : Asset} {w₁ w₂ : World σ}
    (h : u.HandsOverIn w current version installer w₁)
    (h' : u.HandsOverIn w current' version' installer' w₂) : w₁ = w₂ := by
  classical
  by_contra apart
  -- an executor that accepts nothing but the first world accepts what is handed over in the second
  have ended := congrArg Prod.fst (h' fun _ _ w =>
    (if w = w₁ then .ok () else .error ⟨.start, .invalidAssetName ""⟩, w))
  rw [h] at ended
  simp only [if_true, if_neg (Ne.symm apart), conclude_ok, conclude_error] at ended
  cases ended

/-- What comes of making a staging directory is determined. -/
lemma Stages.unique {made made' : Except Failure Path} (h : u.Stages w made)
    (h' : u.Stages w made') : made = made' := by
  obtain ⟨_, _, _, w₁, handed, rfl⟩ := h
  obtain ⟨_, _, _, w₂, handed', rfl⟩ := h'
  rw [handed.unique handed']

lemma Stages.handsOver {made : Except Failure Path} (h : u.Stages w made) :
    ∃ current version installer, u.HandsOver w current version installer := by
  obtain ⟨current, version, installer, w₁, handed, _⟩ := h
  exact ⟨current, version, installer, w₁, handed⟩

lemma HandsOver.stages (h : u.HandsOver w current version installer) :
    ∃ made, u.Stages w made := by
  obtain ⟨w₁, handed⟩ := h
  exact ⟨_, current, version, installer, w₁, handed, rfl⟩

/-- A run that cannot make its staging directory fails for this reason. -/
lemma Stages.run_eq {f : Failure} (h : u.Stages w (.error f)) : (u.run.outcome w).1 = .error f := by
  obtain ⟨current, version, installer, w₁, handed, failed⟩ := h
  have executed : (u.executor.execute version installer w₁).1 = .error ⟨.downloading, f⟩ := by
    rw [Executor.execute, bind_run]
    generalize (Staging.create u.executor.stagingParent "upgrade").outcome w₁ = made at failed
    obtain ⟨_, w₂⟩ := made
    subst failed
    rfl
  rw [← u.runWith_execute, handed, executed]
  rfl

/-- What stands in the way of a staging directory is a fault of the files. -/
lemma Stages.exists_fault {f : Failure} (h : u.Stages w (.error f)) : ∃ fault, f = .io fault := by
  obtain ⟨_, _, _, w₁, _, failed⟩ := h
  rw [Staging.create_outcome] at failed
  split at failed
  · exact ⟨_, (Except.error.inj failed).symm⟩
  · cases failed

end Updater

/-! ## The parts of a run -/

/-- The trace of what follows in a run from an attempt to decide. -/
inductive Following (u : Updater σ) :
    Except Failure Decision → Except Failure Outcome → List Mark → Prop where
  | failed (f : Failure) : Following u (.error f) (.error f) []
  | carriedOut {decision : Decision} {answer : Except Failure Outcome} {ns : List Mark}
      (carrying : CarryingOut u decision answer ns) : Following u (.ok decision) answer ns

/-- What is known of the marks of a run: they lead from one world to another, and fall into the
report at the beginning, the attempt to decide and what follows from it. -/
structure Parted (u : Updater σ) (w : World σ) (start ms ns : List Mark) : Prop where
  started : Reported u.reporter .information Updater.startingText start
  resolving : Resolving u (u.resolve.run (u.started w)).1 ms
  following : Following u (u.resolve.run (u.started w)).1 (u.run.outcome w).1 ns
  history : u.history w = visitsOf (start ++ (ms ++ ns))
  journal : (u.run.outcome w).2.journal = w.journal ++ notesOf (start ++ (ms ++ ns))
  names : (u.run.outcome w).2.namesUsed = w.namesUsed + (namesOf (start ++ (ms ++ ns))).length
  leads : ∃ s s', Leads s (start ++ (ms ++ ns)) s'

namespace Updater

/-- Every run falls into these parts. -/
lemma run_parted (u : Updater σ) (w : World σ) : ∃ start ms ns, Parted u w start ms ns := by
  obtain ⟨start, first, started⟩ :=
    u.reporter.report_runs .information startingText w.watched
  have world : u.started w
      = (u.reporter.watched.report .information startingText w.watched).2.bare :=
    congrArg Prod.snd (u.reporter.report_mirrors .information startingText w.watched)
  generalize seen : (u.reporter.watched.report .information startingText w.watched).2 = v
    at first world
  obtain ⟨ms, second, resolving⟩ := u.resolve_runs v
  have resolved : u.resolve.run (u.started w)
      = ((u.watched.resolve.run v).1, (u.watched.resolve.run v).2.bare) := by
    rw [world]
    exact (Likeness.bare_updaters u).resolve.mirrors v
  have run : u.watched.run.outcome w.watched
      = (u.watched.resolve >>= u.watched.carryOut).run v := by
    rw [← seen]
    exact Attempt.run_lift_bind _ _ _
  rw [Attempt.run_bind] at run
  obtain ⟨ns, third, following⟩ : ∃ ns,
      Leads (u.watched.resolve.run v).2.scene ns (u.watched.run.outcome w.watched).2.scene
        ∧ Following u (u.watched.resolve.run v).1 (u.watched.run.outcome w.watched).1 ns := by
    rw [run]
    rcases u.watched.resolve.run v with ⟨f | decision, v'⟩
    · exact ⟨[], .nil _, .failed f⟩
    · obtain ⟨ns, third, carrying⟩ := u.carryOut_runs decision v'
      exact ⟨ns, third, .carriedOut carrying⟩
  have leads := first.append (second.append third)
  obtain ⟨history, journal, names⟩ := leads.told
  refine ⟨start, ms, ns, started, ?_, ?_, history, ?_, ?_, _, _, leads⟩
  · rw [resolved]
    exact resolving
  · rw [resolved, u.run_eq_watched]
    exact following
  · rw [u.run_eq_watched, journal]
  · rw [u.run_eq_watched, names]

end Updater

namespace Parted

variable {u : Updater σ} {w : World σ} {start ms ns : List Mark}

lemma namesUsed_eq (h : Parted u w start ms ns) :
    (u.run.outcome w).2.namesUsed = w.namesUsed + (namesOf ns).length := by
  have looking := (h.started.looking u.reporter_sinks).append h.resolving.looking
  rw [h.names, ← List.append_assoc, namesOf_append, looking.names_eq, List.nil_append]

/-- Nothing is to be done if that is what was decided. -/
lemma upToDate_iff (h : Parted u w start ms ns) (current latest : Version) :
    (u.resolve.run (u.started w)).1 = .ok (.noActionNeeded current latest)
      ↔ (u.run.outcome w).1 = .ok (.upToDate current latest) := by
  have following := h.following
  generalize (u.resolve.run (u.started w)).1 = decided at following
  generalize (u.run.outcome w).1 = answer at following
  cases following with
  | failed f => simp
  | carriedOut carrying => cases carrying <;> simp

/-- A run that fails to decide fails, and draws no name for a staging directory. -/
lemma failed (h : Parted u w start ms ns) {f : Failure}
    (undecided : (u.resolve.run (u.started w)).1 = .error f) :
    (u.run.outcome w).1 = .error f ∧ (u.run.outcome w).2.namesUsed = w.namesUsed := by
  have following := h.following
  rw [h.namesUsed_eq]
  rw [undecided] at following
  generalize (u.run.outcome w).1 = answer at following
  cases following with
  | failed f => exact ⟨rfl, rfl⟩

/-- A run that fails without getting to make a staging directory has failed to decide. -/
lemma failed_iff (h : Parted u w start ms ns) (f : Failure) :
    (u.resolve.run (u.started w)).1 = .error f
      ↔ (u.run.outcome w).1 = .error f ∧ (∀ directory, ¬ u.Stages w (.ok directory))
        ∧ ∀ f', ¬ u.Stages w (.error f') := by
  have decides : ∀ made, u.Stages w made → ∃ current version installer,
      (u.resolve.run (u.started w)).1 = .ok (.upgradeTo current version installer) := by
    intro made stages
    obtain ⟨current, version, installer, handed⟩ := stages.handsOver
    exact ⟨current, version, installer, u.handsOver_iff.1 handed⟩
  constructor
  · intro undecided
    have stageless : ∀ made, ¬ u.Stages w made := by
      intro made stages
      obtain ⟨_, _, _, decided⟩ := decides made stages
      cases undecided.symm.trans decided
    exact ⟨(h.failed undecided).1, fun _ => stageless _, fun _ => stageless _⟩
  · rintro ⟨failed, uncreated, creatable⟩
    cases decided : (u.resolve.run (u.started w)).1 with
    | error f' => exact congrArg _ (Except.error.inj ((h.failed decided).1.symm.trans failed))
    | ok decision =>
      cases decision with
      | noActionNeeded current latest =>
        rw [(h.upToDate_iff current latest).1 decided] at failed
        cases failed
      | upgradeTo current version installer =>
        obtain ⟨made, stages⟩ := (u.handsOver_iff.2 decided).stages
        cases made with
        | error f' => exact absurd stages (creatable f')
        | ok directory => exact absurd stages (uncreated directory)

end Parted

/-! ## Decisions that fail -/

/-- The last event of visits is the report of a failure, and no error is reported before it. -/
def AbortedWith (vs : List Visit) (f : StepFailure) : Prop :=
  ∃ earlier time, eventsOf vs
      = earlier ++ [{ time, severity := .error, message := Updater.abortMessage f }]
    ∧ ∀ event ∈ earlier, event.severity ≠ .error

variable {u : Updater σ}

lemma Aborting.abortedWith {f : StepFailure} {ms told : List Mark} (h : Aborting u f told)
    (calm : Calm ms) : AbortedWith (visitsOf (ms ++ told)) f := by
  obtain ⟨told, reported, rfl⟩ := h
  obtain ⟨time, events⟩ := reported.events
  refine ⟨eventsOf (visitsOf ms), time, ?_, fun event mem => (calm event mem).1⟩
  simp [events, Mark.visit?]

/-- What a decision was made on, and how the failure to make it is reported. -/
lemma Resolving.decided_on {answer : Except Failure Decision} {ms : List Mark}
    (h : Resolving u answer ms) :
    ∃ result ds, answer = result.mapError (·.failure) ∧ Does u ms ds ∧ Prepared u result ds
      ∧ ∀ f, result = .error f → ∀ start, Calm start → AbortedWith (visitsOf (start ++ ms)) f := by
  cases answer with
  | error f =>
    obtain ⟨state, ds, ns, told, rfl, calm, aborting, does, prepared⟩ := h.aborts
    refine ⟨_, ds, rfl, does, prepared, ?_⟩
    rintro _ ⟨⟩ start before
    rw [← List.append_assoc]
    exact aborting.abortedWith (before.append calm)
  | ok decision =>
    obtain ⟨result, ds, same, does, prepared⟩ := h.does
    refine ⟨result, ds, same, does, prepared, ?_⟩
    rintro f rfl
    cases same

namespace Updater

lemma check_decided_on (u : Updater σ) (w : World σ) :
    ∃ result ds, (u.check.outcome w).1 = result.mapError (·.failure) ∧ Prepared u result ds
      ∧ acts (u.checkHistory w) = ds.flatMap (·.visits)
      ∧ ∀ f, result = .error f → AbortedWith (u.checkHistory w) f := by
  obtain ⟨ms, traced, checking⟩ := u.check_traced w
  rw [traced.history]
  generalize (u.check.outcome w).1 = answer at checking
  cases checking with
  | failed resolving =>
    obtain ⟨result, ds, same, does, prepared, aborted⟩ := resolving.decided_on
    exact ⟨result, ds, same, prepared, does.acts, fun f failed =>
      aborted f failed [] (.silent rfl)⟩
  | decided resolving reported =>
    obtain ⟨result, ds, same, does, prepared⟩ := resolving.does
    refine ⟨result, ds, same, prepared, ?_, ?_⟩
    · simpa using (does.append (.reported reported)).acts
    · rintro f rfl
      cases same

lemma run_decided_on (u : Updater σ) (w : World σ) :
    ∃ result ds rest, (u.resolve.run (u.started w)).1 = result.mapError (·.failure)
      ∧ Prepared u result ds ∧ acts (u.history w) = ds.flatMap (·.visits) ++ rest
      ∧ ∀ f, result = .error f → AbortedWith (u.history w) f := by
  obtain ⟨start, ms, ns, parted⟩ := u.run_parted w
  obtain ⟨result, ds, same, does, prepared, aborted⟩ := parted.resolving.decided_on
  have following := parted.following
  rw [parted.history, same]
  rw [same] at following
  generalize (u.run.outcome w).1 = answer at following
  refine ⟨result, ds, acts (visitsOf ns), rfl, prepared, ?_, ?_⟩
  · simp [does.acts, (Does.reported (u := u) parted.started).acts]
  · rintro f rfl
    cases following with
    | failed =>
      simpa using aborted f rfl start (.reported parted.started (by decide) not_installed_starting)

end Updater

/-! ## Predictions -/

namespace Updater

/-- What a run does falls into deeds, and whatever it downloads it downloads from one address. -/
def DownloadsOnly (u : Updater σ) (w : World σ) (url : String) : Prop :=
  ∃ ds : List Deed, (∀ d ∈ ds, d.CarriedOut u) ∧ acts (u.history w) = ds.flatMap (·.visits)
    ∧ (∃ notes, (u.run.outcome w).2.journal = w.journal ++ notes
        ∧ actionsOf notes = ds.map (·.action))
    ∧ ∀ url', .downloadRequest url' ∈ ds.map (·.action) → url' = url

/-- A check in one world predicts a run in another one. -/
structure Predicts (u : Updater σ) (w w' : World σ) : Prop where
  /-- A check finds nothing to do if and only if a run does. -/
  upToDate : ∀ current latest, (u.check.outcome w).1 = .ok (.noActionNeeded current latest)
    ↔ (u.run.outcome w').1 = .ok (.upToDate current latest)
  /-- A check finds an upgrade if and only if a run hands this version and this installer over to
  its executor. -/
  upgrade : ∀ current version installer,
    (u.check.outcome w).1 = .ok (.upgradeTo current version installer)
      ↔ u.HandsOver w' current version installer
  /-- Then the run downloads nothing but this installer, and if it succeeds it has installed this
  version. -/
  handed : ∀ current version installer, u.HandsOver w' current version installer →
    u.DownloadsOnly w' installer.url
      ∧ ∀ outcome, (u.run.outcome w').1 = .ok outcome → outcome = .installed current version
  /-- A check fails if and only if a run fails in the same way without having created a staging
  directory, and it was not creating one that failed. -/
  failed : ∀ f, (u.check.outcome w).1 = .error f
    ↔ (u.run.outcome w').1 = .error f ∧ (∀ directory, ¬ u.Stages w' (.ok directory))
      ∧ ∀ f', ¬ u.Stages w' (.error f')
  /-- A run whose staging directory cannot be created fails for this reason, which is a fault of the
  files. -/
  unstaged : ∀ f, u.Stages w' (.error f) →
    (u.run.outcome w').1 = .error f ∧ ∃ fault, f = .io fault
  /-- Whether it can be created or not, the check finds the upgrade that it is for. -/
  late : ∀ made, u.Stages w' made → ∃ current version installer,
    (u.check.outcome w).1 = .ok (.upgradeTo current version installer)
  /-- If a check fails, a run does not even draw a name for a staging directory. -/
  undrawn : ∀ f, (u.check.outcome w).1 = .error f →
    (u.run.outcome w').2.namesUsed = w'.namesUsed
  /-- If a check fails, both report the same failure in the same state, as the last thing of all. -/
  aborted : ∀ f, (u.check.outcome w).1 = .error f → ∃ state,
    AbortedWith (u.checkHistory w) ⟨state, f⟩ ∧ AbortedWith (u.history w') ⟨state, f⟩

/-- What is handed over is all that is downloaded. -/
lemma HandsOver.downloadsOnly {w : World σ} {current version : Version} {installer : Asset}
    (h : u.HandsOver w current version installer) : u.DownloadsOnly w installer.url := by
  obtain ⟨start, ms, ns, parted⟩ := u.run_parted w
  have decided := u.handsOver_iff.1 h
  have following := parted.following
  have resolving := parted.resolving
  rw [decided] at following resolving
  obtain ⟨_, _, leads⟩ := parted.leads
  obtain ⟨ds, does, only⟩ : ∃ ds, Does u (start ++ (ms ++ ns)) ds
      ∧ ∀ url, .downloadRequest url ∈ ds.map (·.action) → url = installer.url := by
    generalize (u.run.outcome w).1 = answer at following
    cases following with
    | carriedOut carrying =>
      cases carrying with
      | notInstalled reported executing aborting =>
        obtain ⟨ds, does, _, _, only⟩ :=
          gated_executing parted.started resolving reported executing aborting.does leads
        exact ⟨ds, does, only⟩
      | installed reported executing =>
        obtain ⟨ds, does, _, _, only⟩ :=
          gated_executing parted.started resolving reported executing (.nothing rfl rfl) leads
        exact ⟨ds, does, only⟩
  refine ⟨ds, does.carriedOut, ?_, ⟨_, parted.journal, does.journal⟩, only⟩
  rw [parted.history]
  exact does.acts

/-- What is handed over is all that can be installed. -/
lemma HandsOver.installed {w : World σ} {current version : Version} {installer : Asset}
    (h : u.HandsOver w current version installer) {outcome : Outcome}
    (ended : (u.run.outcome w).1 = .ok outcome) : outcome = .installed current version := by
  obtain ⟨w₁, handed⟩ := h
  rw [← u.runWith_execute, handed] at ended
  generalize u.executor.execute version installer w₁ = executed at ended
  obtain ⟨f | _, w₂⟩ := executed
  · cases ended
  · cases ended
    rfl

/-- **A check only looks, and predicts a run.**  Whatever comes of a check, it asks for the two
versions, reports and does nothing else.  And as long as the version command and the feed answer the
two alike, it tells what a run does, except that a run may not be able to create its staging
directory. -/
theorem check_predicts (u : Updater σ) (w : World σ) :
    u.ReadOnly w ∧ ∀ w', AnsweredAlike (u.checkHistory w) (u.history w') → u.Predicts w w' := by
  refine ⟨u.check_readOnly w, fun w' alike => ?_⟩
  obtain ⟨result, ds, check, prepared, acts, aborted⟩ := u.check_decided_on w
  obtain ⟨result', ds', rest, resolve, prepared', acts', aborted'⟩ := u.run_decided_on w'
  obtain ⟨start, ms, ns, parted⟩ := u.run_parted w'
  -- both decide on the same answers, and so in the same way
  have answered : AnsweredAlike (ds.flatMap (·.visits) ++ []) (ds'.flatMap (·.visits) ++ rest) := by
    rw [List.append_nil, ← acts, ← acts']
    exact alike.acts
  obtain rfl := prepared.determined prepared' ⟨rfl, rfl, rfl, rfl⟩ answered
  have decided : (u.check.outcome w).1 = (u.resolve.run (u.started w')).1 := check.trans resolve.symm
  refine ⟨?_, ?_, ?_, ?_, ?_, ?_, ?_, ?_⟩
  · intro current latest
    rw [decided]
    exact parted.upToDate_iff current latest
  · intro current version installer
    rw [decided]
    exact u.handsOver_iff.symm
  · intro current version installer handed
    exact ⟨handed.downloadsOnly, fun outcome ended => handed.installed ended⟩
  · intro f
    rw [decided]
    exact parted.failed_iff f
  · exact fun f stages => ⟨stages.run_eq, stages.exists_fault⟩
  · intro made stages
    obtain ⟨current, version, installer, handed⟩ := stages.handsOver
    exact ⟨current, version, installer, decided.trans (u.handsOver_iff.1 handed)⟩
  · exact fun f undecided => (parted.failed (decided.symm.trans undecided)).2
  · intro f failed
    rw [check] at failed
    cases result with
    | ok decision => cases failed
    | error step =>
      cases failed
      exact ⟨step.state, aborted step rfl, aborted' step rfl⟩

/-- What is found without an installation is done where there is one. -/
theorem check_predicts_installation :
    AnsweredAlike ((offered ⟨1, 0, 0⟩).checkHistory (Occasion.offered ⟨1, 0, 0⟩).world)
        ((offered ⟨1, 0, 0⟩).history .installed)
      ∧ (offered ⟨1, 0, 0⟩).Predicts (Occasion.offered ⟨1, 0, 0⟩).world .installed
      ∧ ((offered ⟨1, 0, 0⟩).check.outcome (Occasion.offered ⟨1, 0, 0⟩).world).1
        = .ok (.upgradeTo ⟨1, 0, 0⟩ .second ⟨"setup.exe", "http://localhost/setup.exe"⟩)
      ∧ ((offered ⟨1, 0, 0⟩).run.outcome .installed).1 = .ok (.installed ⟨1, 0, 0⟩ .second) := by
  have found : AnsweredAlike
        ((offered ⟨1, 0, 0⟩).checkHistory (Occasion.offered ⟨1, 0, 0⟩).world)
        ((offered ⟨1, 0, 0⟩).history .installed)
      ∧ ((offered ⟨1, 0, 0⟩).check.outcome (Occasion.offered ⟨1, 0, 0⟩).world).1
        = .ok (.upgradeTo ⟨1, 0, 0⟩ .second ⟨"setup.exe", "http://localhost/setup.exe"⟩)
      ∧ ((offered ⟨1, 0, 0⟩).run.outcome .installed).1 = .ok (.installed ⟨1, 0, 0⟩ .second) := by
    decide +kernel
  exact ⟨found.1, (check_predicts (offered ⟨1, 0, 0⟩) _).2 _ found.1, found.2⟩

/-- An updater whose staging directories are to be made below a plain file. -/
def blocked : Updater Unit :=
  { offered ⟨1, 0, 0⟩ with
    executor := { (offered ⟨1, 0, 0⟩).executor with stagingParent := "/plain/staging" } }

/-- A world with this file. -/
def withPlainFile : World Unit where
  files := { entries := [(["plain"], .file [] false)] }
  outside := ()
  names _ := "1"

/-- A run may fail without having created a staging directory although a check finds an upgrade:
there may be a file in the way of the directory. -/
theorem check_not_predicts_blocked :
    ¬ ∀ (u : Updater Unit) (w w' : World Unit), AnsweredAlike (u.checkHistory w) (u.history w') →
      ∀ f, (u.check.outcome w).1 = .error f
        ↔ (u.run.outcome w').1 = .error f ∧ ∀ directory, ¬ u.Stages w' (.ok directory) := by
  intro predicts
  have asked : AnsweredAlike (blocked.checkHistory withPlainFile) (blocked.history withPlainFile)
      ∧ (blocked.check.outcome withPlainFile).1
        = .ok (.upgradeTo ⟨1, 0, 0⟩ .second ⟨"setup.exe", "http://localhost/setup.exe"⟩) := by
    decide +kernel
  have decided : (blocked.resolve.run (blocked.started withPlainFile)).1
      = .ok (.upgradeTo ⟨1, 0, 0⟩ .second ⟨"setup.exe", "http://localhost/setup.exe"⟩) := by
    decide +kernel
  have unstaged : blocked.Stages withPlainFile (.error (.io .notDirectory)) :=
    ⟨_, _, _, _, handsOverIn_handing decided, by decide +kernel⟩
  have uncreated : ∀ directory, ¬ blocked.Stages withPlainFile (.ok directory) := by
    intro directory created
    cases unstaged.unique created
  have failed := (predicts blocked withPlainFile withPlainFile asked.1 (.io .notDirectory)).2
    ⟨unstaged.run_eq, uncreated⟩
  rw [asked.2] at failed
  cases failed

end Updater

end SignedUpgrade
