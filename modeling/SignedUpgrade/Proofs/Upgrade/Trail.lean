import SignedUpgrade.Proofs.Upgrade.Failing
import SignedUpgrade.Proofs.Upgrade.Wording

/-!
# The audit trail of a call

The events of a call tell how it ended.  An error is reported once, at the very end, by calls that
fail and by no others; that a version is installed is reported at the very end of the runs that
install one, and nothing else reads like it.

* `eventsOf` — the events that the witness took down;
* `Calm` — a trace in which neither of the two reports is made;
* `Stepping.trail` — the trail of an installation, which is calm up to its last report;
* `Resolving.trail_failed`, `Running.trail_failed` — the trail of a call that fails.
-/

namespace SignedUpgrade

open Net

variable {σ : Type}

/-! ## Events -/

/-- The event that a visit of the witness is about. -/
def Visit.event? (v : Visit) : Option Event :=
  match v.exchange with
  | .event e => some e
  | _ => none

/-- The events that the witness took down. -/
def eventsOf (vs : List Visit) : List Event :=
  vs.filterMap Visit.event?

@[simp] lemma eventsOf_nil : eventsOf [] = [] := rfl

@[simp] lemma eventsOf_append (vs us : List Visit) :
    eventsOf (vs ++ us) = eventsOf vs ++ eventsOf us := by
  simp [eventsOf]

@[simp] lemma eventsOf_cons (v : Visit) (vs : List Visit) :
    eventsOf (v :: vs) = v.event?.toList ++ eventsOf vs := by
  cases event : v.event? <;> simp [eventsOf, event]

@[simp] lemma event?_witnessed (event : Event) (t : FileTree) :
    (witnessed event t).event? = some event := rfl

@[simp] lemma event?_command (r : Resolver σ) (program : Path) (site : Site σ) :
    (r.commandVisit program site).event? = none := rfl

@[simp] lemma event?_inspection (e : Executor σ) (path : Path) (site : Site σ) :
    (inspectionVisit e path site).event? = none := rfl

@[simp] lemma event?_launch (e : Executor σ) (program : Path) (tail : String) (site : Site σ) :
    (launchVisit e program tail site).event? = none := rfl

lemma eventsOf_offered {event : Event} {r : Reporter σ} {vs : List Visit}
    (h : Offered event r vs) : eventsOf vs = [] := by
  refine List.filterMap_eq_nil_iff.2 fun v mem => ?_
  obtain ⟨name, answer, offer⟩ := h.offers v mem
  simp [Visit.event?, offer]

lemma eventsOf_fetched {n : Network σ} {accept url : String} {answer : Except String Response}
    {vs : List Visit} (h : Fetched n accept url answer vs) : eventsOf vs = [] := by
  refine List.filterMap_eq_nil_iff.2 fun v mem => ?_
  obtain ⟨request, answer, ask⟩ := h.requests v mem
  simp [Visit.event?, ask]

/-- The witness takes a report down as one event. -/
lemma Reported.events {r : Reporter σ} {severity : Severity} {message : String} {ms : List Mark}
    (h : Reported r severity message ms) :
    ∃ time, eventsOf (visitsOf ms) = [{ time, severity, message }] := by
  obtain ⟨time, vs, t, offered, rfl⟩ := h
  exact ⟨time, by simp [eventsOf_offered offered]⟩

/-! ## Calm traces -/

/-- An event that reports neither an error nor that a version is installed. -/
def Event.IsCalm (e : Event) : Prop :=
  e.severity ≠ .error ∧ ¬ IsInstalledText e.message

/-- A trace in which neither an error is reported nor that a version is installed. -/
def Calm (ms : List Mark) : Prop :=
  ∀ e ∈ eventsOf (visitsOf ms), e.IsCalm

namespace Calm

variable {ms ns : List Mark}

lemma silent (h : eventsOf (visitsOf ms) = []) : Calm ms := by
  simp [Calm, h]

lemma append (h : Calm ms) (h' : Calm ns) : Calm (ms ++ ns) := by
  intro e mem
  rw [visitsOf_append, eventsOf_append, List.mem_append] at mem
  rcases mem with mem | mem
  · exact h e mem
  · exact h' e mem

/-- A mark that is no visit is no event. -/
lemma cons {m : Mark} (visit : m.visit? = none) (h : Calm ms) : Calm (m :: ms) := by
  intro e mem
  rw [visitsOf_cons, visit] at mem
  exact h e mem

lemma reported {r : Reporter σ} {severity : Severity} {message : String}
    (h : Reported r severity message ms) (severe : severity ≠ .error)
    (other : ¬ IsInstalledText message) : Calm ms := by
  obtain ⟨time, events⟩ := h.events
  intro e mem
  rw [events, List.mem_singleton] at mem
  rw [mem]
  exact ⟨severe, other⟩

end Calm

/-! ## The trails of the steps

All reports on the way are calm; what is left are the last report of an installation and the report
of a failure.
-/

variable {u : Updater σ} {e : Executor σ} {ms : List Mark}

lemma VersionTold.calm {r : Resolver σ} {v : Version} (h : VersionTold r v ms) : Calm ms := by
  have asked : ∀ t site, Calm (r.versionMarks t site) := by
    intro t site
    refine .silent ?_
    simp [Resolver.versionMarks]
  cases h with
  | told site => exact asked _ site
  | untold site _ reported =>
    exact (asked _ site).append (.reported reported (by decide) (not_installed_untold _))

lemma ReleaseTold.calm {r : Resolver σ} {answer : Except Failure Release}
    (h : ReleaseTold r answer ms) : Calm ms := by
  cases h with
  | answered fetched =>
    refine .cons rfl (.silent ?_)
    simp [eventsOf_fetched fetched]

lemma VersionsTold.calm {r : Resolver σ} {answer : Except Failure (Version × Release)}
    (h : VersionsTold r answer ms) : Calm ms := by
  cases h with
  | failed version answer => exact version.calm.append answer.calm
  | tagged version answer => exact version.calm.append answer.calm
  | untagged version answer reported =>
    exact version.calm.append
      (answer.calm.append (.reported reported (by decide) (not_installed_untagged _)))

lemma Resolving.calm {decision : Decision} (h : Resolving u (.ok decision) ms) : Calm ms := by
  cases h with
  | decided versions => exact .cons rfl (versions.calm.append (.silent rfl))

lemma Downloading.calm {n : Network σ} {asset : Asset} {directory : Path}
    {r : Except Failure Downloaded} (h : Downloading n asset directory r ms) : Calm ms := by
  cases h with
  | unsafeName => exact .silent rfl
  | unanswered _ fetched =>
    refine .cons rfl (.silent ?_)
    simp [eventsOf_fetched fetched]
  | unsaved _ fetched =>
    refine .cons rfl (.silent ?_)
    simp [eventsOf_fetched fetched]
  | saved _ fetched =>
    refine .cons rfl (.silent ?_)
    simp [eventsOf_fetched fetched]

lemma Fetching.calm {directory : Path} {version : Version} {asset : Asset}
    {r : Except Failure Downloaded} (h : Fetching e directory version asset r ms) : Calm ms := by
  cases h with
  | failed reported downloading =>
    exact (Calm.reported reported (by decide) (not_installed_fetching _ _)).append downloading.calm
  | fetched reported downloading told =>
    exact (Calm.reported reported (by decide) (not_installed_fetching _ _)).append
      (downloading.calm.append (.reported told (by decide) (not_installed_fetched _ _)))

lemma Verifying.calm {path : Path} {r : Except Failure Unit} (h : Verifying e path r ms) :
    Calm ms := by
  have inspected : ∀ site,
      Calm [.note (.action (.inspection path)), .visit (inspectionVisit e path site)] := by
    intro site
    refine .silent ?_
    simp
  cases h with
  | refused site => exact inspected site
  | accepted site _ told =>
    exact (inspected site).append (.reported told (by decide) not_installed_accepted)

lemma Uninstalling.calm {r : Except Failure Unit} (h : Uninstalling e r ms) : Calm ms := by
  have started : ∀ site, Calm (uninstallerMarks e site) := by
    intro site
    refine .silent ?_
    simp [uninstallerMarks, uninstallerVisit]
  have calm : ∀ {start}, Reported e.reporter .information Executor.uninstallingText start →
      Calm start :=
    fun reported => .reported reported (by decide) not_installed_uninstalling
  cases h with
  | failed site reported => exact (calm reported).append (started site)
  | removed site reported => exact (calm reported).append ((started site).append (.silent rfl))
  | gone site reported => exact (calm reported).append ((started site).append (.silent rfl))
  | kept site reported => exact (calm reported).append ((started site).append (.silent rfl))

lemma OldUninstalled.calm {r : Except Failure Unit} (h : OldUninstalled e r ms) : Calm ms := by
  cases h with
  | present _ uninstalling => exact .cons rfl uninstalling.calm
  | absent _ reported =>
    exact .cons rfl (.reported reported (by decide) (not_installed_nothingInstalled e))

lemma Installing.calm {path : Path} {version : Version} {asset : Asset} {r : Except Failure Unit}
    (h : Installing e path version asset r ms) : Calm ms := by
  cases h with
  | ended site reported =>
    refine (Calm.reported reported (by decide) (not_installed_installing _)).append (.silent ?_)
    simp [installerVisit]

lemma Stepping.calm {directory : Path} {version : Version} {asset : Asset} {f : StepFailure}
    (h : Stepping e directory version asset (.error f) ms) : Calm ms := by
  cases h with
  | unfetched fetching => exact fetching.calm
  | unverified fetching verifying => exact fetching.calm.append verifying.calm
  | notUninstalled fetching verifying uninstalled =>
    exact fetching.calm.append (verifying.calm.append uninstalled.calm)
  | notInstalled fetching verifying uninstalled installing =>
    exact fetching.calm.append
      (verifying.calm.append (uninstalled.calm.append installing.calm))

/-- An installation that succeeds ends with the report of it. -/
lemma Stepping.trail {directory : Path} {version : Version} {asset : Asset}
    (h : Stepping e directory version asset (.ok ()) ms) :
    ∃ ns told, ms = ns ++ told ∧ Calm ns
      ∧ Reported e.reporter .information (Executor.installedText version) told := by
  cases h with
  | @installed _ ms ns os ps told fetching verifying uninstalled installing reported =>
    refine ⟨ms ++ (ns ++ (os ++ ps)), told, by simp, ?_, reported⟩
    exact fetching.calm.append
      (verifying.calm.append (uninstalled.calm.append installing.calm))

lemma Cleaned.calm {directory : Path} (h : Cleaned directory ms) :
    eventsOf (visitsOf ms) = [] := by
  rcases h with ⟨t, t', _, rfl⟩ | ⟨t, rfl⟩
  · rfl
  · rfl

lemma Executing.calm {version : Version} {asset : Asset} {f : StepFailure}
    (h : Executing e version asset (.error f) ms) : Calm ms := by
  cases h with
  | unstaged => exact .silent rfl
  | staged _ stepping cleaned =>
    exact .cons rfl (.cons rfl (stepping.calm.append (.silent cleaned.calm)))

/-! ## The trails of calls -/

lemma Reported.states {r : Reporter σ} {severity : Severity} {message : String}
    (h : Reported r severity message ms) : statesOf ms = [] := by
  obtain ⟨time, vs, t, offered, rfl⟩ := h
  rw [statesOf_cons, statesOf_map_visit]
  rfl

/-- The state after a call is the one that was entered last. -/
lemma getLastD_statesOf {ns told : List Mark} {state earlier : UpdateState}
    (none : statesOf told = []) :
    (statesOf (ns ++ .enter state :: told)).getLastD earlier = state := by
  simp [none, Mark.state?]

/-- The trail of a call that fails: an error is reported once, as the last thing of all, with the
step that failed and what went wrong in it. -/
def FailureTrail (u : Updater σ) (f : Failure) (ms : List Mark) : Prop :=
  ∃ state ds ns told, ms = ns ++ told ∧ Calm ns ∧ Aborting u ⟨state, f⟩ told ∧ Does u ms ds
    ∧ FailsIn u ⟨state, f⟩ ds

/-- A decision that fails to be made is reported as the last thing of all. -/
lemma Resolving.aborts {f : Failure} (h : Resolving u (.error f) ms) :
    ∃ state ds ns told, ms = ns ++ told ∧ Calm ns ∧ Aborting u ⟨state, f⟩ told ∧ Does u ms ds
      ∧ Prepared u (.error ⟨state, f⟩) ds := by
  cases h with
  | @noRelease _ ms told versions aborting =>
    obtain ⟨ds, does, prepared⟩ := versions.prepared_failed
    refine ⟨.start, ds, .enter .start :: ms, told, by simp, .cons rfl versions.calm, aborting,
      .cons rfl rfl ?_, prepared⟩
    simpa using does.append aborting.does
  | @undecided _ _ _ ms told versions decision aborting =>
    obtain ⟨ds, does, prepared, _⟩ := versions.prepared
    refine ⟨.versionChecked, ds, .enter .start :: (ms ++ [.enter .versionChecked]), told, by simp,
      .cons rfl (versions.calm.append (.silent rfl)), aborting, .cons rfl rfl ?_,
      prepared f decision⟩
    simpa using does.append (aborting.does.cons rfl rfl)

lemma Resolving.trail_failed {f : Failure} (h : Resolving u (.error f) ms) :
    FailureTrail u f ms := by
  obtain ⟨state, ds, ns, told, parts, calm, aborting, does, prepared⟩ := h.aborts
  exact ⟨state, ds, ns, told, parts, calm, aborting, does, .undecided prepared⟩

lemma Running.trail_failed {f : Failure} (h : Running u (.error f) ms) {s s' : Scene}
    (leads : Leads s ms s') : FailureTrail u f ms := by
  cases h with
  | @failed _ start ms started resolving =>
    obtain ⟨state, ds, ns, told, rfl, calm, aborting, does, fails⟩ := resolving.trail_failed
    have started' : Calm start := .reported started (by decide) not_installed_starting
    exact ⟨state, ds, start ++ ns, told, by simp, started'.append calm, aborting,
      (Does.reported started).append does, fails⟩
  | @notInstalled current version installer f start ms told ns ended started resolving reported
      executing aborting =>
    obtain ⟨_, _, rest⟩ := leads.split
    obtain ⟨_, _, rest⟩ := rest.split
    obtain ⟨_, _, rest⟩ := rest.split
    obtain ⟨_, _, rest⟩ := rest.uncons
    obtain ⟨_, steps, _⟩ := rest.split
    obtain ⟨es, executed, fails⟩ := executing.fails steps
    obtain ⟨result, ds, same, does, prepared⟩ := resolving.does
    cases result with
    | error f => cases same
    | ok decision =>
      cases same
      refine ⟨f.state, ds ++ es, start ++ (ms ++ (told ++ .enter .downloading :: ns)), ended,
        by simp, ?_, aborting, ?_, .notInstalled prepared fails⟩
      · exact (Calm.reported started (by decide) not_installed_starting).append
          (resolving.calm.append ((Calm.reported reported (by decide)
            (not_installed_upgrading _ _)).append (executing.calm.cons rfl)))
      · have installed : Does u (.enter .downloading :: (ns ++ ended)) es :=
          .cons rfl rfl (by simpa using executed.append aborting.does)
        exact (Does.reported started).append
          (does.append ((Does.reported reported).append installed))

end SignedUpgrade
