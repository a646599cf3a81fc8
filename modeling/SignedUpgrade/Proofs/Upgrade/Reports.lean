import SignedUpgrade.Proofs.Upgrade.Deeds
import SignedUpgrade.Proofs.Upgrade.Trail
import Mathlib.Data.List.Basic

/-!
# The reports of a trace

A trace is made of reports and of other marks between them.  Where all reports go to one reporter,
what its sinks are offered can be read off the trace, and so can what the journal says about it.

* `offeredTo`, `keptBy` — the events that a sink was offered, and those that it accepted;
* `Reporting` — a trace whose reports all go to one reporter;
* `Reporting.offeredTo_eq` — **a sink is offered every event that is reported**, once for each
  place that it has in the reporter;
* `Reporting.journal` — **the journal tells the same events**;
* `Updater.check_reporting`, `Updater.run_reporting` — the calls of an updater leave such traces.
-/

namespace SignedUpgrade

open Net

variable {σ : Type}

/-! ## Offers -/

/-- The event that a visit offers to a sink. -/
def Visit.offered? (sink : String) (v : Visit) : Option Event :=
  match v.exchange with
  | .offer name event _ => if name = sink then some event else none
  | _ => none

/-- The event that a visit offers to a sink, if the sink accepts it. -/
def Visit.kept? (sink : String) (v : Visit) : Option Event :=
  match v.exchange with
  | .offer name event (.ok ()) => if name = sink then some event else none
  | _ => none

lemma Visit.kept?_eq_some_iff {sink : String} {v : Visit} {event : Event} :
    v.kept? sink = some event ↔ v.exchange = .offer sink event (.ok ()) := by
  unfold Visit.kept?
  rcases v.exchange with _ | _ | _ | _ | ⟨name, e, _ | _⟩ | _
  case offer.ok => simp [and_comm]
  all_goals simp

/-- The events that a sink was offered, in order. -/
def offeredTo (sink : String) (vs : List Visit) : List Event :=
  vs.filterMap (Visit.offered? sink)

/-- The events that a sink accepted, in order. -/
def keptBy (sink : String) (vs : List Visit) : List Event :=
  vs.filterMap (Visit.kept? sink)

/-- Whether a visit finds a sink that does not accept what it is offered. -/
def Visit.isRefusedBy (sink : String) (v : Visit) : Bool :=
  match v.exchange with
  | .offer name _ (.error _) => name = sink
  | _ => false

/-- A sink accepted every event that it was offered. -/
def Accepting (sink : String) (vs : List Visit) : Prop :=
  ∀ v ∈ vs, v.isRefusedBy sink = false

instance (sink : String) (vs : List Visit) : Decidable (Accepting sink vs) :=
  inferInstanceAs (Decidable (∀ v ∈ vs, v.isRefusedBy sink = false))

/-- A sink that accepts every event keeps every event that it is offered. -/
lemma keptBy_eq_offeredTo {sink : String} {vs : List Visit} (h : Accepting sink vs) :
    keptBy sink vs = offeredTo sink vs := by
  refine List.filterMap_congr fun v mem => ?_
  have accepted := h v mem
  unfold Visit.isRefusedBy at accepted
  unfold Visit.kept? Visit.offered?
  rcases exchange : v.exchange with _ | _ | _ | _ | ⟨name, event, _ | _⟩ | _
  case offer.error => simpa [exchange] using accepted
  all_goals rfl

variable {sink : String} {ms ns : List Mark}

@[simp] lemma offeredTo_nil : offeredTo sink [] = [] := rfl

@[simp] lemma offeredTo_append (vs us : List Visit) :
    offeredTo sink (vs ++ us) = offeredTo sink vs ++ offeredTo sink us := by
  simp [offeredTo]

@[simp] lemma offeredTo_cons (v : Visit) (vs : List Visit) :
    offeredTo sink (v :: vs) = (v.offered? sink).toList ++ offeredTo sink vs := by
  cases event : v.offered? sink <;> simp [offeredTo, event]

@[simp] lemma offered?_witnessed (event : Event) (t : FileTree) :
    (witnessed event t).offered? sink = none := rfl

lemma offered?_of_isAct {v : Visit} (h : v.isAct = true) : v.offered? sink = none := by
  unfold Visit.isAct at h
  unfold Visit.offered?
  cases exchange : v.exchange with
  | offer | event => simp [exchange] at h
  | _ => rfl

lemma event?_of_isAct {v : Visit} (h : v.isAct = true) : v.event? = none := by
  unfold Visit.isAct at h
  unfold Visit.event?
  cases exchange : v.exchange with
  | offer | event => simp [exchange] at h
  | _ => rfl

/-- A sink is offered an event once for each place that it has in a reporter. -/
lemma Offered.offeredTo_eq {event : Event} {r : Reporter σ} {vs : List Visit}
    (h : Offered event r vs) :
    offeredTo sink vs = List.replicate ((r.map Sink.name).count sink) event := by
  induction h with
  | nil => rfl
  | @cons s sinks vs site _ ih =>
    have offered : (Visit.of (s.record event) (.offer s.name event) site).offered? sink
        = if s.name = sink then some event else none := rfl
    rw [offeredTo_cons, offered, ih, List.map_cons, List.count_cons]
    by_cases here : s.name = sink
    · rw [if_pos here, if_pos (beq_iff_eq.2 here), List.replicate_succ]
      rfl
    · rw [if_neg here, if_neg (by simpa using here)]
      rfl

/-- An event is offered to sinks of the reporter alone. -/
lemma Offered.of_mem {event : Event} {r : Reporter σ} {vs : List Visit} {v : Visit}
    (h : Offered event r vs) (mem : v ∈ vs) :
    ∃ s ∈ r, ∃ site, v = .of (s.record event) (.offer s.name event) site := by
  induction h with
  | nil => cases mem
  | @cons s _ _ site _ ih =>
    rcases List.mem_cons.1 mem with rfl | mem
    · exact ⟨s, List.mem_cons_self, site, rfl⟩
    · obtain ⟨s, known, site, same⟩ := ih mem
      exact ⟨s, List.mem_cons_of_mem _ known, site, same⟩

/-! ## Reports in the journal -/

/-- The report that an entry of the journal is about. -/
def Note.report? : Note → Option (Severity × String)
  | event severity message => some (severity, message)
  | action _ => none

/-- The reports of a journal, in order. -/
def reportsOf (ns : List Note) : List (Severity × String) :=
  ns.filterMap Note.report?

/-- What an event reports. -/
def Event.report (e : Event) : Severity × String :=
  (e.severity, e.message)

@[simp] lemma reportsOf_nil : reportsOf [] = [] := rfl

@[simp] lemma reportsOf_append (ns os : List Note) :
    reportsOf (ns ++ os) = reportsOf ns ++ reportsOf os := by
  simp [reportsOf]

@[simp] lemma reportsOf_cons (n : Note) (ns : List Note) :
    reportsOf (n :: ns) = n.report?.toList ++ reportsOf ns := by
  cases n <;> rfl

/-- The journal tells the report that it is about. -/
lemma Reported.reports {r : Reporter σ} {severity : Severity} {message : String}
    (h : Reported r severity message ms) : reportsOf (notesOf ms) = [(severity, message)] := by
  obtain ⟨time, vs, t, _, rfl⟩ := h
  rw [notesOf_cons, notesOf_map_visit]
  rfl

/-! ## Traces of reports -/

/-- A mark that has nothing to do with a report. -/
def Mark.IsPlain : Mark → Prop
  | note n => n.report? = none
  | visit v => v.isAct = true
  | _ => True

/-- A trace whose reports all go to one reporter. -/
inductive Reporting (r : Reporter σ) : List Mark → Prop where
  | nil : Reporting r []
  | plain {m : Mark} {ms : List Mark} (plain : m.IsPlain) (rest : Reporting r ms) :
      Reporting r (m :: ms)
  | report {severity : Severity} {message : String} {told ms : List Mark}
      (reported : Reported r severity message told) (rest : Reporting r ms) :
      Reporting r (told ++ ms)

namespace Reporting

variable {r : Reporter σ}

lemma append (h : Reporting r ms) (h' : Reporting r ns) : Reporting r (ms ++ ns) := by
  induction h with
  | nil => exact h'
  | plain plain _ ih => exact .plain plain ih
  | report reported _ ih =>
    rw [List.append_assoc]
    exact .report reported ih

lemma reported {severity : Severity} {message : String} (h : Reported r severity message ms) :
    Reporting r ms := by
  simpa using Reporting.report h .nil

/-- Marks that have nothing to do with reports. -/
lemma of_plain (h : ∀ m ∈ ms, m.IsPlain) : Reporting r ms := by
  induction ms with
  | nil => exact .nil
  | cons m ms ih =>
    exact .plain (h m List.mem_cons_self) (ih fun m mem => h m (List.mem_cons_of_mem _ mem))

lemma fetched {n : Network σ} {accept url : String} {answer : Except String Response}
    {vs : List Visit} (h : Fetched n accept url answer vs) : Reporting r (vs.map .visit) := by
  refine of_plain fun m mem => ?_
  obtain ⟨v, asked, rfl⟩ := List.mem_map.1 mem
  obtain ⟨request, answer, ask⟩ := h.requests v asked
  simp [Mark.IsPlain, Visit.isAct, ask]

/-- A plain mark offers nothing and is no event. -/
private lemma visit_plain (sink : String) {m : Mark} (h : m.IsPlain) :
    offeredTo sink m.visit?.toList = [] ∧ eventsOf m.visit?.toList = []
      ∧ reportsOf m.note?.toList = [] := by
  cases m with
  | visit v => simp [offered?_of_isAct h, event?_of_isAct h]
  | note n =>
    have silent : n.report? = none := h
    simp [silent]
  | _ => simp

/-- A sink is offered every event that is reported, once for each place that it has. -/
theorem offeredTo_eq (h : Reporting r ms) : offeredTo sink (visitsOf ms)
    = (eventsOf (visitsOf ms)).flatMap (List.replicate ((r.map Sink.name).count sink)) := by
  induction h with
  | nil => rfl
  | plain plain _ ih =>
    obtain ⟨nothing, silent, _⟩ := visit_plain sink plain
    rw [visitsOf_cons, offeredTo_append, eventsOf_append, nothing, silent, ih]
    rfl
  | report reported _ ih =>
    obtain ⟨time, vs, t, offered, rfl⟩ := reported
    simp [offered.offeredTo_eq, eventsOf_offered offered, ih]

/-- The journal tells the events that are reported. -/
theorem journal (h : Reporting r ms) :
    reportsOf (notesOf ms) = (eventsOf (visitsOf ms)).map Event.report := by
  induction h with
  | nil => rfl
  | plain plain _ ih =>
    obtain ⟨_, silent, still⟩ := visit_plain "" plain
    rw [notesOf_cons, visitsOf_cons, reportsOf_append, eventsOf_append, still, silent, ih]
    rfl
  | report reported _ ih =>
    obtain ⟨time, events⟩ := reported.events
    rw [notesOf_append, visitsOf_append, reportsOf_append, eventsOf_append, reported.reports,
      events, ih]
    rfl

/-- A visit is paid to act, or to the witness, or to a sink of the reporter. -/
lemma visits (h : Reporting r ms) : ∀ v ∈ visitsOf ms, v.isAct = true
    ∨ (∃ event, v.exchange = .event event)
    ∨ ∃ s ∈ r, ∃ event site, v = .of (s.record event) (.offer s.name event) site := by
  induction h with
  | nil => simp
  | @plain m ms plain _ ih =>
    intro v mem
    rw [visitsOf_cons, List.mem_append] at mem
    rcases mem with mem | mem
    · cases m with
      | visit v' =>
        rw [List.mem_singleton.1 mem]
        exact .inl plain
      | _ => cases mem
    · exact ih v mem
  | report reported _ ih =>
    intro v mem
    rw [visitsOf_append, List.mem_append] at mem
    rcases mem with mem | mem
    · obtain ⟨time, vs, t, offered, rfl⟩ := reported
      rw [visitsOf_cons, visitsOf_map_visit] at mem
      rcases List.mem_append.1 (show v ∈ vs ++ [_] from mem) with mem | mem
      · obtain ⟨s, known, site, same⟩ := offered.of_mem mem
        exact .inr (.inr ⟨s, known, _, site, same⟩)
      · rw [List.mem_singleton.1 mem]
        exact .inr (.inl ⟨_, rfl⟩)
    · exact ih v mem

end Reporting

/-! ## The reports of the steps -/

variable {r : Reporter σ} {e : Executor σ}

lemma VersionTold.reporting {x : Resolver σ} {v : Version} (h : VersionTold x v ms) :
    Reporting x.reporter ms := by
  have asked : ∀ t site, Reporting x.reporter (x.versionMarks t site) := fun t site =>
    .plain trivial (.plain rfl (.plain rfl .nil))
  cases h with
  | told site => exact asked _ site
  | untold site _ reported => exact (asked _ site).append (.reported reported)

lemma ReleaseTold.reporting {x : Resolver σ} {answer : Except Failure Release}
    (h : ReleaseTold x answer ms) : Reporting r ms := by
  cases h with
  | answered fetched => exact .plain rfl (.fetched fetched)

lemma VersionsTold.reporting {x : Resolver σ} {answer : Except Failure (Version × Release)}
    (h : VersionsTold x answer ms) : Reporting x.reporter ms := by
  cases h with
  | failed version answer | tagged version answer =>
    exact version.reporting.append answer.reporting
  | untagged version answer reported =>
    exact version.reporting.append (answer.reporting.append (.reported reported))

lemma Downloading.reporting {n : Network σ} {asset : Asset} {directory : Path}
    {result : Except Failure Downloaded} (h : Downloading n asset directory result ms) :
    Reporting r ms := by
  cases h with
  | unsafeName => exact .nil
  | unanswered _ fetched => exact .plain rfl (.fetched fetched)
  | unsaved _ fetched | saved _ fetched =>
    exact .plain rfl ((Reporting.fetched fetched).append (.plain trivial .nil))

lemma Fetching.reporting {directory : Path} {version : Version} {asset : Asset}
    {result : Except Failure Downloaded} (h : Fetching e directory version asset result ms) :
    Reporting e.reporter ms := by
  cases h with
  | failed reported downloading => exact .report reported downloading.reporting
  | fetched reported downloading told =>
    exact .report reported (downloading.reporting.append (.reported told))

lemma Verifying.reporting {path : Path} {result : Except Failure Unit}
    (h : Verifying e path result ms) : Reporting e.reporter ms := by
  cases h with
  | refused => exact .plain rfl (.plain rfl .nil)
  | accepted _ _ told => exact .plain rfl (.plain rfl (.reported told))

lemma Uninstalling.reporting {result : Except Failure Unit} (h : Uninstalling e result ms) :
    Reporting e.reporter ms := by
  have started : ∀ site, Reporting e.reporter (uninstallerMarks e site) := fun site =>
    .plain rfl (.plain rfl .nil)
  cases h with
  | failed site reported => exact .report reported (started site)
  | removed site reported | gone site reported | kept site reported =>
    exact .report reported ((started site).append (.plain trivial .nil))

lemma OldUninstalled.reporting {result : Except Failure Unit} (h : OldUninstalled e result ms) :
    Reporting e.reporter ms := by
  cases h with
  | present _ uninstalling => exact .plain trivial uninstalling.reporting
  | absent _ reported => exact .plain trivial (.reported reported)

lemma Installing.reporting {path : Path} {version : Version} {asset : Asset}
    {result : Except Failure Unit} (h : Installing e path version asset result ms) :
    Reporting e.reporter ms := by
  cases h with
  | ended _ reported => exact .report reported (.plain rfl (.plain rfl .nil))

lemma Stepping.reporting {directory : Path} {version : Version} {asset : Asset}
    {result : Except StepFailure Unit} (h : Stepping e directory version asset result ms) :
    Reporting e.reporter ms := by
  cases h with
  | unfetched fetching => exact fetching.reporting
  | unverified fetching verifying => exact fetching.reporting.append verifying.reporting
  | notUninstalled fetching verifying uninstalled =>
    exact fetching.reporting.append (verifying.reporting.append uninstalled.reporting)
  | notInstalled fetching verifying uninstalled installing =>
    exact fetching.reporting.append
      (verifying.reporting.append (uninstalled.reporting.append installing.reporting))
  | installed fetching verifying uninstalled installing reported =>
    exact fetching.reporting.append (verifying.reporting.append
      (uninstalled.reporting.append (installing.reporting.append (.reported reported))))

lemma Executing.reporting {version : Version} {asset : Asset} {result : Except StepFailure Unit}
    (h : Executing e version asset result ms) : Reporting e.reporter ms := by
  cases h with
  | unstaged => exact .plain trivial (.plain trivial .nil)
  | staged _ stepping cleaned =>
    refine .plain trivial (.plain trivial (stepping.reporting.append ?_))
    rcases cleaned with ⟨_, _, _, rfl⟩ | ⟨_, rfl⟩
    · exact .plain trivial .nil
    · exact .plain trivial .nil

/-! ## The reports of calls -/

/-- All reports of an updater go to one reporter. -/
structure Updater.ReportsTo (u : Updater σ) (r : Reporter σ) : Prop where
  resolver : u.resolver.reporter = r
  executor : u.executor.reporter = r
  updater : u.reporter = r

namespace Updater.ReportsTo

variable {u : Updater σ} (all : u.ReportsTo r)
include all

lemma aborting {f : StepFailure} (h : Aborting u f ms) : Reporting r ms := by
  obtain ⟨told, reported, rfl⟩ := h
  rw [all.updater] at reported
  exact .plain trivial (.reported reported)

lemma resolving {answer : Except Failure Decision} (h : Resolving u answer ms) :
    Reporting r ms := by
  have versions : ∀ {a ns}, VersionsTold u.resolver a ns → Reporting r ns := by
    intro a ns told
    rw [← all.resolver]
    exact told.reporting
  cases h with
  | noRelease told aborting =>
    exact .plain trivial ((versions told).append (all.aborting aborting))
  | undecided told _ aborting =>
    exact .plain trivial ((versions told).append (.plain trivial (all.aborting aborting)))
  | decided told => exact .plain trivial ((versions told).append (.plain trivial .nil))

lemma executing {version : Version} {asset : Asset} {result : Except StepFailure Unit}
    (h : Executing u.executor version asset result ms) : Reporting r ms := by
  rw [← all.executor]
  exact h.reporting

lemma reported {severity : Severity} {message : String}
    (h : Reported u.reporter severity message ms) : Reporting r ms := by
  rw [all.updater] at h
  exact .reported h

lemma checking {answer : Except Failure Decision} (h : Checking u answer ms) : Reporting r ms := by
  cases h with
  | failed resolving => exact all.resolving resolving
  | decided resolving reported => exact (all.resolving resolving).append (all.reported reported)

lemma running {answer : Except Failure Outcome} (h : Running u answer ms) : Reporting r ms := by
  cases h with
  | failed started resolving => exact (all.reported started).append (all.resolving resolving)
  | upToDate started resolving reported =>
    exact (all.reported started).append
      ((all.resolving resolving).append (.plain trivial (all.reported reported)))
  | notInstalled started resolving reported executing aborting =>
    exact (all.reported started).append ((all.resolving resolving).append
      ((all.reported reported).append
        (.plain trivial ((all.executing executing).append (all.aborting aborting)))))
  | installed started resolving reported executing =>
    exact (all.reported started).append ((all.resolving resolving).append
      ((all.reported reported).append
        (.plain trivial ((all.executing executing).append (.plain trivial .nil)))))

end Updater.ReportsTo

end SignedUpgrade
