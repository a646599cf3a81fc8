import SignedUpgrade.Proofs.Upgrade.Answers
import SignedUpgrade.Proofs.Upgrade.Footprint

/-!
# Checks only look

A check finds out the two versions and decides.  Whatever comes of it, it starts nothing but the
version command, makes no request but those to the feed, and leaves the files to its parties.

* `Consulted` — the visits of an updater that only looks;
* `Looking` — traces of such visits, in which no file is changed and no fresh name is drawn;
* `Checking.looking` — every check is of this kind;
* `Updater.ReadOnly`, `Updater.check_readOnly` — **what a check does, and what it does not**.
-/

namespace SignedUpgrade

open Net

variable {σ : Type}

/-! ## Looking -/

/-- The visits of an updater that only looks: it asks for the two versions, and reports. -/
inductive Consulted (u : Updater σ) : Visit → Prop where
  | version (program : Path) (site : Site σ) : Consulted u (u.resolver.commandVisit program site)
  | feed (url : Url) (site : Site σ) :
      Consulted u (askVisit u.resolver.network Resolver.accept url site)
  | offer {sink : Sink σ} (mem : sink ∈ u.sinks) (event : Event) (site : Site σ) :
      Consulted u (.of (sink.record event) (.offer sink.name event) site)
  | witnessed (event : Event) (t : FileTree) : Consulted u (witnessed event t)

/-- What a mark may show of an updater that only looks. -/
def Mark.Looks (u : Updater σ) : Mark → Prop
  | visit v => Consulted u v
  | change .. | draw _ => False
  | note _ | enter _ | look _ => True

/-- A trace of looking. -/
def Looking (u : Updater σ) (ms : List Mark) : Prop :=
  ∀ m ∈ ms, m.Looks u

variable {u : Updater σ} {ms ns : List Mark}

namespace Looking

lemma append (h : Looking u ms) (h' : Looking u ns) : Looking u (ms ++ ns) :=
  List.forall_mem_append.2 ⟨h, h'⟩

lemma cons {m : Mark} (looks : m.Looks u) (h : Looking u ms) : Looking u (m :: ms) :=
  List.forall_mem_cons.2 ⟨looks, h⟩

lemma nil : Looking u [] := by
  simp [Looking]

lemma visits {vs : List Visit} (consulted : ∀ v ∈ vs, Consulted u v) :
    Looking u (vs.map .visit) := by
  intro m mem
  obtain ⟨v, member, rfl⟩ := List.mem_map.1 mem
  exact consulted v member

/-- All visits of a trace of looking are consultations. -/
lemma consulted (h : Looking u ms) : ∀ v ∈ visitsOf ms, Consulted u v := by
  intro v mem
  obtain ⟨m, mem, shows⟩ := List.mem_filterMap.1 mem
  cases m with
  | visit _ =>
    cases shows
    exact h _ mem
  | _ => cases shows

/-- Who looks draws no name, so there is none for a staging directory. -/
lemma names_eq (h : Looking u ms) : namesOf ms = [] := by
  refine List.filterMap_eq_nil_iff.2 fun m mem => ?_
  cases m with
  | draw name => exact (h _ mem).elim
  | _ => rfl

/-- Who looks changes no files between the visits. -/
lemma linked {s s' : Scene} (h : Looking u ms) (leads : Leads s ms s') :
    Linked s.files (visitsOf ms) s'.files := by
  induction leads with
  | nil => exact .nil _
  | @cons s t s'' m ms move _ ih =>
    obtain ⟨looks, h⟩ := List.forall_mem_cons.1 h
    have rest := ih h
    cases m with
    | visit v =>
      obtain ⟨before, rfl⟩ := move
      rw [← before]
      exact .cons rest
    | note | enter | look =>
      rw [← move.files_eq (by simp) (by simp)]
      exact rest
    | change | draw => exact looks.elim

end Looking

/-! ## The traces of a check -/

lemma Reported.looking {r : Reporter σ} {severity : Severity} {message : String}
    (h : Reported r severity message ms) (sinks : ∀ sink ∈ r, sink ∈ u.sinks) :
    Looking u ms := by
  obtain ⟨time, vs, t, offered, rfl⟩ := h
  refine .cons trivial (.visits fun v mem => ?_)
  rcases List.mem_append.1 mem with mem | mem
  · obtain ⟨sink, known, site, rfl⟩ := offered.sinks v mem
    exact .offer (sinks sink known) _ site
  · rw [List.mem_singleton.1 mem]
    exact .witnessed _ t

lemma VersionTold.looking {v : Version} (h : VersionTold u.resolver v ms) : Looking u ms := by
  have asked : ∀ t site, Looking u (u.resolver.versionMarks t site) := fun _ site =>
    .cons trivial (.cons trivial (.cons (.version _ site) .nil))
  cases h with
  | told site => exact asked _ site
  | untold site _ reported => exact (asked _ site).append (reported.looking u.resolver_sinks)

lemma ReleaseTold.looking {answer : Except Failure Release}
    (h : ReleaseTold u.resolver answer ms) : Looking u ms := by
  cases h with
  | answered fetched =>
    refine .cons trivial (.visits fun v mem => ?_)
    obtain ⟨url, site, rfl⟩ := fetched.asks v mem
    exact .feed url site

lemma VersionsTold.looking {answer : Except Failure (Version × Release)}
    (h : VersionsTold u.resolver answer ms) : Looking u ms := by
  cases h with
  | failed version answer | tagged version answer => exact version.looking.append answer.looking
  | untagged version answer reported =>
    exact version.looking.append (answer.looking.append (reported.looking u.resolver_sinks))

lemma Aborting.looking {f : StepFailure} (h : Aborting u f ms) : Looking u ms := by
  obtain ⟨told, reported, rfl⟩ := h
  exact .cons trivial (reported.looking u.reporter_sinks)

lemma Resolving.looking {answer : Except Failure Decision} (h : Resolving u answer ms) :
    Looking u ms := by
  cases h with
  | noRelease versions aborting =>
    exact .cons trivial (versions.looking.append aborting.looking)
  | undecided versions _ aborting =>
    exact .cons trivial (versions.looking.append (.cons trivial aborting.looking))
  | decided versions => exact .cons trivial (versions.looking.append (.cons trivial .nil))

lemma Checking.looking {answer : Except Failure Decision} (h : Checking u answer ms) :
    Looking u ms := by
  cases h with
  | failed resolving => exact resolving.looking
  | decided resolving reported => exact resolving.looking.append (reported.looking u.reporter_sinks)

/-- A check does what its decision is made on, and nothing else. -/
lemma Checking.does {answer : Except Failure Decision} (h : Checking u answer ms) :
    ∃ result ds, answer = result.mapError (·.failure) ∧ Does u ms ds ∧ Prepared u result ds := by
  cases h with
  | failed resolving => exact resolving.does
  | decided resolving reported =>
    obtain ⟨result, ds, same, does, prepared⟩ := resolving.does
    exact ⟨result, ds, same, by simpa using does.append (.reported reported), prepared⟩

/-! ## Checks -/

/-- What is different after visits in a row was changed in one of them. -/
lemma Linked.changed {t t' : FileTree} {vs : List Visit} (h : Linked t vs t') {l : Location}
    (differs : t'.file? l ≠ t.file? l) : ∃ v ∈ vs, v.after.file? l ≠ v.before.file? l := by
  induction h with
  | nil => exact absurd rfl differs
  | @cons v vs t' _ ih =>
    by_cases here : v.after.file? l = v.before.file? l
    · rw [← here] at differs
      obtain ⟨v', mem, changed⟩ := ih differs
      exact ⟨v', List.mem_cons_of_mem _ mem, changed⟩
    · exact ⟨v, List.mem_cons_self, here⟩

/-- An event is offered to a sink of an updater. -/
def Updater.Offers (u : Updater σ) (v : Visit) : Prop :=
  ∃ sink ∈ u.sinks, ∃ event site, v = .of (sink.record event) (.offer sink.name event) site
    ∧ ∀ path, sink = .file path → v.WritesOnly path

/-- What an updater that only looks does beside asking for the versions, it does to report. -/
lemma Consulted.reports {v : Visit} (h : Consulted u v) (quiet : v.isAct = false) :
    u.Offers v ∨ ∃ event t, v = SignedUpgrade.witnessed event t := by
  cases h with
  | version | feed => cases quiet
  | @offer sink known event site =>
    refine .inl ⟨sink, known, event, site, rfl, ?_⟩
    rintro path rfl
    exact Sink.file_writesOnly path event site
  | witnessed event t => exact .inr ⟨event, t, rfl⟩

/-- What a check does to the outside. -/
structure Updater.ReadOnly (u : Updater σ) (w : World σ) : Prop where
  /-- It launches the version command and makes the requests of a fetch from the feed.  There is
  nothing else that it asks for, inspects or launches, and its journal tells the same. -/
  acts : ∃ program site vs response,
    acts (u.checkHistory w) = u.resolver.commandVisit program site :: vs
      ∧ Fetched u.resolver.network Resolver.accept u.resolver.feedUrl response vs
      ∧ ∃ notes, (u.check.outcome w).2.journal = w.journal ++ notes
        ∧ actionsOf notes = [.versionCommand program, .feedRequest u.resolver.feedUrl]
  /-- Everybody else who is visited is offered an event. -/
  offers : ∀ v ∈ u.checkHistory w, v.isAct = false →
    u.Offers v ∨ ∃ event t, v = witnessed event t
  /-- It draws no name for a staging directory. -/
  unstaged : (u.check.outcome w).2.namesUsed = w.namesUsed
  /-- From one visit to the next the files stay as they are. -/
  still : Linked w.files (u.checkHistory w) (u.check.outcome w).2.files
  /-- So it is a sink that changed a file which the version command and the network left alone. -/
  changed : ∀ l, (∀ v ∈ SignedUpgrade.acts (u.checkHistory w),
      v.after.file? l = v.before.file? l) →
    (u.check.outcome w).2.files.file? l ≠ w.files.file? l →
      ∃ v ∈ u.checkHistory w, u.Offers v ∧ v.after.file? l ≠ v.before.file? l

/-- **A check only looks**, whatever its parties do and whatever comes of it. -/
theorem Updater.check_readOnly (u : Updater σ) (w : World σ) : u.ReadOnly w := by
  obtain ⟨ms, leads, checking⟩ : ∃ ms,
      Leads w.watched.scene ms (u.watched.check.outcome w.watched).2.scene
        ∧ Checking u (u.watched.check.outcome w.watched).1 ms := u.check_runs w.watched
  have bare : u.check.outcome w
      = ((u.watched.check.outcome w.watched).1, (u.watched.check.outcome w.watched).2.bare) :=
    u.check_mirrors w.watched
  obtain ⟨history, journal, names⟩ := leads.told
  replace history : u.checkHistory w = visitsOf ms := history
  have offers : ∀ v ∈ u.checkHistory w, v.isAct = false →
      u.Offers v ∨ ∃ event t, v = witnessed event t := by
    intro v mem
    rw [history] at mem
    exact (checking.looking.consulted v mem).reports
  have still : Linked w.files (u.checkHistory w) (u.check.outcome w).2.files := by
    rw [history, bare]
    exact checking.looking.linked leads
  refine ⟨?_, offers, ?_, still, ?_⟩
  · obtain ⟨result, ds, _, does, prepared⟩ := checking.does
    obtain ⟨program, site, response, vs, fetched, rfl, _⟩ := prepared.decision
    refine ⟨program, site, vs, response, ?_, fetched, notesOf ms, ?_, ?_⟩
    · rw [history, does.acts]
      simp [preparationDeeds]
    · rw [bare, journal]
    · rw [does.journal]
      rfl
  · rw [bare, names, checking.looking.names_eq]
    rfl
  · intro l kept differs
    obtain ⟨v, mem, changed⟩ := still.changed differs
    have quiet : v.isAct = false := by
      by_contra act
      rw [Bool.not_eq_false] at act
      exact changed (kept v (List.mem_filter.2 ⟨mem, act⟩))
    rcases offers v mem quiet with offered | ⟨event, t, rfl⟩
    · exact ⟨v, mem, offered, changed⟩
    · exact absurd rfl changed

end SignedUpgrade
