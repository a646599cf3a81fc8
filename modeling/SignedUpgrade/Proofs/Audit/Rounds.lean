import SignedUpgrade.Proofs.Tracing.Visits

/-!
# Rounds of offers

A report makes one round: its event is offered to every sink, one after the other.  What a sink
answers makes no difference to the sinks after it, nor to the rounds after this one.

* `Reporter.offerAll_site` — what each sink keeps of a site, a round keeps;
* `Reporter.reportAll`, `Reporter.eventsAt` — reports one after the other, and their events;
* `OfferedAll` — the visits of several rounds;
* `Reporter.reportAll_offered` — **every sink is offered every event once, in order**;
* `Reporter.reportAll_memory` — **a sink that keeps events in memory keeps all of them**, wherever
  it stands.
-/

namespace SignedUpgrade

variable {σ : Type}

namespace Reporter

/-! ## One round

Whatever sinks do, they do it on the site; all else in the world is the same after a round.
-/

section Round

variable (event : Event) {sink : Sink σ} (r : Reporter σ) (w : World σ) {P : Site σ → Prop}

variable {event w} in
lemma offer_site (logged : ∀ site line, P site → P (site.logged line))
    (keeps : P (sink.record event w.toSite).2) :
    ∃ site, (offer event sink w).2 = { w with toSite := site } ∧ P site := by
  refine ⟨_, rfl, ?_⟩
  generalize sink.record event w.toSite = recorded at keeps
  obtain ⟨_ | _, site⟩ := recorded
  · exact logged _ _ keeps
  · exact keeps

lemma offerAll_cons (sink : Sink σ) :
    offerAll event (sink :: r) w = offerAll event r (offer event sink w).2 := rfl

lemma offerAll_append (r' : Reporter σ) :
    offerAll event (r ++ r') w = offerAll event r' (offerAll event r w).2 := by
  induction r generalizing w with
  | nil => rfl
  | cons sink sinks ih => rw [List.cons_append, offerAll_cons, offerAll_cons, ih]

/-- What each sink keeps of a site, all of them do. -/
lemma offerAll_site (logged : ∀ site line, P site → P (site.logged line))
    (keeps : ∀ sink ∈ r, ∀ site, P site → P (sink.record event site).2) (start : P w.toSite) :
    ∃ site, (offerAll event r w).2 = { w with toSite := site } ∧ P site := by
  induction r generalizing w with
  | nil => exact ⟨w.toSite, rfl, start⟩
  | cons sink sinks ih =>
    obtain ⟨site, first, kept⟩ := offer_site logged (keeps sink List.mem_cons_self _ start)
    rw [offerAll_cons, first]
    exact ih _ (fun other mem => keeps other (List.mem_cons_of_mem _ mem)) kept

end Round

/-! ## Any number of rounds -/

/-- Reports messages, one after the other. -/
def reportAll (r : Reporter σ) : List (Severity × String) → Work σ Unit
  | [] => pure ()
  | (severity, message) :: more => do
    r.report severity message
    reportAll r more

/-- The events of reports.  Each of them has the time of the one reading of the clock that its
report makes. -/
def eventsAt (clock : Nat → Timestamp) (readings : Nat) : List (Severity × String) → List Event
  | [] => []
  | (severity, message) :: more =>
    { time := clock readings, severity, message } :: eventsAt clock (readings + 1) more

/-- The event of a report. -/
def announcement (severity : Severity) (message : String) (w : World σ) : Event where
  time := w.clock w.readings
  severity := severity
  message := message

/-- The world in which the event of a report is offered to the sinks. -/
def announced (severity : Severity) (message : String) (w : World σ) : World σ :=
  { w with
    toSite := w.toSite.logged { level := severity.level, text := message, scope := .reports }
    journal := w.journal ++ [.event severity message]
    readings := w.readings + 1 }

lemma reportAll_cons (r : Reporter σ) (severity : Severity) (message : String)
    (more : List (Severity × String)) (w : World σ) :
    r.reportAll ((severity, message) :: more) w
      = r.reportAll more
          (offerAll (announcement severity message w) r (announced severity message w)).2 := rfl

/-- A round reads no clock. -/
lemma offerAll_clock (event : Event) (r : Reporter σ) (w : World σ) :
    (offerAll event r w).2.clock = w.clock ∧ (offerAll event r w).2.readings = w.readings := by
  obtain ⟨site, after, -⟩ := offerAll_site event r w (P := fun _ => True) (fun _ _ _ => trivial)
    (fun _ _ _ _ => trivial) trivial
  rw [after]
  exact ⟨rfl, rfl⟩

end Reporter

/-- The visits of several rounds.  In each of them, all sinks are offered the same event, each of
them once and in order; the witness is the last to see it. -/
inductive OfferedAll (r : Reporter σ) : List Event → List Visit → Prop where
  | nil : OfferedAll r [] []
  | cons {event : Event} {events : List Event} {vs ws : List Visit} (t : FileTree)
      (offered : Offered event r vs) (rest : OfferedAll r events ws) :
      OfferedAll r (event :: events) (vs ++ witnessed event t :: ws)

namespace Reporter

/-- Every sink is offered every event once, in order, whatever it answers. -/
theorem reportAll_offered (r : Reporter σ) (reports : List (Severity × String))
    (w : World (Watched σ)) :
    ∃ vs, (r.watched.reportAll reports w).2.history = w.history ++ vs
      ∧ OfferedAll r (eventsAt w.clock w.readings reports) vs := by
  induction reports generalizing w with
  | nil => exact ⟨[], (List.append_nil _).symm, .nil⟩
  | cons report more ih =>
    obtain ⟨severity, message⟩ := report
    have round := offerAll_runs (announcement severity message w) r
      (announced severity message w)
    have clock := offerAll_clock (announcement severity message w) r.watched
      (announced severity message w)
    rw [reportAll_cons]
    generalize (offerAll _ r.watched (announced severity message w)).2 = w' at round clock
    obtain ⟨_, leads, vs, t, offered, rfl⟩ := round
    obtain ⟨ws, history, rest⟩ := ih w'
    rw [clock.1, clock.2] at rest
    refine ⟨_, ?_, .cons t offered rest⟩
    have first : w'.history
        = w.history ++ (vs ++ [witnessed (announcement severity message w) t]) := by
      have told := leads.history_eq
      rw [visitsOf_map_visit] at told
      exact told
    rw [history, first, List.append_assoc, List.append_assoc]
    rfl

variable {before after : Reporter σ} {add : Event → σ → σ} {kept : σ → List Event}

/-- One round adds one event to what is kept in memory. -/
lemma offerAll_memory (adds : ∀ event o, kept (add event o) = kept o ++ [event])
    (others : ∀ sink ∈ before ++ after, ∀ event site,
      kept (sink.record event site).2.outside = kept site.outside) (event : Event) (w : World σ) :
    kept (offerAll event (before ++ .memory add :: after) w).2.outside
      = kept w.outside ++ [event] := by
  -- the sinks on either side leave alone what is kept in memory
  have leaves : ∀ r : Reporter σ, (∀ sink ∈ r, sink ∈ before ++ after) → ∀ w,
      kept (offerAll event r w).2.outside = kept w.outside := by
    intro r sub w
    obtain ⟨site, ended, same⟩ := offerAll_site event r w
      (P := fun site => kept site.outside = kept w.outside) (fun _ _ same => same)
      (fun sink mem site same => (others sink (sub sink mem) event site).trans same) rfl
    rw [ended]
    exact same
  have memory : ∀ w, kept (offer event (.memory add) w).2.outside = kept w.outside ++ [event] :=
    fun w => adds event w.outside
  rw [offerAll_append, offerAll_cons, leaves after fun sink mem => List.mem_append_right _ mem,
    memory, leaves before fun sink mem => List.mem_append_left _ mem]

/-- A sink that keeps events in memory keeps all of them in order, wherever it stands among the
sinks and whatever these answer. -/
theorem reportAll_memory (adds : ∀ event o, kept (add event o) = kept o ++ [event])
    (others : ∀ sink ∈ before ++ after, ∀ event site,
      kept (sink.record event site).2.outside = kept site.outside)
    (reports : List (Severity × String)) (w : World σ) :
    kept (reportAll (before ++ .memory add :: after) reports w).2.outside
      = kept w.outside ++ eventsAt w.clock w.readings reports := by
  induction reports generalizing w with
  | nil => exact (List.append_nil _).symm
  | cons report more ih =>
    obtain ⟨severity, message⟩ := report
    have round := offerAll_memory adds others (announcement severity message w)
      (announced severity message w)
    have clock := offerAll_clock (announcement severity message w)
      (before ++ .memory add :: after) (announced severity message w)
    rw [reportAll_cons, ih, round, clock.1, clock.2, List.append_assoc]
    rfl

end Reporter

end SignedUpgrade
