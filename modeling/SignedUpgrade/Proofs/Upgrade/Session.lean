import SignedUpgrade.Proofs.Upgrade.Trail

/-!
# Sessions

An updater may be called any number of times.  Its state, its audit trail and its results agree
after every call, and nothing of this depends on the calls before.

* `Call`, `Reply`, `Account` — what is known of a call: its result, the visits it paid and the state
  that it left behind;
* `Updater.session` — calls one after the other;
* `Account.Agrees` — the result of a call agrees with its state and its trail;
* `Updater.session_agrees` — **every call of every session agrees**.
-/

namespace SignedUpgrade

variable {σ : Type}

/-! ## Calls -/

/-- What an updater can be asked to do. -/
inductive Call where
  | check
  | run
  deriving DecidableEq, Repr

/-- The result of a call without failure. -/
inductive Reply where
  | decided (decision : Decision)
  | ended (outcome : Outcome)

/-- What is known of a call. -/
structure Account where
  result : Except Failure Reply
  visits : List Visit
  /-- The state after the call. -/
  state : UpdateState

/-- The events of a call, as the witness took them down. -/
def Account.events (x : Account) : List Event :=
  eventsOf x.visits

/-- The state that belongs to a result. -/
def stateAfter : Except Failure Reply → UpdateState
  | .error _ => .aborted
  | .ok (.decided _) => .versionChecked
  | .ok (.ended (.upToDate ..)) => .noActionNeeded
  | .ok (.ended (.installed ..)) => .done

namespace Updater

variable (u : Updater σ)

/-- Carries a call out. -/
def account (w : World σ) : Call → Account × World σ
  | .check =>
    let (r, w') := u.check.outcome w
    ({ result := r.map .decided, visits := u.checkHistory w, state := w'.state }, w')
  | .run =>
    let (r, w') := u.run.outcome w
    ({ result := r.map .ended, visits := u.history w, state := w'.state }, w')

lemma account_check (w : World σ) : u.account w .check
    = ({ result := (u.check.outcome w).1.map .decided
         visits := u.checkHistory w
         state := (u.check.outcome w).2.state }, (u.check.outcome w).2) := by
  rw [account]
  generalize u.check.outcome w = ended
  rfl

lemma account_run (w : World σ) : u.account w .run
    = ({ result := (u.run.outcome w).1.map .ended
         visits := u.history w
         state := (u.run.outcome w).2.state }, (u.run.outcome w).2) := by
  rw [account]
  generalize u.run.outcome w = ended
  rfl

/-- Carries calls out, one after the other. -/
def session : List Call → World σ → List Account
  | [], _ => []
  | c :: cs, w => (u.account w c).1 :: session cs (u.account w c).2

end Updater

/-- A world for a new updater, in which anything can stand outside of it. -/
def World.new (site : Site σ) (clock : Nat → Timestamp) (names : Nat → String) : World σ :=
  { site with clock, names }

/-! ## Agreement -/

/-- A call agrees with itself: with its state and with its trail. -/
structure Account.Agrees (u : Updater σ) (x : Account) : Prop where
  /-- The state is the one that belongs to the result. -/
  state : x.state = stateAfter x.result
  /-- An error is reported by the calls that fail, and by no others. -/
  error : (∃ event ∈ x.events, event.severity = .error) ↔ ∃ f, x.result = .error f
  /-- A failure is reported once and as the last thing of all.  The report names the step that the
  failure arose in, as the deeds of the call show it, and the wording of the failure. -/
  failed : ∀ f, x.result = .error f → ∃ state ds earlier time,
    x.events = earlier ++ [{ time, severity := .error, message := Updater.abortMessage ⟨state, f⟩ }]
      ∧ (∀ event ∈ earlier, event.severity ≠ .error)
      ∧ (∀ d ∈ ds, d.CarriedOut u) ∧ acts x.visits = ds.flatMap (·.visits)
      ∧ FailsIn u ⟨state, f⟩ ds
  /-- That a version is installed is reported last by the runs that installed it, and by no other
  calls. -/
  installed : ∀ v, (∃ time, x.events.getLast?
      = some { time, severity := .information, message := Executor.installedText v })
    ↔ ∃ previous, x.result = .ok (.ended (.installed previous v))
  /-- No other call reports such a thing at any place of its trail. -/
  nothingElse : (∃ event ∈ x.events, IsInstalledText event.message) →
    ∃ previous v, x.result = .ok (.ended (.installed previous v))

namespace Account.Agrees

variable {u : Updater σ} {x : Account} {ms : List Mark}

/-- A call that fails agrees if its trail is the one of a failure. -/
lemma of_failed {f : Failure} (result : x.result = .error f) (visits : x.visits = visitsOf ms)
    (state : x.state = .aborted) (trail : FailureTrail u f ms) : x.Agrees u := by
  obtain ⟨step, ds, ns, told, rfl, calm, ⟨told, reported, rfl⟩, does, fails⟩ := trail
  obtain ⟨time, events⟩ := reported.events
  have all : x.events = eventsOf (visitsOf ns)
      ++ [{ time, severity := .error, message := Updater.abortMessage ⟨step, f⟩ }] := by
    simp [Account.events, visits, events, Mark.visit?]
  refine ⟨?_, ?_, ?_, ?_, ?_⟩
  · rw [state, result]
    rfl
  · rw [result, all]
    simp
  · intro f' same
    rw [result] at same
    cases same
    refine ⟨step, ds, _, time, all, fun event mem => (calm event mem).1, does.carriedOut, ?_, fails⟩
    rw [visits]
    exact does.acts
  · intro v
    rw [result, all]
    simp
  · rintro ⟨event, mem, text⟩
    rw [all, List.mem_append, List.mem_singleton] at mem
    rcases mem with mem | rfl
    · exact absurd text (calm event mem).2
    · exact absurd text (not_installed_abort _)

/-- A call with another result than an installation agrees if its trail is calm. -/
lemma of_calm {reply : Reply} (result : x.result = .ok reply) (visits : x.visits = visitsOf ms)
    (other : ∀ previous v, reply ≠ .ended (.installed previous v))
    (state : x.state = stateAfter (.ok reply)) (calm : Calm ms) : x.Agrees u := by
  have events : x.events = eventsOf (visitsOf ms) := by rw [Account.events, visits]
  refine ⟨?_, ?_, ?_, ?_, ?_⟩
  · rw [state, result]
  · rw [events, result]
    constructor
    · rintro ⟨event, mem, severe⟩
      exact absurd severe (calm event mem).1
    · rintro ⟨_, ⟨⟩⟩
  · intro f failed
    rw [result] at failed
    cases failed
  · intro v
    rw [events, result]
    constructor
    · rintro ⟨time, last⟩
      have mem := List.mem_of_getLast? last
      exact absurd ⟨v, rfl⟩ (calm _ mem).2
    · rintro ⟨previous, same⟩
      exact absurd (Except.ok.inj same) (other previous v)
  · rintro ⟨event, mem, text⟩
    rw [events] at mem
    exact absurd text (calm event mem).2

/-- A run that installed a version agrees if its trail is calm up to the report of it. -/
lemma of_installed {previous version : Version} {ns told rest : List Mark} {r : Reporter σ}
    (result : x.result = .ok (.ended (.installed previous version)))
    (visits : x.visits = visitsOf (ns ++ (told ++ rest))) (state : x.state = .done)
    (calm : Calm ns) (reported : Reported r .information (Executor.installedText version) told)
    (nothing : eventsOf (visitsOf rest) = []) : x.Agrees u := by
  obtain ⟨time, events⟩ := reported.events
  have all : x.events = eventsOf (visitsOf ns)
      ++ [{ time, severity := .information, message := Executor.installedText version }] := by
    simp [Account.events, visits, events, nothing]
  refine ⟨?_, ?_, ?_, ?_, ?_⟩
  · rw [state, result]
    rfl
  · rw [all, result]
    constructor
    · rintro ⟨event, mem, severe⟩
      rw [List.mem_append, List.mem_singleton] at mem
      rcases mem with mem | rfl
      · exact absurd severe (calm event mem).1
      · cases severe
    · rintro ⟨_, ⟨⟩⟩
  · intro f failed
    rw [result] at failed
    cases failed
  · intro v
    rw [all, result]
    constructor
    · rintro ⟨time', last⟩
      rw [List.getLast?_concat, Option.some.injEq, Event.mk.injEq] at last
      rw [installedText_injective last.2.2]
      exact ⟨previous, rfl⟩
    · rintro ⟨_, ⟨⟩⟩
      exact ⟨time, List.getLast?_concat⟩
  · intro _
    exact ⟨previous, version, result⟩

end Account.Agrees

namespace Updater

variable (u : Updater σ)

lemma check_agrees (w : World σ) : (u.account w .check).1.Agrees u := by
  obtain ⟨ms, traced, checking⟩ := u.check_traced w
  have result : (u.account w .check).1.result = (u.check.outcome w).1.map .decided := by
    rw [account_check]
  have visits : (u.account w .check).1.visits = visitsOf ms := by
    rw [account_check, ← traced.history]
  have state : (u.account w .check).1.state = (statesOf ms).getLastD w.state := by
    rw [account_check, ← traced.state]
  rcases outcome : (u.check.outcome w).1 with f | decision
  · rw [outcome, Except.map] at result
    rw [outcome] at checking
    cases checking with
    | failed resolving =>
      have trail := resolving.trail_failed
      refine .of_failed result visits ?_ trail
      obtain ⟨_, _, ns, _, rfl, _, ⟨told, reported, rfl⟩, _⟩ := trail
      rw [state]
      exact getLastD_statesOf reported.states
  · rw [outcome, Except.map] at result
    rw [outcome] at checking
    cases checking with
    | @decided _ ms told resolving reported =>
      refine .of_calm result visits (by simp) ?_
        (resolving.calm.append (.reported reported (by decide) (not_installed_decision _)))
      cases resolving with
      | @decided _ _ _ ms =>
        have last : .enter .start :: (ms ++ [.enter .versionChecked]) ++ told
            = (.enter .start :: ms) ++ .enter .versionChecked :: told := by simp
        rw [state, last]
        exact getLastD_statesOf reported.states

lemma run_agrees (w : World σ) : (u.account w .run).1.Agrees u := by
  obtain ⟨ms, traced, running⟩ := u.run_traced w
  obtain ⟨_, leads, _⟩ := traced.leads
  have result : (u.account w .run).1.result = (u.run.outcome w).1.map .ended := by
    rw [account_run]
  have visits : (u.account w .run).1.visits = visitsOf ms := by
    rw [account_run, ← traced.history]
  have state : (u.account w .run).1.state = (statesOf ms).getLastD w.state := by
    rw [account_run, ← traced.state]
  rcases outcome : (u.run.outcome w).1 with f | ended
  · rw [outcome, Except.map] at result
    rw [outcome] at running
    have trail := running.trail_failed leads
    refine .of_failed result visits ?_ trail
    obtain ⟨_, _, ns, _, rfl, _, ⟨told, reported, rfl⟩, _⟩ := trail
    rw [state]
    exact getLastD_statesOf reported.states
  · rw [outcome, Except.map] at result
    rw [outcome] at running
    cases running with
    | @upToDate _ _ start ms told started resolving reported =>
      refine .of_calm result visits (by simp) ?_ ?_
      · rw [state, ← List.append_assoc]
        exact getLastD_statesOf reported.states
      · exact (Calm.reported started (by decide) not_installed_starting).append
          (resolving.calm.append ((Calm.reported reported (by decide)
            (not_installed_upToDate _ _)).cons rfl))
    | @installed _ version installer start ms told ns started resolving reported executing =>
      cases executing with
      | @staged name t t' _ ms' cs creation stepping cleaned =>
        obtain ⟨steps, last, rfl, calm, installed⟩ := stepping.trail
        have trail : start ++ (ms ++ (told ++ .enter .downloading
              :: (.draw name :: .change t t' :: (steps ++ last ++ cs) ++ [.enter .done])))
            = (start ++ (ms ++ (told ++ .enter .downloading :: .draw name :: .change t t'
                :: steps))) ++ (last ++ (cs ++ [.enter .done])) := by
          simp
        refine .of_installed result (visits.trans (congrArg visitsOf trail)) ?_ ?_ installed
          ?_
        · rw [state, trail, ← List.append_assoc, ← List.append_assoc]
          exact getLastD_statesOf rfl
        · exact (Calm.reported started (by decide) not_installed_starting).append
            (resolving.calm.append ((Calm.reported reported (by decide)
              (not_installed_upgrading _ _)).append
                (.cons rfl (.cons rfl (.cons rfl calm)))))
        · simp [cleaned.calm]

/-- **Every call of every session agrees.**  An updater is new before the first call, and each call
of a session leaves the state that belongs to its result and the trail that belongs to it. -/
theorem session_agrees (calls : List Call) (site : Site σ) (clock : Nat → Timestamp)
    (names : Nat → String) :
    (World.new site clock names).state = .start
      ∧ ∀ x ∈ u.session calls (World.new site clock names), x.Agrees u := by
  refine ⟨rfl, ?_⟩
  -- a call agrees in every world, so it does not matter what the calls before left behind
  generalize World.new site clock names = w
  induction calls generalizing w with
  | nil => simp [session]
  | cons c cs ih =>
    intro x mem
    rw [session, List.mem_cons] at mem
    rcases mem with rfl | mem
    · cases c with
      | check => exact u.check_agrees w
      | run => exact u.run_agrees w
    · exact ih _ x mem

end Updater

end SignedUpgrade
