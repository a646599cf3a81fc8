import SignedUpgrade.Proofs.Net.Fetching
import SignedUpgrade.Proofs.Tracing.Mark

/-!
# Traces of visits

What a visit to one party leaves behind, and what the two kinds of steps do that visit several
parties in a row: a report, which is offered to every sink, and a fetch, which follows
redirections.

* `Visit.of` — the visit that a party gets at a site;
* `Linked` — visits in a row, with nothing changed in between;
* `Reported` — the trace of a report;
* `Asked`, `Fetched` — the visits of a fetch, and what it came to.
-/

namespace SignedUpgrade

open Net

variable {σ : Type}

/-- The visit that a party gets at a site. -/
def Visit.of {α : Type} (party : Site σ → α × Site σ) (exchange : α → Exchange) (site : Site σ) :
    Visit where
  exchange := exchange (party site).1
  before := site.files
  after := (party site).2.files

/-- Visits in a row lead from files to files, with nothing changed in between. -/
inductive Linked : FileTree → List Visit → FileTree → Prop where
  | nil (t : FileTree) : Linked t [] t
  | cons {v : Visit} {vs : List Visit} {t : FileTree} (rest : Linked v.after vs t) :
      Linked v.before (v :: vs) t

lemma Linked.leads {t t' : FileTree} {vs : List Visit} (h : Linked t vs t') (s : Scene)
    (start : s.files = t) :
    Leads s (vs.map .visit) { s with files := t', history := s.history ++ vs } := by
  induction h generalizing s with
  | nil t =>
    subst start
    simpa using Leads.nil s
  | @cons v vs t' _ ih =>
    let visited : Scene := { s with files := v.after, history := s.history ++ [v] }
    have move : (Mark.visit v).Moves s visited := ⟨start.symm, rfl⟩
    refine .cons move ?_
    simpa [visited] using ih visited rfl

/-- Steps on a site visit parties in a row. -/
def VisitsOnly {α : Type} (f : Site (Watched σ) → α × Site (Watched σ))
    (T : α → List Visit → Prop) : Prop :=
  ∀ site, ∃ vs, Linked site.files vs (f site).2.files
    ∧ (f site).2.outside.history = site.outside.history ++ vs ∧ T (f site).1 vs

/-- One visit to a watched party, after which nothing but the log is touched. -/
lemma VisitsOnly.one {α β : Type} {f : Site (Watched σ) → β × Site (Watched σ)}
    (party : Site σ → α × Site σ) (exchange : α → Exchange) (result : α → β)
    (h : ∀ site, (f site).1 = result (watch party exchange site).1
      ∧ (f site).2.files = (watch party exchange site).2.files
      ∧ (f site).2.outside = (watch party exchange site).2.outside) :
    VisitsOnly f fun b vs =>
      ∃ site, b = result (party site).1 ∧ vs = [.of party exchange site] := by
  intro site
  obtain ⟨value, files, outside⟩ := h site
  refine ⟨[.of party exchange site.bare], ?_, ?_, site.bare, value, rfl⟩
  · rw [files]
    exact .cons (v := .of party exchange site.bare) (.nil _)
  · rw [outside]
    rfl

/-- One visit to a watched party and nothing else. -/
lemma watch_visits {α : Type} (party : Site σ → α × Site σ) (exchange : α → Exchange) :
    VisitsOnly (watch party exchange) fun a vs =>
      ∃ site, a = (party site).1 ∧ vs = [.of party exchange site] :=
  .one party exchange id fun _ => ⟨rfl, rfl, rfl⟩

namespace Work.Runs

/-- The trace of steps on a site that visit parties in a row. -/
lemma onSite {α : Type} {f : Site (Watched σ) → α × Site (Watched σ)}
    {T : α → List Visit → Prop} (h : VisitsOnly f T) :
    Runs (Work.onSite f) fun a ms => ∃ vs, ms = vs.map .visit ∧ T a vs := by
  intro w
  obtain ⟨vs, linked, history, t⟩ := h w.toSite
  refine ⟨vs.map .visit, ?_, vs, rfl, t⟩
  have after : (Work.onSite f w).2.scene
      = { w.scene with
          files := (f w.toSite).2.files, history := (f w.toSite).2.outside.history } := rfl
  rw [after, history]
  exact linked.leads w.scene rfl

/-- One visit to a watched party. -/
lemma party {α : Type} (party : Site σ → α × Site σ) (exchange : α → Exchange) :
    Runs (Work.onSite (watch party exchange)) fun a ms =>
      ∃ site, a = (party site).1 ∧ ms = [.visit (.of party exchange site)] := by
  refine (onSite (watch_visits party exchange)).mono ?_
  rintro _ _ ⟨_, rfl, site, rfl, rfl⟩
  exact ⟨site, rfl, rfl⟩

/-- A change of the files that may fail, and then leaves them alone. -/
lemma change {α : Type} {f : Site (Watched σ) → α × Site (Watched σ)}
    (op : FileTree → Except IoFault FileTree) (good : α) (bad : IoFault → α)
    (outside : ∀ site, (f site).2.outside = site.outside)
    (done : ∀ site t, op site.files = .ok t → (f site).1 = good ∧ (f site).2.files = t)
    (failed : ∀ site fault, op site.files = .error fault →
      (f site).1 = bad fault ∧ (f site).2.files = site.files) :
    Runs (Work.onSite f) fun a ms =>
      (∃ t t', op t = .ok t' ∧ a = good ∧ ms = [.change t t'])
        ∨ ∃ t fault, op t = .error fault ∧ a = bad fault ∧ ms = [.look t] := by
  intro w
  have after : (Work.onSite f w).2.scene
      = { w.scene with
          files := (f w.toSite).2.files, history := (f w.toSite).2.outside.history } := rfl
  have history : (f w.toSite).2.outside.history = w.scene.history := by
    rw [outside]
    rfl
  rw [after, history]
  cases result : op w.files with
  | ok t =>
    obtain ⟨value, files⟩ := done w.toSite t result
    rw [files]
    exact ⟨[.change w.files t], .one ⟨rfl, rfl⟩, .inl ⟨w.files, t, result, value, rfl⟩⟩
  | error fault =>
    obtain ⟨value, files⟩ := failed w.toSite fault result
    rw [files]
    exact ⟨[.look w.files], .one ⟨rfl, rfl⟩, .inr ⟨w.files, fault, result, value, rfl⟩⟩

end Work.Runs

namespace Steps.Runs

lemma onSite {α : Type} {f : Site (Watched σ) → Except Failure α × Site (Watched σ)}
    {T : Except Failure α → List Mark → Prop} (h : Work.Runs (Work.onSite f) T) :
    Runs (Attempt.onSite f) T := h

end Steps.Runs

/-! ## Reports -/

/-- The visits to the sinks of a reporter that are offered an event, each of them once and in
order. -/
inductive Offered (event : Event) : Reporter σ → List Visit → Prop where
  | nil : Offered event [] []
  | cons {sink : Sink σ} {sinks : Reporter σ} {vs : List Visit} (site : Site σ)
      (rest : Offered event sinks vs) :
      Offered event (sink :: sinks)
        (.of (sink.record event) (.offer sink.name event) site :: vs)

/-- The visits of a report are offers of the event. -/
lemma Offered.offers {event : Event} {r : Reporter σ} {vs : List Visit} (h : Offered event r vs) :
    ∀ v ∈ vs, ∃ name answer, v.exchange = .offer name event answer := by
  induction h with
  | nil => simp
  | cons site _ ih =>
    intro v mem
    rcases List.mem_cons.1 mem with rfl | mem
    · exact ⟨_, _, rfl⟩
    · exact ih v mem

/-- The visit of the witness, which leaves the files alone. -/
def witnessed (event : Event) (t : FileTree) : Visit :=
  ⟨.event event, t, t⟩

/-- The trace of a report: an entry of the journal, the offers to all sinks, and the witness. -/
def Reported (r : Reporter σ) (severity : Severity) (message : String) (ms : List Mark) : Prop :=
  ∃ time vs t, Offered { time, severity, message } r vs
    ∧ ms = .note (.event severity message)
      :: (vs ++ [witnessed { time, severity, message } t]).map .visit

namespace Reported

variable {r : Reporter σ} {severity : Severity} {message : String} {ms : List Mark} {s s' : Scene}

/-- The first visit of a report finds the files as they are. -/
lemma first (h : Reported r severity message ms) (leads : Leads s ms s') :
    ∃ v vs, visitsOf ms = v :: vs ∧ v.before = s.files := by
  obtain ⟨time, vs, t, _, rfl⟩ := h
  obtain ⟨_, rfl, leads⟩ := leads.uncons
  cases vs with
  | nil =>
    obtain ⟨_, ⟨before, _⟩, _⟩ := leads.uncons
    exact ⟨_, [], rfl, before⟩
  | cons v vs =>
    obtain ⟨_, ⟨before, _⟩, _⟩ := leads.uncons
    refine ⟨v, vs ++ [witnessed ⟨time, severity, message⟩ t], ?_, before⟩
    simp

/-- The last visit of a report is the one of the witness. -/
lemma last (h : Reported r severity message ms) (leads : Leads s ms s') :
    ∃ time vs, visitsOf ms = vs ++ [witnessed { time, severity, message } s'.files] := by
  obtain ⟨time, vs, t, _, rfl⟩ := h
  rw [List.map_append, ← List.cons_append] at leads
  obtain ⟨before, _, moved⟩ := leads.last
  refine ⟨time, vs, ?_⟩
  have files : s'.files = t := by rw [moved]; rfl
  rw [files]
  simp

end Reported

namespace Reporter

lemma offer_runs (event : Event) (sink : Sink σ) :
    Work.Runs (offer event sink.watched) fun _ ms =>
      ∃ site, ms = [.visit (.of (sink.record event) (.offer sink.name event) site)] := by
  refine (Work.Runs.onSite (.one (sink.record event) (.offer sink.name event) (fun _ => ())
    fun site => ?_)).mono ?_
  · have visit : sink.watched.record event
        = watch (sink.record event) (.offer sink.name event) := rfl
    rw [visit]
    rcases watch (sink.record event) (.offer sink.name event) site with ⟨_ | _, _⟩
    · exact ⟨rfl, rfl, rfl⟩
    · exact ⟨rfl, rfl, rfl⟩
  · rintro _ _ ⟨_, rfl, site, _, rfl⟩
    exact ⟨site, rfl⟩

lemma offer_witness_runs (event : Event) :
    Work.Runs (offer event (Sink.witness (σ := σ))) fun _ ms =>
      ∃ t, ms = [.visit (witnessed event t)] := by
  refine (Work.Runs.onSite (.one (fun site => ((), site)) (fun _ => .event event) id
    fun _ => ⟨rfl, rfl, rfl⟩)).mono ?_
  rintro _ _ ⟨_, rfl, site, _, rfl⟩
  exact ⟨site.files, rfl⟩

/-- Every sink is offered the event, and after them the witness. -/
lemma offerAll_runs (event : Event) (r : Reporter σ) :
    Work.Runs (offerAll event r.watched) fun _ ms =>
      ∃ vs t, Offered event r vs ∧ ms = (vs ++ [witnessed event t]).map .visit := by
  induction r with
  | nil =>
    refine .bind (offer_witness_runs event) ?_
    rintro _ _ ⟨t, rfl⟩
    exact .pure ⟨[], t, .nil, rfl⟩
  | cons sink sinks ih =>
    refine .bind (offer_runs event sink) ?_
    rintro _ _ ⟨site, rfl⟩
    refine ih.mono ?_
    rintro _ _ ⟨vs, t, offered, rfl⟩
    exact ⟨_ :: vs, t, .cons site offered, rfl⟩

lemma report_runs (r : Reporter σ) (severity : Severity) (message : String) :
    Work.Runs (r.watched.report severity message) fun _ => Reported r severity message := by
  refine .bind (.log _) ?_
  rintro _ _ rfl
  refine .bind (.note _) ?_
  rintro _ _ rfl
  refine .bind .now ?_
  rintro time _ rfl
  refine (offerAll_runs _ r).mono ?_
  rintro _ _ ⟨vs, t, offered, rfl⟩
  exact ⟨time, vs, t, offered, rfl⟩

end Reporter

/-! ## Fetches -/

namespace Net

variable (n : Network σ) (accept : String)

/-- The visit that a network gets with the request for an address. -/
def askVisit (url : Url) (site : Site σ) : Visit :=
  .of (n { url := url.text, accept }) (.request { url := url.text, accept }) site

/-- The visits that are paid to the network from the request for an address on, and what the fetch
came to.  Only a redirection leads to another request. -/
inductive Asked : (redirects : Nat) → Url → Except String Response → List Visit → Prop where
  | unaskable {redirects : Nat} {url : Url} (ask : canAsk url = false) :
      Asked redirects url (.error (located notBuilt url)) []
  | refused {redirects : Nat} {url : Url} (site : Site σ) (ask : canAsk url = true)
      (answer : (n { url := url.text, accept } site).1 = .refused) :
      Asked redirects url (.error (notSent url)) [askVisit n accept url site]
  | silent {redirects : Nat} {url : Url} (site : Site σ) (ask : canAsk url = true)
      (answer : (n { url := url.text, accept } site).1 = .silent) :
      Asked redirects url (.error ("request timed out (" ++ notSent url ++ ")"))
        [askVisit n accept url site]
  | last {redirects : Nat} {url : Url} {r : Response} (site : Site σ) (ask : canAsk url = true)
      (answer : (n { url := url.text, accept } site).1 = .response r)
      (stays : nextUrl? url r = none) :
      Asked redirects url (.ok r) [askVisit n accept url site]
  | exhausted {url next : Url} {r : Response} (site : Site σ) (ask : canAsk url = true)
      (answer : (n { url := url.text, accept } site).1 = .response r)
      (more : nextUrl? url r = some next) :
      Asked 0 url (.error (located "error following redirect" url))
        [askVisit n accept url site]
  | redirected {redirects : Nat} {url next : Url} {r : Response} {result : Except String Response}
      {vs : List Visit} (site : Site σ) (ask : canAsk url = true)
      (answer : (n { url := url.text, accept } site).1 = .response r)
      (more : nextUrl? url r = some next) (rest : Asked redirects next.withoutUser result vs) :
      Asked (redirects + 1) url result
        (askVisit n accept url site :: vs)

/-- The visits of a fetch, and what it came to. -/
inductive Fetched (url : String) : Except String Response → List Visit → Prop where
  | noAddress (read : Url.read? url = none) : Fetched url (.error notBuilt) []
  | failed {address : Url} {reason : String} {vs : List Visit} (read : Url.read? url = some address)
      (asked : Asked n accept mostRedirects address.withoutUser (.error reason) vs) :
      Fetched url (.error reason) vs
  | answered {address : Url} {r : Response} {vs : List Visit} (read : Url.read? url = some address)
      (asked : Asked n accept mostRedirects address.withoutUser (.ok r) vs) :
      Fetched url r.success vs

/-- The visits of a fetch are requests. -/
lemma Asked.requests {n : Network σ} {accept : String} {redirects : Nat} {url : Url}
    {answer : Except String Response} {vs : List Visit}
    (h : Asked n accept redirects url answer vs) :
    ∀ v ∈ vs, ∃ request answer, v.exchange = .request request answer := by
  have ask : ∀ url site, ∃ request answer,
      (askVisit n accept url site).exchange = .request request answer :=
    fun _ _ => ⟨_, _, rfl⟩
  induction h with
  | unaskable => simp
  | refused | silent | last | exhausted => simp [ask]
  | redirected _ _ _ _ _ ih =>
    intro v mem
    rcases List.mem_cons.1 mem with rfl | mem
    · exact ask _ _
    · exact ih v mem

lemma Fetched.requests {n : Network σ} {accept url : String} {answer : Except String Response}
    {vs : List Visit} (h : Fetched n accept url answer vs) :
    ∀ v ∈ vs, ∃ request answer, v.exchange = .request request answer := by
  cases h with
  | noAddress => simp
  | failed _ asked => exact asked.requests
  | answered _ asked => exact asked.requests

lemma fetchFrom_visits (redirects : Nat) (url : Url) :
    VisitsOnly (fetchFrom (Network.watched n) accept redirects url)
      (Asked n accept redirects url) := by
  intro site
  induction redirects using Nat.strongRecOn generalizing url site with
  | _ redirects ih =>
    cases ask : canAsk url with
    | false =>
      rw [fetchFrom_of_not_canAsk ask]
      exact ⟨[], .nil _, by simp, .unaskable ask⟩
    | true =>
      -- the first visit is the same in all cases; they differ in what follows
      obtain ⟨after, seen⟩ : ∃ after, Network.watched n { url := url.text, accept } site
          = ((n { url := url.text, accept } site.bare).1, after) := ⟨_, rfl⟩
      have visit : after = (Network.watched n { url := url.text, accept } site).2 :=
        (congrArg Prod.snd seen).symm
      have files : after.files = (n { url := url.text, accept } site.bare).2.files := by
        rw [visit]; rfl
      have history : after.outside.history = site.outside.history
          ++ [askVisit n accept url site.bare] := by
        rw [visit]; rfl
      have linked : Linked site.files [askVisit n accept url site.bare]
          after.files := by
        rw [files]
        exact .cons (v := askVisit n accept url site.bare) (.nil _)
      cases answer : (n { url := url.text, accept } site.bare).1 with
      | refused =>
        rw [answer] at seen
        rw [fetchFrom_of_refused ask seen]
        exact ⟨_, linked, history, .refused site.bare ask answer⟩
      | silent =>
        rw [answer] at seen
        rw [fetchFrom_of_silent ask seen]
        exact ⟨_, linked, history, .silent site.bare ask answer⟩
      | response r =>
        rw [answer] at seen
        cases more : nextUrl? url r with
        | none =>
          rw [fetchFrom_of_last ask seen more]
          exact ⟨_, linked, history, .last site.bare ask answer more⟩
        | some next =>
          cases redirects with
          | zero =>
            rw [fetchFrom_of_exhausted ask seen more]
            exact ⟨_, linked, history, .exhausted site.bare ask answer more⟩
          | succ redirects =>
            rw [fetchFrom_of_redirected ask seen more]
            obtain ⟨vs, linked', history', asked⟩ :=
              ih redirects (Nat.lt_succ_self _) next.withoutUser after
            refine ⟨_ :: vs, ?_, ?_, .redirected site.bare ask answer more asked⟩
            · rw [files] at linked'
              exact .cons (v := askVisit n accept url site.bare) linked'
            · rw [history', history, List.append_assoc]
              rfl

lemma fetchSuccess_visits (url : String) :
    VisitsOnly (fetchSuccess (Network.watched n) accept url) (Fetched n accept url) := by
  intro site
  unfold fetchSuccess fetch
  cases read : Url.read? url with
  | none => exact ⟨[], .nil _, by simp, .noAddress read⟩
  | some address =>
    obtain ⟨vs, linked, history, asked⟩ :=
      fetchFrom_visits n accept mostRedirects address.withoutUser site
    refine ⟨vs, ?_⟩
    rcases come : fetchFrom (Network.watched n) accept mostRedirects address.withoutUser site
      with ⟨reason | r, after⟩
    · simp only [come] at linked history asked ⊢
      exact ⟨linked, history, .failed read asked⟩
    · simp only [come] at linked history asked ⊢
      exact ⟨linked, history, .answered read asked⟩

end Net

end SignedUpgrade
