import SignedUpgrade.Proofs.Upgrade.Session

/-!
# Answers decide

How a call ends is a matter of what the parties answer to what the updater does.  The sinks have no
say in it: whether and where events are kept decides nothing.

* `exchangesOf` — what passed between an updater and its parties;
* `outputsOf`, `answersTo` — the answers alone, of programs and to requests;
* `AnsweredAlike` — the version command and the feed give the same answers;
* `Net.Fetched.determined` — the answers of a network decide what a fetch comes to;
* `Prepared.determined` — the answers to the version command and to the feed decide what is done;
* `Updater.account_prepared` — a call fails or not as it was decided, if no installer is accepted.
-/

namespace SignedUpgrade

open Net

variable {σ : Type}

/-- What passed between an updater and its parties. -/
def exchangesOf (vs : List Visit) : List Exchange :=
  vs.map (·.exchange)

@[simp] lemma exchangesOf_cons (v : Visit) (vs : List Visit) :
    exchangesOf (v :: vs) = v.exchange :: exchangesOf vs := rfl

@[simp] lemma exchangesOf_append (vs us : List Visit) :
    exchangesOf (vs ++ us) = exchangesOf vs ++ exchangesOf us := by
  simp [exchangesOf]

/-- The answer of a program that was started with nothing but quoted arguments. -/
def Exchange.output? : Exchange → Option (Except Failure Output)
  | .command _ _ _ answer => some answer
  | _ => none

/-- The answer to a request for something that is accepted. -/
def Exchange.answerTo? (accept : String) : Exchange → Option Answer
  | .request asked answer => if asked.accept = accept then some answer else none
  | _ => none

/-- The answers of programs that were started with nothing but quoted arguments. -/
def outputsOf (vs : List Visit) : List (Except Failure Output) :=
  vs.filterMap (·.exchange.output?)

/-- The answers to requests for something that is accepted. -/
def answersTo (accept : String) (vs : List Visit) : List Answer :=
  vs.filterMap (·.exchange.answerTo? accept)

/-! ## The answers to a fetch -/

variable {n n' : Network σ} {accept : String} {vs vs' rest rest' : List Visit}

@[simp] lemma answersTo_askVisit (n : Network σ) (url : Url) (site : Site σ) (vs : List Visit) :
    answersTo accept (askVisit n accept url site :: vs)
      = (n { url := url.text, accept } site).1 :: answersTo accept vs :=
  List.filterMap_cons_some (if_pos rfl)

/-- The answers decide, one after the other, whether another request follows.  So they decide what
the fetch comes to, and the visits after it do not matter. -/
lemma Net.Asked.determined {redirects : Nat} {url : Url} {result result' : Except String Response}
    (h : Asked n accept redirects url result vs) (h' : Asked n' accept redirects url result' vs')
    (same : answersTo accept (vs ++ rest) = answersTo accept (vs' ++ rest')) :
    result = result' := by
  induction h generalizing vs' with
  | unaskable => cases h' <;> simp_all
  | refused | silent | last | exhausted => cases h' <;> simp_all
  | redirected site ask answer more asked ih =>
    cases h' with
    | redirected site' ask' answer' more' asked' =>
      simp only [List.cons_append, answersTo_askVisit, List.cons.injEq, answer, answer',
        Answer.response.injEq] at same
      obtain ⟨rfl, same⟩ := same
      rw [more] at more'
      cases more'
      exact ih asked' same
    | _ => simp_all

/-- A fetch comes to what its requests come to. -/
lemma Net.Fetched.asked {url : String} {address : Url} {answer : Except String Response}
    (h : Fetched n accept url answer vs) (read : Url.read? url = some address) :
    ∃ result, Asked n accept mostRedirects address.withoutUser result vs
      ∧ answer = result.bind Response.success := by
  cases h with
  | noAddress read' =>
    rw [read] at read'
    cases read'
  | failed read' asked =>
    rw [read] at read'
    cases read'
    exact ⟨_, asked, rfl⟩
  | answered read' asked =>
    rw [read] at read'
    cases read'
    exact ⟨_, asked, rfl⟩

/-- The answers of a network decide what a fetch comes to. -/
lemma Net.Fetched.determined {url : String} {answer answer' : Except String Response}
    (h : Fetched n accept url answer vs) (h' : Fetched n' accept url answer' vs')
    (same : answersTo accept (vs ++ rest) = answersTo accept (vs' ++ rest')) :
    answer = answer' := by
  cases read : Url.read? url with
  | none => cases h <;> cases h' <;> simp_all
  | some address =>
    obtain ⟨result, asked, rfl⟩ := h.asked read
    obtain ⟨result', asked', rfl⟩ := h'.asked read
    rw [asked.determined asked' same]

/-! ## The answers before an installation -/

/-- What is decided on an installed version and the answer of a feed. -/
def Resolver.decision (r : Resolver σ) (current : Version) :
    Except Failure Release → Except StepFailure Decision
  | .error f => .error ⟨.start, f⟩
  | .ok release => (release.decide r.pattern current).mapError fun f => ⟨.versionChecked, f⟩

variable {u u' : Updater σ} {result result' : Except StepFailure Decision} {ds ds' : List Deed}

lemma Prepared.decision (h : Prepared u result ds) : ∃ program site response vs,
    Fetched u.resolver.network Resolver.accept u.resolver.feedUrl response vs
      ∧ ds = preparationDeeds u program site vs
      ∧ result = u.resolver.decision (u.resolver.installed program site)
          (u.resolver.releaseOf response) := by
  cases h with
  | noRelease fetched release =>
    exact ⟨_, _, _, _, fetched, rfl, by rw [release]; rfl⟩
  | undecided fetched released decision =>
    refine ⟨_, _, _, _, fetched, rfl, ?_⟩
    rw [released, Resolver.decision, decision]
    rfl
  | decided fetched released decided =>
    refine ⟨_, _, _, _, fetched, rfl, ?_⟩
    rw [released, Resolver.decision, decided]
    rfl

/-- Two resolvers look for the same things at the same places. -/
structure Resolver.Alike (r r' : Resolver σ) : Prop where
  command : r.command = r'.command
  feedUrl : r.feedUrl = r'.feedUrl
  pattern : r.pattern = r'.pattern
  wording : r.wording = r'.wording

lemma Resolver.Alike.releaseOf_eq {r r' : Resolver σ} (alike : r.Alike r')
    (response : Except String Response) : r.releaseOf response = r'.releaseOf response := by
  simp only [Resolver.releaseOf, alike.feedUrl, alike.wording]

lemma Resolver.Alike.installed_eq {r r' : Resolver σ} (alike : r.Alike r') {program program' : Path}
    {site site' : Site σ}
    (same : (r.runner.run program ["--version"] (some versionLimit) site).1
      = (r'.runner.run program' ["--version"] (some versionLimit) site').1) :
    r.installed program site = r'.installed program' site' := by
  rw [Resolver.installed, Resolver.installed, Resolver.toldVersion, Resolver.toldVersion, same,
    alike.command]

/-- The version command and the feed give the same answers in two histories. -/
structure AnsweredAlike (vs vs' : List Visit) : Prop where
  version : outputsOf vs = outputsOf vs'
  feed : answersTo Resolver.accept vs = answersTo Resolver.accept vs'

instance (vs vs' : List Visit) : Decidable (AnsweredAlike vs vs') :=
  decidable_of_iff (outputsOf vs = outputsOf vs'
      ∧ answersTo Resolver.accept vs = answersTo Resolver.accept vs')
    ⟨fun h => ⟨h.1, h.2⟩, fun h => ⟨h.version, h.feed⟩⟩

/-- Reports have no say in it. -/
lemma AnsweredAlike.acts (h : AnsweredAlike vs vs') :
    AnsweredAlike (SignedUpgrade.acts vs) (SignedUpgrade.acts vs') := by
  have outputs : ∀ vs : List Visit, outputsOf (SignedUpgrade.acts vs) = outputsOf vs := by
    intro vs
    refine List.filterMap_filter.trans (List.filterMap_congr fun v _ => ?_)
    cases exchange : v.exchange <;> simp [Visit.isAct, Exchange.output?, exchange]
  have answers : ∀ vs : List Visit,
      answersTo Resolver.accept (SignedUpgrade.acts vs) = answersTo Resolver.accept vs := by
    intro vs
    refine List.filterMap_filter.trans (List.filterMap_congr fun v _ => ?_)
    cases exchange : v.exchange <;> simp [Visit.isAct, Exchange.answerTo?, exchange]
  refine ⟨?_, ?_⟩
  · rw [outputs, outputs, h.version]
  · rw [answers, answers, h.feed]

lemma outputsOf_commandVisit (r : Resolver σ) (program : Path) (site : Site σ) (vs : List Visit) :
    outputsOf (r.commandVisit program site :: vs)
      = (r.runner.run program ["--version"] (some Resolver.versionLimit) site).1 :: outputsOf vs :=
  rfl

lemma answersTo_commandVisit (r : Resolver σ) (program : Path) (site : Site σ) (vs : List Visit) :
    answersTo accept (r.commandVisit program site :: vs) = answersTo accept vs := rfl

/-- The answers to the version command and to the feed decide what is done. -/
lemma Prepared.determined (h : Prepared u result ds) (h' : Prepared u' result' ds')
    (alike : u.resolver.Alike u'.resolver)
    (same : AnsweredAlike (ds.flatMap (·.visits) ++ rest) (ds'.flatMap (·.visits) ++ rest')) :
    result = result' := by
  obtain ⟨program, site, response, vs, fetched, rfl, rfl⟩ := h.decision
  obtain ⟨program', site', response', vs', fetched', rfl, rfl⟩ := h'.decision
  rw [← alike.feedUrl] at fetched'
  obtain ⟨version, feed⟩ := same
  simp only [preparationDeeds, List.flatMap_cons, List.flatMap_nil, List.append_nil,
    List.cons_append, List.nil_append, outputsOf_commandVisit, List.cons.injEq] at version
  simp only [preparationDeeds, List.flatMap_cons, List.flatMap_nil, List.append_nil,
    List.cons_append, List.nil_append, answersTo_commandVisit] at feed
  rw [alike.installed_eq version.1, fetched.determined fetched' feed, alike.releaseOf_eq]
  cases u'.resolver.releaseOf response' with
  | error f => rfl
  | ok release => rw [Resolver.decision, Resolver.decision, alike.pattern]

/-! ## The end of a call -/

/-- A call is done well with a decision, if no installer is accepted: to check is to decide, and a
run has to find that nothing is to be done. -/
def Call.Succeeds : Call → Except StepFailure Decision → Prop
  | .check, .ok _ => True
  | .run, .ok (.noActionNeeded ..) => True
  | _, _ => False

/-- An executor accepts no installer. -/
def Executor.RefusesAll (e : Executor σ) : Prop :=
  ∀ path site, e.verdict path (e.inspector path site).1 ≠ .ok ()

/-- Without an inspector that accepts installers, none is installed. -/
lemma Executing.not_installed {e : Executor σ} (refuses : e.RefusesAll) {version : Version}
    {asset : Asset} {ms : List Mark} : ¬ Executing e version asset (.ok ()) ms := by
  intro h
  cases h with
  | staged _ stepping =>
    cases stepping with
    | installed _ verifying =>
      cases verifying with
      | accepted site verdict => exact refuses _ site verdict

variable {ms : List Mark}

lemma Resolving.prepared {answer : Except Failure Decision} (h : Resolving u answer ms) :
    ∃ result ds, answer = result.mapError (·.failure) ∧ Prepared u result ds
      ∧ acts (visitsOf ms) = ds.flatMap (·.visits) := by
  obtain ⟨result, ds, same, does, prepared⟩ := h.does
  exact ⟨result, ds, same, prepared, does.acts⟩

/-- A check ends as it was decided. -/
lemma Checking.prepared {answer : Except Failure Decision} (h : Checking u answer ms) :
    ∃ result ds, Prepared u result ds ∧ acts (visitsOf ms) = ds.flatMap (·.visits)
      ∧ ((∃ f, answer = .error f) ↔ ¬ Call.check.Succeeds result) := by
  cases h with
  | failed resolving =>
    obtain ⟨_ | _, ds, ⟨⟩, prepared, acts⟩ := resolving.prepared
    exact ⟨_, ds, prepared, acts, by simp [Call.Succeeds]⟩
  | decided resolving reported =>
    obtain ⟨_ | _, ds, ⟨⟩, prepared, acts⟩ := resolving.prepared
    refine ⟨_, ds, prepared, ?_, by simp [Call.Succeeds]⟩
    rw [visitsOf_append, acts_append, acts, (Does.reported (u := u) reported).acts]
    exact List.append_nil _

/-- How a run goes on from what was decided, and the trace of what it does then. -/
inductive Continues (u : Updater σ) :
    Except StepFailure Decision → Except Failure Outcome → List Mark → Prop where
  | undecided {f : StepFailure} : Continues u (.error f) (.error f.failure) []
  | upToDate {current latest : Version} :
      Continues u (.ok (.noActionNeeded current latest)) (.ok (.upToDate current latest)) []
  | notInstalled {current version : Version} {installer : Asset} {f : StepFailure}
      {ns : List Mark} (executing : Executing u.executor version installer (.error f) ns) :
      Continues u (.ok (.upgradeTo current version installer)) (.error f.failure) ns
  | installed {current version : Version} {installer : Asset} {ns : List Mark}
      (executing : Executing u.executor version installer (.ok ()) ns) :
      Continues u (.ok (.upgradeTo current version installer)) (.ok (.installed current version)) ns

/-- A run does what a decision is made on, and then what follows from the decision.  Behind that it
only reports. -/
lemma Running.continues {answer : Except Failure Outcome} (h : Running u answer ms) :
    ∃ result ds before ns after, ms = before ++ (ns ++ after) ∧ Prepared u result ds
      ∧ Does u before ds ∧ Continues u result answer ns ∧ Does u after [] := by
  cases h with
  | failed started resolving =>
    obtain ⟨_ | _, ds, ⟨⟩, does, prepared⟩ := resolving.does
    exact ⟨_, ds, _, [], [], by simp, prepared, (Does.reported started).append does, .undecided,
      .nothing rfl rfl⟩
  | @upToDate _ _ start ms told started resolving reported =>
    obtain ⟨_ | _, ds, ⟨⟩, does, prepared⟩ := resolving.does
    exact ⟨_, ds, start ++ ms, [], .enter .noActionNeeded :: told, by simp, prepared,
      (Does.reported started).append does, .upToDate, (Does.reported reported).cons rfl rfl⟩
  | @notInstalled _ _ _ _ start ms told ns ended started resolving reported executing aborting =>
    obtain ⟨_ | _, ds, ⟨⟩, does, prepared⟩ := resolving.does
    refine ⟨_, ds, start ++ (ms ++ (told ++ [.enter .downloading])), ns, ended, by simp, prepared,
      ?_, .notInstalled executing, aborting.does⟩
    simpa using (Does.reported started).append
      (does.append ((Does.reported reported).append (.nothing rfl rfl)))
  | @installed _ _ _ start ms told ns started resolving reported executing =>
    obtain ⟨_ | _, ds, ⟨⟩, does, prepared⟩ := resolving.does
    refine ⟨_, ds, start ++ (ms ++ (told ++ [.enter .downloading])), ns, [.enter .done], by simp,
      prepared, ?_, .installed executing, .nothing rfl rfl⟩
    simpa using (Does.reported started).append
      (does.append ((Does.reported reported).append (.nothing rfl rfl)))

/-- A run ends as it was decided, if no installer is accepted. -/
lemma Running.prepared (refuses : u.executor.RefusesAll) {answer : Except Failure Outcome}
    (h : Running u answer ms) :
    ∃ result ds rest, Prepared u result ds ∧ acts (visitsOf ms) = ds.flatMap (·.visits) ++ rest
      ∧ ((∃ f, answer = .error f) ↔ ¬ Call.run.Succeeds result) := by
  obtain ⟨result, ds, before, ns, after, rfl, prepared, does, continues, _⟩ := h.continues
  refine ⟨result, ds, acts (visitsOf (ns ++ after)), prepared, ?_, ?_⟩
  · rw [visitsOf_append, acts_append, does.acts]
  · cases continues with
    | undecided | upToDate | notInstalled => simp [Call.Succeeds]
    | installed executing => exact absurd executing (Executing.not_installed refuses)

/-- What is made of a result does not make a failure of it. -/
lemma exists_map_error_iff {ε α β : Type} {g : α → β} {r : Except ε α} :
    (∃ e, r.map g = .error e) ↔ ∃ e, r = .error e := by
  cases r with
  | error e => simp [Except.map]
  | ok a => simp [Except.map]

namespace Updater

/-- A call begins with what a decision is made on, and the decision tells how the call ends. -/
lemma account_prepared (u : Updater σ) (refuses : u.executor.RefusesAll) (w : World σ)
    (call : Call) : ∃ result ds rest, Prepared u result ds
      ∧ acts (u.account w call).1.visits = ds.flatMap (·.visits) ++ rest
      ∧ ((∃ f, (u.account w call).1.result = .error f) ↔ ¬ call.Succeeds result) := by
  cases call with
  | check =>
    obtain ⟨ms, traced, checking⟩ := u.check_traced w
    obtain ⟨result, ds, prepared, acts, ends⟩ := checking.prepared
    refine ⟨result, ds, [], prepared, ?_, ?_⟩
    · rw [account_check, traced.history, acts, List.append_nil]
    · rw [account_check, ← ends]
      exact exists_map_error_iff
  | run =>
    obtain ⟨ms, traced, running⟩ := u.run_traced w
    obtain ⟨result, ds, rest, prepared, acts, ends⟩ := running.prepared refuses
    refine ⟨result, ds, rest, prepared, ?_, ?_⟩
    · rw [account_run, traced.history, acts]
    · rw [account_run, ← ends]
      exact exists_map_error_iff

/-- **The answers decide how a call ends.**  Of two updaters that look for the same things and
accept no installer, a call of the one fails if and only if a call of the other does. -/
theorem account_determined {u u' : Updater σ} (alike : u.resolver.Alike u'.resolver)
    (refuses : u.executor.RefusesAll) (refuses' : u'.executor.RefusesAll) (w w' : World σ)
    (call : Call)
    (same : AnsweredAlike (u.account w call).1.visits (u'.account w' call).1.visits) :
    (∃ f, (u.account w call).1.result = .error f)
      ↔ ∃ f, (u'.account w' call).1.result = .error f := by
  obtain ⟨result, ds, rest, prepared, acts, ends⟩ := u.account_prepared refuses w call
  obtain ⟨result', ds', rest', prepared', acts', ends'⟩ := u'.account_prepared refuses' w' call
  have answered := same.acts
  rw [acts, acts'] at answered
  rw [ends, ends', prepared.determined prepared' alike answered]

end Updater

end SignedUpgrade
