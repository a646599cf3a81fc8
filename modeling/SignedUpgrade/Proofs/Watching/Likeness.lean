import SignedUpgrade.Proofs.Net.Fetching
import SignedUpgrade.Upgrade.Updater

/-!
# Runs side by side

Two updaters run side by side, each in a world of its own.  If their parties cannot tell the sites
of the one run from those of the other, then neither can the updaters: they take the same steps,
with the same results, and end in worlds that are again alike.

* `Likeness` — when a site of the one run looks like a site of the other;
* `Likeness.Worlds` — worlds that are alike;
* `Likeness.Works`, `Likeness.Steps` — steps that go alike, with a rule for each way to put steps
  together;
* `Likeness.Acts`, `Likeness.Looks`, `Likeness.Changes` — parties, looks at the files and changes of
  them that go alike.
-/

namespace SignedUpgrade

open Net Text

variable {σ τ : Type}

/-- When a site of one run looks like a site of another.  A line that both add to their logs makes
no difference. -/
structure Likeness (σ τ : Type) where
  sites : Site σ → Site τ → Prop
  logged : ∀ {s s'} (line : LogLine), sites s s' → sites (s.logged line) (s'.logged line)
  /-- The names for new directories that may be handed out. -/
  fresh : String → Prop := fun _ => True

namespace Likeness

variable (A : Likeness σ τ)

/-- Worlds are alike if their sites are, and all else is the same. -/
structure Worlds (w : World σ) (w' : World τ) : Prop where
  site : A.sites w.toSite w'.toSite
  clock : w'.clock = w.clock
  readings : w'.readings = w.readings
  names : w'.names = w.names
  namesUsed : w'.namesUsed = w.namesUsed
  state : w'.state = w.state
  journal : w'.journal = w.journal
  fresh : ∀ i, w.namesUsed ≤ i → A.fresh (w.names i)

/-- Steps go alike if they give the same result and lead from worlds that are alike to such
worlds. -/
def Works {β : Type} (m : Work σ β) (m' : Work τ β) : Prop :=
  ∀ w w', A.Worlds w w' → (m' w').1 = (m w).1 ∧ A.Worlds (m w).2 (m' w').2

/-- The same for steps that may fail. -/
def Steps {ε α : Type} (x : ExceptT ε (StateM (World σ)) α)
    (x' : ExceptT ε (StateM (World τ)) α) : Prop :=
  A.Works x.run x'.run

/-- Parties act alike if they give the same answer and lead from sites that are alike to such
sites. -/
def Acts {α : Type} (f : Site σ → α × Site σ) (f' : Site τ → α × Site τ) : Prop :=
  ∀ s s', A.sites s s' → (f' s').1 = (f s).1 ∧ A.sites (f s).2 (f' s').2

/-- Whoever looks at the files sees the same. -/
def Looks {α : Type} (look look' : FileTree → α) : Prop :=
  ∀ s s', A.sites s s' → look' s'.files = look s.files

/-- An operation on the files fails alike, or leaves sites that are alike. -/
def Changes (change : FileTree → Except IoFault FileTree) : Prop :=
  ∀ s s', A.sites s s' →
    (∃ t t', change s.files = .ok t ∧ change s'.files = .ok t'
      ∧ A.sites { s with files := t } { s' with files := t' })
    ∨ ∃ fault, change s.files = .error fault ∧ change s'.files = .error fault

variable {A} in
/-- What two parties that act alike do. -/
lemma Acts.cases {α : Type} {f : Site σ → α × Site σ} {f' : Site τ → α × Site τ}
    (h : A.Acts f f') {s : Site σ} {s' : Site τ} (alike : A.sites s s') :
    ∃ a t t', f s = (a, t) ∧ f' s' = (a, t') ∧ A.sites t t' := by
  obtain ⟨same, after⟩ := h s s' alike
  exact ⟨_, _, _, rfl, Prod.ext same rfl, after⟩

variable {A} in
lemma Changes.tryFiles {change : FileTree → Except IoFault FileTree} (h : A.Changes change) :
    A.Acts (·.tryFiles change) (·.tryFiles change) := by
  intro s s' alike
  unfold Site.tryFiles
  rcases h s s' alike with ⟨t, t', done, done', after⟩ | ⟨fault, failed, failed'⟩
  · simp only [done, done', true_and]
    exact after
  · simp only [failed, failed', true_and]
    exact alike

/-! ## Rules -/

variable {A}

namespace Works

variable {α β : Type}

lemma pure (b : β) : A.Works (Pure.pure b) (Pure.pure b) := fun _ _ alike => ⟨rfl, alike⟩

/-- Of the first result something may be known that the steps after it need. -/
lemma bindOf {Q : α → Prop} {m : Work σ α} {m' : Work τ α} {f : α → Work σ β} {g : α → Work τ β}
    (h : A.Works m m') (known : ∀ w w', A.Worlds w w' → Q (m w).1)
    (hf : ∀ a, Q a → A.Works (f a) (g a)) : A.Works (m >>= f) (m' >>= g) := by
  intro w w' alike
  obtain ⟨same, after⟩ := h w w' alike
  rw [bind_run, bind_run, same]
  exact hf _ (known w w' alike) _ _ after

lemma bind {m : Work σ α} {m' : Work τ α} {f : α → Work σ β} {g : α → Work τ β}
    (h : A.Works m m') (hf : ∀ a, A.Works (f a) (g a)) : A.Works (m >>= f) (m' >>= g) :=
  h.bindOf (Q := fun _ => True) (fun _ _ _ => trivial) fun a _ => hf a

/-- What is seen in the files is the same, even if the files are not. -/
lemma look {look : FileTree → α} {look' : FileTree → α} {f : α → Work σ β} {g : α → Work τ β}
    (h : A.Looks look look') (hf : ∀ a, A.Works (f a) (g a)) :
    A.Works (Work.files >>= fun t => f (look t)) (Work.files >>= fun t => g (look' t)) := by
  intro w w' alike
  have same : look' w'.files = look w.files := h _ _ alike.site
  change (g (look' w'.files) w').1 = (f (look w.files) w).1
    ∧ A.Worlds (f (look w.files) w).2 (g (look' w'.files) w').2
  rw [same]
  exact hf _ w w' alike

lemma onSite {f : Site σ → α × Site σ} {f' : Site τ → α × Site τ} (h : A.Acts f f') :
    A.Works (Work.onSite f) (Work.onSite f') := by
  intro w w' alike
  obtain ⟨same, after⟩ := h _ _ alike.site
  exact ⟨same, { alike with site := after }⟩

lemma log (line : LogLine) : A.Works (Work.log line) (Work.log line) :=
  onSite fun _ _ alike => ⟨rfl, A.logged line alike⟩

lemma debug (text : String) : A.Works (Work.debug text) (Work.debug text) :=
  log _

lemma note (n : Note) : A.Works (Work.note n) (Work.note n) := fun _ _ alike =>
  ⟨rfl, { alike with journal := congrArg (· ++ [n]) alike.journal }⟩

lemma enter (s : UpdateState) : A.Works (Work.enter s) (Work.enter s) :=
  (debug _).bind fun _ _ _ alike => ⟨rfl, { alike with state := rfl }⟩

lemma now : A.Works Work.now Work.now := fun _ _ alike =>
  ⟨congr alike.clock alike.readings, { alike with readings := congrArg (· + 1) alike.readings }⟩

lemma freshName : A.Works Work.freshName Work.freshName := fun _ _ alike =>
  ⟨congr alike.names alike.namesUsed, { alike with
    namesUsed := congrArg (· + 1) alike.namesUsed
    fresh := fun i later => alike.fresh i (Nat.le_of_succ_le later) }⟩

end Works

namespace Steps

variable {ε α β : Type}

lemma pure (a : α) : A.Steps (ε := ε) (Pure.pure a) (Pure.pure a) := fun _ _ alike => ⟨rfl, alike⟩

lemma throw (e : ε) : A.Steps (throw e : ExceptT ε (StateM (World σ)) α)
    (throw e : ExceptT ε (StateM (World τ)) α) := fun _ _ alike => ⟨rfl, alike⟩

lemma ofExcept (r : Except Failure α) :
    A.Steps (liftM r : Attempt σ α) (liftM r : Attempt τ α) := fun _ _ alike => ⟨rfl, alike⟩

lemma bind {x : ExceptT ε (StateM (World σ)) α} {x' : ExceptT ε (StateM (World τ)) α}
    {f : α → ExceptT ε (StateM (World σ)) β} {g : α → ExceptT ε (StateM (World τ)) β}
    (h : A.Steps x x') (hf : ∀ a, A.Steps (f a) (g a)) : A.Steps (x >>= f) (x' >>= g) := by
  refine Works.bind (f := ExceptT.bindCont f) (g := ExceptT.bindCont g) h fun r => ?_
  cases r with
  | ok a => exact hf a
  | error e => exact Works.pure _

lemma ite {c : Prop} [Decidable c] {x y : ExceptT ε (StateM (World σ)) α}
    {x' y' : ExceptT ε (StateM (World τ)) α} (hx : A.Steps x x') (hy : A.Steps y y') :
    A.Steps (if c then x else y) (if c then x' else y') := by
  split
  · exact hx
  · exact hy

lemma lift {m : Work σ α} {m' : Work τ α} (h : A.Works m m') :
    A.Steps (ε := ε) (ExceptT.lift m) (ExceptT.lift m') :=
  Works.bind h fun _ => Works.pure _

lemma look {look : FileTree → α} {look' : FileTree → α}
    {f : α → ExceptT ε (StateM (World σ)) β} {g : α → ExceptT ε (StateM (World τ)) β}
    (h : A.Looks look look') (hf : ∀ a, A.Steps (f a) (g a)) :
    A.Steps (ExceptT.lift Work.files >>= fun t => f (look t))
      (ExceptT.lift Work.files >>= fun t => g (look' t)) :=
  Works.look (f := fun a => (f a).run) (g := fun a => (g a).run) h hf

/-- A name that is handed out is one that may be. -/
lemma freshName {f : String → ExceptT ε (StateM (World σ)) β}
    {g : String → ExceptT ε (StateM (World τ)) β}
    (hf : ∀ name, A.fresh name → A.Steps (f name) (g name)) :
    A.Steps (ExceptT.lift Work.freshName >>= f) (ExceptT.lift Work.freshName >>= g) :=
  Works.bindOf (f := fun name => (f name).run) (g := fun name => (g name).run) .freshName
    (fun _ _ alike => alike.fresh _ (Nat.le_refl _)) hf

lemma onSite {f : Site σ → Except Failure α × Site σ} {f' : Site τ → Except Failure α × Site τ}
    (h : A.Acts f f') : A.Steps (Attempt.onSite f) (Attempt.onSite f') :=
  Works.onSite h

lemma onFiles {change : FileTree → Except IoFault FileTree} (h : A.Changes change) :
    A.Steps (Attempt.onFiles change) (Attempt.onFiles change) :=
  onSite h.tryFiles

lemma debug (text : String) : A.Steps (Attempt.debug text) (Attempt.debug text) :=
  lift (.debug _)

lemma note (n : Note) : A.Steps (Attempt.note n) (Attempt.note n) :=
  lift (.note _)

lemma enter (s : UpdateState) : A.Steps (Attempt.enter s) (Attempt.enter s) :=
  lift (.enter _)

end Steps

/-- What is removed may be gone before. -/
lemma Acts.removal {ε : Type} {change : FileTree → Except IoFault FileTree} (h : A.Changes change)
    (text : String) (bad : IoFault → ε) :
    A.Acts
      (fun s => match change s.files with
        | .ok files => (.ok (), { s with files }.debug text)
        | .error fault => if fault.kind = .notFound then (.ok (), s) else (.error (bad fault), s))
      (fun s => match change s.files with
        | .ok files => (Except.ok (), { s with files }.debug text)
        | .error fault =>
          if fault.kind = .notFound then (.ok (), s) else (.error (bad fault), s)) := by
  intro s s' alike
  rcases h s s' alike with ⟨t, t', done, done', after⟩ | ⟨fault, failed, failed'⟩
  · simp only [done, done', true_and]
    exact A.logged _ after
  · simp only [failed, failed']
    by_cases gone : fault.kind = .notFound
    · simp only [gone, if_true, true_and]
      exact alike
    · simp only [gone, if_false, true_and]
      exact alike

/-! ## Parties

A party that turns to others, such as a client that follows redirections, acts alike as soon as the
parties behind it do.
-/

/-- Reporters go alike with whatever they report. -/
def Reports (A : Likeness σ τ) (r : Reporter σ) (r' : Reporter τ) : Prop :=
  ∀ severity message, A.Works (r.report severity message) (r'.report severity message)

lemma offer {event : Event} {sink : Sink σ} {sink' : Sink τ} (name : sink'.name = sink.name)
    (h : A.Acts (sink.record event) (sink'.record event)) :
    A.Works (Reporter.offer event sink) (Reporter.offer event sink') := by
  refine .onSite fun s s' alike => ?_
  obtain ⟨answer, t, t', acted, acted', after⟩ := h.cases alike
  rw [name, acted, acted']
  cases answer with
  | ok => exact ⟨rfl, after⟩
  | error failure => exact ⟨rfl, A.logged _ after⟩

/-- A report goes as the offers of its event go. -/
lemma report {r : Reporter σ} {r' : Reporter τ} (h : ∀ event,
    A.Works (Reporter.offerAll event r) (Reporter.offerAll event r')) : A.Reports r r' :=
  fun _ _ => .bind (.log _) fun _ => .bind (.note _) fun _ => .bind .now fun _ => h _

lemma fetchFrom {n : Network σ} {n' : Network τ} (h : ∀ request, A.Acts (n request) (n' request))
    (accept : String) (redirects : Nat) (url : Url) :
    A.Acts (Net.fetchFrom n accept redirects url) (Net.fetchFrom n' accept redirects url) := by
  intro s s' alike
  induction redirects using Nat.strongRecOn generalizing url s s' with
  | _ redirects ih =>
    cases ask : canAsk url with
    | false =>
      rw [fetchFrom_of_not_canAsk ask, fetchFrom_of_not_canAsk ask]
      exact ⟨rfl, alike⟩
    | true =>
      obtain ⟨answer, t, t', seen, seen', next⟩ := (h { url := url.text, accept }).cases alike
      cases answer with
      | refused =>
        rw [fetchFrom_of_refused ask seen, fetchFrom_of_refused ask seen']
        exact ⟨rfl, next⟩
      | silent =>
        rw [fetchFrom_of_silent ask seen, fetchFrom_of_silent ask seen']
        exact ⟨rfl, next⟩
      | response r =>
        cases more : nextUrl? url r with
        | none =>
          rw [fetchFrom_of_last ask seen more, fetchFrom_of_last ask seen' more]
          exact ⟨rfl, next⟩
        | some url' =>
          cases redirects with
          | zero =>
            rw [fetchFrom_of_exhausted ask seen more, fetchFrom_of_exhausted ask seen' more]
            exact ⟨rfl, next⟩
          | succ redirects =>
            rw [fetchFrom_of_redirected ask seen more, fetchFrom_of_redirected ask seen' more]
            exact ih redirects (Nat.lt_succ_self _) url'.withoutUser t t' next

lemma fetchSuccess {n : Network σ} {n' : Network τ}
    (h : ∀ request, A.Acts (n request) (n' request)) (accept url : String) :
    A.Acts (Net.fetchSuccess n accept url) (Net.fetchSuccess n' accept url) := by
  intro s s' alike
  unfold Net.fetchSuccess fetch
  cases Url.read? url with
  | none => exact ⟨rfl, alike⟩
  | some url =>
    obtain ⟨answer, t, t', fetched, fetched', after⟩ :=
      (fetchFrom h accept mostRedirects url.withoutUser).cases alike
    simp only [fetched, fetched']
    cases answer with
    | error reason => exact ⟨rfl, after⟩
    | ok r => exact ⟨rfl, after⟩

lemma verified {i : Inspector σ} {i' : Inspector τ} (h : ∀ path, A.Acts (i path) (i' path))
    (trusted : TrustedKey) (path : Path) :
    A.Acts (i.verified trusted path) (i'.verified trusted path) := by
  intro s s' alike
  obtain ⟨answer, t, t', looked, looked', after⟩ := (h path).cases alike
  unfold Inspector.verified
  simp only [looked, looked']
  cases answer with
  | error failure => exact ⟨rfl, after⟩
  | ok report =>
    cases verdict : report.verify trusted path with
    | error failure =>
      simp only [verdict, true_and]
      exact after
    | ok =>
      simp only [verdict, true_and]
      exact A.logged _ after

end Likeness

end SignedUpgrade
