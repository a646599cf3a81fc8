import SignedUpgrade.Proofs.Watching.Alike
import SignedUpgrade.Proofs.Watching.Parties

/-!
# Watching changes nothing

A watched updater does what the updater itself does: it gives the same results, and leaves the same
world apart from the history.  So whatever is said about a history is said about the run of the
updater itself.

* `Likeness.bare` — a watched site looks like the site without the history;
* `Work.Mirrors`, `Steps.Mirrors` — watched steps mirror the steps themselves;
* `Updater.check_mirrors`, `Updater.run_mirrors` — the calls of a watched updater do;
* `Updater.run_eq_watched` — **a run is the same whether it is watched or not**.
-/

namespace SignedUpgrade

open Net Text

variable {σ : Type}

/-- Watched steps mirror others if they give the same result and leave the same world, apart from
the history. -/
def Work.Mirrors {β : Type} (m : Work (Watched σ) β) (m₀ : Work σ β) : Prop :=
  ∀ w : World (Watched σ), m₀ w.bare = ((m w).1, (m w).2.bare)

/-- Mirroring for steps that may fail. -/
def Steps.Mirrors {ε α : Type} (x : ExceptT ε (StateM (World (Watched σ))) α)
    (x₀ : ExceptT ε (StateM (World σ)) α) : Prop :=
  Work.Mirrors x.run x₀.run

/-! ## The likeness -/

namespace Likeness

/-- A watched site looks like the site without the history. -/
def bare : Likeness (Watched σ) σ where
  sites s s₀ := s₀ = s.bare
  logged line same := congrArg (·.logged line) same

lemma bare_worlds (w : World (Watched σ)) : bare.Worlds w w.bare :=
  ⟨rfl, rfl, rfl, rfl, rfl, rfl, rfl, fun _ _ => trivial⟩

lemma Worlds.eq_bare {w : World (Watched σ)} {w₀ : World σ} (h : bare.Worlds w w₀) :
    w₀ = w.bare := by
  obtain ⟨site, clock, readings, names, namesUsed, state, journal, _⟩ := h
  cases w₀
  subst site clock readings names namesUsed state journal
  rfl

/-- Steps that go alike mirror each other. -/
lemma Works.mirrors {β : Type} {m : Work (Watched σ) β} {m₀ : Work σ β} (h : bare.Works m m₀) :
    m.Mirrors m₀ := by
  intro w
  obtain ⟨same, after⟩ := h w w.bare (bare_worlds w)
  exact Prod.ext same after.eq_bare

lemma Steps.mirrors {ε α : Type} {x : ExceptT ε (StateM (World (Watched σ))) α}
    {x₀ : ExceptT ε (StateM (World σ)) α} (h : bare.Steps x x₀) : SignedUpgrade.Steps.Mirrors x x₀ :=
  Works.mirrors h

/-! ## Parties -/

/-- A watched party acts as the party itself. -/
lemma watch_acts {α : Type} (party : Site σ → α × Site σ) (exchange : α → Exchange) :
    bare.Acts (watch party exchange) party := by
  rintro s _ rfl
  exact ⟨rfl, rfl⟩

lemma bare_looks {α : Type} (look : FileTree → α) : (bare (σ := σ)).Looks look look := by
  rintro s _ rfl
  rfl

lemma bare_changes (change : FileTree → Except IoFault FileTree) :
    (bare (σ := σ)).Changes change := by
  rintro s _ rfl
  have same : s.bare.files = s.files := rfl
  rw [same]
  cases change s.files with
  | ok t => exact .inl ⟨t, t, rfl, rfl, rfl⟩
  | error fault => exact .inr ⟨fault, rfl, rfl⟩

lemma bare_stages (directory : Path) : (bare (σ := σ)).Stages directory where
  create := bare_changes _
  write _ _ := bare_changes _
  append _ _ _ := bare_changes _
  remove := bare_changes _

/-- The witness does nothing that can be seen without the history. -/
lemma offer_witness (event : Event) :
    bare.Works (Reporter.offer event (Sink.witness (σ := σ))) (pure ()) := by
  intro w w₀ alike
  obtain rfl := alike.eq_bare
  exact ⟨rfl, bare_worlds _⟩

lemma offerAll_watched (event : Event) (r : Reporter σ) :
    bare.Works (Reporter.offerAll event r.watched) (Reporter.offerAll event r) := by
  induction r with
  | nil => exact .bind (offer_witness event) fun _ => .pure _
  | cons sink sinks ih => exact .bind (offer rfl (watch_acts _ _)) fun _ => ih

lemma bare_reports (r : Reporter σ) : bare.Reports r.watched r :=
  report fun event => offerAll_watched event r

/-! ## Updaters -/

lemma bare_executors (e : Executor σ) : bare.Executors e.watched e where
  launch _ _ _ _ := watch_acts _ _
  network _ := watch_acts _ _
  inspector _ := watch_acts _ _
  reports := bare_reports _
  trustedKey := rfl
  installDirectory := rfl
  stagingParent := rfl
  uninstaller := bare_looks _
  leftover := bare_changes _
  staging _ _ := bare_stages _

lemma bare_resolvers (r : Resolver σ) : bare.Resolvers r.watched r where
  start _ _ _ := watch_acts _ _
  network _ := watch_acts _ _
  reports := bare_reports _
  command := rfl
  feedUrl := rfl
  pattern := rfl
  wording := rfl
  program := bare_looks _

lemma bare_updaters (u : Updater σ) : bare.Updaters u.watched u where
  resolver := bare_resolvers _
  executor := bare_executors _
  reports := bare_reports _

end Likeness

lemma Reporter.report_mirrors (r : Reporter σ) (severity : Severity) (message : String) :
    Work.Mirrors (r.watched.report severity message) (r.report severity message) :=
  (Likeness.bare_reports r severity message).mirrors

lemma Executor.execute_mirrors (e : Executor σ) (version : Version) (asset : Asset) :
    Work.Mirrors (e.watched.execute version asset) (e.execute version asset) :=
  ((Likeness.bare_executors e).execute version asset).mirrors

namespace Updater

variable (u : Updater σ)

/-- **A watched check is a check.** -/
lemma check_mirrors : Steps.Mirrors u.watched.check u.check :=
  (Likeness.bare_updaters u).check.mirrors

/-- **A watched run is a run.** -/
lemma run_mirrors : Steps.Mirrors u.watched.run u.run :=
  (Likeness.bare_updaters u).run.mirrors

/-- A run gives the same result, and leaves the same world, whether it is watched or not. -/
theorem run_eq_watched (w : World σ) :
    u.run.outcome w
      = ((u.watched.run.outcome w.watched).1, (u.watched.run.outcome w.watched).2.bare) :=
  u.run_mirrors w.watched

end Updater

end SignedUpgrade
