import SignedUpgrade.Settings.Sources
import Mathlib.Tactic.Lemma

/-!
# Asking for settings

The settings come from the environment and from a file.  Whoever asks for them reads, and writes a
few lines of the log; files and the outside are left alone.

* `Site.Logged` — the log of a site grew, and nothing else happened to it;
* `Asking.Logs` — steps that do no more than this, and what holds of their results;
* `Finding` — what a store has under a key;
* `Store.standard_logs`, `Settings.load_logs`, `Settings.loadAudit_logged` — all that is done to
  find the settings.
-/

namespace SignedUpgrade

variable {σ : Type}

/-- The log of a site grew, and nothing else happened to it. -/
def Site.Logged (site site' : Site σ) : Prop :=
  ∃ lines, site' = { site with log := site.log ++ lines }

namespace Site.Logged

variable {site site' site'' : Site σ}

lemma refl (site : Site σ) : Logged site site :=
  ⟨[], by simp⟩

lemma trans (h : Logged site site') (h' : Logged site' site'') : Logged site site'' := by
  obtain ⟨lines, rfl⟩ := h
  obtain ⟨more, rfl⟩ := h'
  exact ⟨lines ++ more, by simp⟩

lemma debug (site : Site σ) (text : String) : Logged site (site.debug text) :=
  ⟨[_], rfl⟩

end Site.Logged

/-- Steps one after the other: the later ones are left out where the first ones fail. -/
lemma Asking.run_bind {α β : Type} (x : Asking σ α) (f : α → Asking σ β) (site : Site σ) :
    (x >>= f).run site = match x.run site with
      | (.ok a, site') => (f a).run site'
      | (.error e, site') => (.error e, site') := by
  simp only [Bind.bind, ExceptT.bind, ExceptT.mk, ExceptT.run, StateT.bind, ExceptT.bindCont]
  rcases x site with ⟨_ | _, _⟩
  · rfl
  · rfl

/-- Steps do no more than write to the log, and what they give has a property. -/
def Asking.Logs {α : Type} (x : Asking σ α) (Q : α → Prop) : Prop :=
  ∀ site, site.Logged (x.run site).2 ∧ ∀ a, (x.run site).1 = .ok a → Q a

namespace Asking.Logs

variable {α β : Type} {Q : α → Prop} {R : β → Prop}

lemma pure {a : α} (h : Q a) : Logs (Pure.pure a : Asking σ α) Q := by
  refine fun site => ⟨.refl site, ?_⟩
  rintro _ ⟨⟩
  exact h

lemma throw {f : Failure} : Logs (throw f : Asking σ α) Q :=
  fun site => ⟨.refl site, fun _ h => by cases h⟩

lemma ofExcept {r : Except Failure α} (h : ∀ a, r = .ok a → Q a) :
    Logs (liftM r : Asking σ α) Q :=
  fun site => ⟨.refl site, h⟩

lemma get : Logs (MonadState.get : Asking σ (Site σ)) fun _ => True :=
  fun site => ⟨.refl site, fun _ _ => trivial⟩

lemma debug (text : String) : Logs (modify (·.debug text) : Asking σ Unit) fun _ => True :=
  fun site => ⟨.debug site text, fun _ _ => trivial⟩

lemma bind {x : Asking σ α} {f : α → Asking σ β} (h : Logs x Q) (rest : ∀ a, Q a → Logs (f a) R) :
    Logs (x >>= f) R := by
  intro site
  obtain ⟨logged, holds⟩ := h site
  rw [run_bind]
  rcases goes : x.run site with ⟨failure | a, site'⟩
  · rw [goes] at logged
    exact ⟨logged, fun _ h => by cases h⟩
  · rw [goes] at logged
    obtain ⟨logged', holds'⟩ := rest a (holds a (by rw [goes])) site'
    exact ⟨logged.trans logged', holds'⟩

end Asking.Logs

/-! ## Stores -/

/-- What a store has under a key, or the failure to find out. -/
abbrev Finding := Except Failure (Option String)

/-- A store that does no more than write to the log when it is asked. -/
def Store.IsQuiet (store : Store σ) : Prop :=
  ∀ key, Asking.Logs (store.ask key) fun _ => True

namespace Store

lemma environment_isQuiet (e : Environment) (start : String) :
    (environment e start : Store σ).IsQuiet :=
  fun _ => .pure trivial

lemma table_isQuiet (values : List (String × Toml.Value)) : (table values : Store σ).IsQuiet := by
  intro key
  unfold table
  dsimp only
  cases values.lookup key with
  | none => exact .pure trivial
  | some value => exact .ofExcept fun _ _ => trivial

lemma askInOrder_logs (key : String) {stores : List (Store σ)} (quiet : ∀ s ∈ stores, s.IsQuiet)
    (blank : Option String) : Asking.Logs (askInOrder key blank stores) fun _ => True := by
  induction stores generalizing blank with
  | nil => exact .pure trivial
  | cons store stores ih =>
    have later := ih fun s mem => quiet s (List.mem_cons_of_mem _ mem)
    refine .bind (quiet store List.mem_cons_self key) ?_
    rintro (_ | value) -
    · exact later blank
    · dsimp only
      split
      · exact later _
      · exact .bind (.debug _) fun _ _ => .pure trivial

lemma layered_isQuiet {stores : List (Store σ)} (quiet : ∀ s ∈ stores, s.IsQuiet) :
    (layered stores).IsQuiet :=
  fun key => askInOrder_logs key quiet none

lemma ofFile_logs (parse : Toml.Reader) (path : Path) :
    Asking.Logs (ofFile parse path : Asking σ (Store σ)) IsQuiet := by
  refine .bind .get fun site _ => ?_
  split
  · split
    · exact .throw
    · split
      · exact .throw
      · exact .bind (.debug _) fun _ _ => .pure (table_isQuiet _)
  · exact .bind (.debug _) fun _ _ => .pure (table_isQuiet _)

/-- The sources of settings are opened, and asked later, without touching anything. -/
lemma standard_logs (parse : Toml.Reader) (d : Directories) (e : Environment)
    (path : Option Path) : Asking.Logs (standard parse d e path : Asking σ (Store σ)) IsQuiet := by
  have ours : (e.store : Store σ).IsQuiet := environment_isQuiet _ _
  have layers : Asking.Logs (standardLayers parse d e path : Asking σ (List (Store σ)))
      fun stores => ∀ s ∈ stores, s.IsQuiet := by
    unfold standardLayers
    split
    · exact .pure (by simpa using ours)
    · exact .bind (ofFile_logs _ _) fun file quiet => .pure (by simpa using ⟨ours, quiet⟩)
  exact .bind layers fun stores quiet => .pure (layered_isQuiet quiet)

end Store

lemma Environment.store_isQuiet (e : Environment) : (e.store : Store σ).IsQuiet :=
  Store.environment_isQuiet _ _

/-! ## Settings -/

namespace Settings

variable {store : Store σ} (quiet : store.IsQuiet)
include quiet

lemma loadFrom_logs (compile : Pattern.Compiler) (settings : List Setting) (s : Settings) :
    Asking.Logs (loadFrom compile store settings s) fun _ => True := by
  induction settings generalizing s with
  | nil => exact .pure trivial
  | cons setting more ih =>
    exact .bind (quiet _) fun answer _ =>
      .bind (.ofExcept (Q := fun _ => True) fun _ _ => trivial) fun s _ => ih s

lemma load_logs (compile : Pattern.Compiler) (defaults : Settings) :
    Asking.Logs (load compile defaults store) fun _ => True :=
  .bind (loadFrom_logs quiet _ _ _) fun _ _ => .bind (.debug _) fun _ _ => .pure trivial

lemma tryLoad_logged (setting : Setting) (take : Settings → String → Settings) (s : Settings)
    (site : Site σ) : site.Logged (tryLoad store setting take s site).2 :=
  (quiet setting.key site).1

lemma loadAudit_logged (defaults : Settings) (site : Site σ) :
    site.Logged (loadAudit defaults store site).2 := by
  rw [loadAudit, bind_run]
  exact (tryLoad_logged quiet _ _ _ site).trans (tryLoad_logged quiet _ _ _ _)

end Settings

end SignedUpgrade
