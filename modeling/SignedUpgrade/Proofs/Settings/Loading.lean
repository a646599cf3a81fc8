import SignedUpgrade.Proofs.Settings.Meaning

/-!
# Loading settings

A store is asked for the settings one by one, in the order in which they are documented.  Each of
them is read from what the store has under its own key, and the first one that cannot be read ends
the loading.

* `Store.finding` — what a store has for a setting when its turn comes;
* `Settings.loadFrom_reads` — the loop over the settings;
* `Settings.load_reads` — the main statement: when settings are loaded, which ones, and which
  failure it is that keeps them from being loaded.
-/

namespace SignedUpgrade

variable {σ : Type}

/-! ## Findings -/

namespace Store

variable (store : Store σ)

/-- The site when a store was asked for some settings. -/
def siteAfter (site : Site σ) (settings : List Setting) : Site σ :=
  settings.foldl (fun site setting => ((store.ask setting.key).run site).2) site

/-- What a store has for a setting when it was asked for all settings before it. -/
def finding (site : Site σ) (setting : Setting) : Finding :=
  ((store.ask setting.key).run
    (store.siteAfter site (Setting.all.takeWhile (· ≠ setting)))).1

variable {store}

lemma siteAfter_concat (site : Site σ) (before : List Setting) (setting : Setting) :
    store.siteAfter site (before ++ [setting])
      = ((store.ask setting.key).run (store.siteAfter site before)).2 := by
  rw [siteAfter, List.foldl_append]
  rfl

/-- The turn of a setting comes behind all before it. -/
lemma finding_eq (site : Site σ) {before more : List Setting} {setting : Setting}
    (whole : Setting.all = before ++ setting :: more) :
    store.finding site setting = ((store.ask setting.key).run (store.siteAfter site before)).1 := by
  have once : (before ++ setting :: more).Nodup := whole ▸ (by decide : Setting.all.Nodup)
  have others : ∀ b ∈ before, b ≠ setting := fun b mem same =>
    (List.nodup_append.1 once).2.2 b mem setting List.mem_cons_self same
  have first : Setting.all.takeWhile (· ≠ setting) = before := by
    rw [whole, List.takeWhile_append_of_pos (by simpa using others)]
    simp
  rw [finding, first]

end Store

/-! ## Loading -/

namespace Settings

variable {compile : Pattern.Compiler} {store : Store σ} {site : Site σ}

/-- The first of some settings that cannot be read, with what is wrong with it. -/
def FailsFirst (compile : Pattern.Compiler) (found : Setting → Finding) (settings : List Setting)
    (failure : Failure) : Prop :=
  ∃ before setting after, settings = before ++ setting :: after
    ∧ (∀ earlier ∈ before, earlier.Accepts compile (found earlier))
    ∧ setting.FailsWith compile (found setting) failure

variable {found : Setting → Finding} {setting : Setting} {settings : List Setting}
  {failure : Failure}

lemma FailsFirst.here (h : setting.FailsWith compile (found setting) failure) :
    FailsFirst compile found (setting :: settings) failure :=
  ⟨[], setting, settings, rfl, by simp, h⟩

lemma FailsFirst.later (accepts : setting.Accepts compile (found setting))
    (h : FailsFirst compile found settings failure) :
    FailsFirst compile found (setting :: settings) failure := by
  obtain ⟨before, failing, after, rfl, earlier, fails⟩ := h
  exact ⟨setting :: before, failing, after, rfl, List.forall_mem_cons.2 ⟨accepts, earlier⟩, fails⟩

lemma run_loadFrom_of_error {s : Settings} {next : Site σ}
    (asked : (store.ask setting.key).run site = (.error failure, next)) :
    (loadFrom compile store (setting :: settings) s).run site = (.error failure, next) := by
  rw [loadFrom, Asking.run_bind, asked]

lemma run_loadFrom_of_ok {s : Settings} {next : Site σ} {answer : Option String}
    (asked : (store.ask setting.key).run site = (.ok answer, next)) :
    (loadFrom compile store (setting :: settings) s).run site
      = match s.assign compile setting answer with
        | .error failure => (.error failure, next)
        | .ok s' => (loadFrom compile store settings s').run next := by
  rw [loadFrom, Asking.run_bind, asked]
  dsimp only
  rw [Asking.run_bind]
  cases s.assign compile setting answer <;> rfl

/-- **The loop over the settings.**  All of them are read, each from its own finding, and no others
change; or the first one that cannot be read fails. -/
lemma loadFrom_reads {before rest : List Setting} (whole : Setting.all = before ++ rest)
    (s : Settings) :
    (∃ s', ((loadFrom compile store rest s).run (store.siteAfter site before)).1 = .ok s'
      ∧ (∀ setting ∈ rest,
        Reads compile (s.value setting) (store.finding site setting) (s'.value setting))
      ∧ ∀ setting, setting ∉ rest → s'.value setting = s.value setting)
    ∨ ∃ failure,
      ((loadFrom compile store rest s).run (store.siteAfter site before)).1 = .error failure
      ∧ FailsFirst compile (store.finding site) rest failure := by
  induction rest generalizing before s with
  | nil => exact .inl ⟨s, rfl, by simp, fun _ _ => rfl⟩
  | cons setting rest ih =>
    have here : store.finding site setting
        = ((store.ask setting.key).run (store.siteAfter site before)).1 :=
      Store.finding_eq site whole
    have after : store.siteAfter site (before ++ [setting])
        = ((store.ask setting.key).run (store.siteAfter site before)).2 :=
      Store.siteAfter_concat site before setting
    have further : Setting.all = (before ++ [setting]) ++ rest := by simpa using whole
    have fresh : setting ∉ rest := by
      have once : (before ++ setting :: rest).Nodup := whole ▸ (by decide : Setting.all.Nodup)
      exact (List.nodup_cons.1 (List.nodup_append.1 once).2.1).1
    rcases asked : (store.ask setting.key).run (store.siteAfter site before) with
      ⟨failure | answer, next⟩
    · refine .inr ⟨failure, by rw [run_loadFrom_of_error asked], .here ?_⟩
      rw [here, asked]
      exact .failed failure
    · have found : store.finding site setting = .ok answer := by rw [here, asked]
      have reached : store.siteAfter site (before ++ [setting]) = next := by rw [after, asked]
      rw [run_loadFrom_of_ok asked]
      rcases s.assign_reads compile setting answer with
        ⟨value, taken, reads⟩ | ⟨failure, refused, fails⟩
      · rw [← found] at reads
        have others : ∀ other, other ≠ setting →
            (s.set setting value).value other = s.value other :=
          fun other ne => s.value_set_of_ne value ne
        rw [taken, ← reached]
        rcases ih further (s.set setting value) with
          ⟨s', loaded, all, kept⟩ | ⟨failure, stops, first⟩
        · refine .inl ⟨s', loaded, List.forall_mem_cons.2 ⟨?_, fun later mem => ?_⟩, ?_⟩
          · rw [kept setting fresh, value_set_self]
            exact reads
          · rw [← others later fun same => fresh (same ▸ mem)]
            exact all later mem
          · intro other absent
            obtain ⟨ne, absent⟩ := List.ne_and_not_mem_of_not_mem_cons absent
            rw [kept other absent, others other ne]
        · exact .inr ⟨failure, stops, first.later (exists_reads_iff.1 ⟨value, reads⟩)⟩
      · refine .inr ⟨failure, by rw [refused], .here ?_⟩
        rw [found]
        exact fails

/-- What is loaded is what the loop over all settings gives. -/
lemma load_eq (compile : Pattern.Compiler) (defaults : Settings) (store : Store σ) (site : Site σ) :
    ((load compile defaults store).run site).1
      = ((loadFrom compile store Setting.all defaults).run site).1 := by
  rw [load, Asking.run_bind]
  rcases (loadFrom compile store Setting.all defaults).run site with ⟨_ | _, _⟩
  · rfl
  · rfl

lemma load_cases (compile : Pattern.Compiler) (defaults : Settings) (store : Store σ)
    (site : Site σ) :
    (∃ s, ((load compile defaults store).run site).1 = .ok s ∧ ∀ setting,
      Reads compile (defaults.value setting) (store.finding site setting) (s.value setting))
    ∨ ∃ failure, ((load compile defaults store).run site).1 = .error failure
      ∧ FailsFirst compile (store.finding site) Setting.all failure := by
  have start : store.siteAfter site [] = site := rfl
  rw [load_eq, ← start]
  rcases loadFrom_reads (List.nil_append Setting.all).symm defaults with
    ⟨s, loaded, reads, _⟩ | fails
  · exact .inl ⟨s, loaded, fun setting => reads setting (by cases setting <;> decide)⟩
  · exact .inr fails

lemma load_eq_ok_iff {defaults s : Settings} {store : Store σ} {site : Site σ} :
    ((load compile defaults store).run site).1 = .ok s ↔ ∀ setting,
      Reads compile (defaults.value setting) (store.finding site setting) (s.value setting) := by
  constructor
  · intro loaded
    rcases load_cases compile defaults store site with ⟨s', loaded', reads⟩ | ⟨failure, fails, _⟩
    · rw [loaded] at loaded'
      cases loaded'
      exact reads
    · rw [loaded] at fails
      cases fails
  · intro reads
    rcases load_cases compile defaults store site with ⟨s', loaded, reads'⟩ | ⟨failure, _, first⟩
    · rw [loaded, ext_value fun setting => (reads' setting).unique (reads setting)]
    · obtain ⟨_, setting, _, _, _, fails⟩ := first
      exact absurd (exists_reads_iff.1 ⟨_, reads setting⟩) fails.not_accepts

/-- **Settings are loaded key by key.**  They are loaded if and only if what the store has under
each key can be read, and each setting is then what is read under its own key: the default value
where nothing is set, or where a blank text is, except that this turns the audit file off.  If they
are not loaded, the failure is that of the first setting, in the order in which they are documented,
that cannot be read.

So a setting does not depend on what the store has under the keys of others. -/
theorem load_reads (compile : Pattern.Compiler) (defaults : Settings) (store : Store σ)
    (site : Site σ) :
    ((∃ s, ((load compile defaults store).run site).1 = .ok s)
      ↔ ∀ setting : Setting, setting.Accepts compile (store.finding site setting))
    ∧ (∀ s, ((load compile defaults store).run site).1 = .ok s ↔ ∀ setting,
      Reads compile (defaults.value setting) (store.finding site setting) (s.value setting))
    ∧ (∀ failure, ((load compile defaults store).run site).1 = .error failure →
      FailsFirst compile (store.finding site) Setting.all failure)
    ∧ ∀ (other : Store σ) (site' : Site σ) (s s' : Settings) (setting : Setting),
      ((load compile defaults store).run site).1 = .ok s →
      ((load compile defaults other).run site').1 = .ok s' →
      store.finding site setting = other.finding site' setting →
        s.value setting = s'.value setting := by
  refine ⟨⟨?_, ?_⟩, fun s => load_eq_ok_iff, ?_, ?_⟩
  · rintro ⟨s, loaded⟩ setting
    exact exists_reads_iff.1 ⟨_, load_eq_ok_iff.1 loaded setting⟩
  · intro accepts
    rcases load_cases compile defaults store site with ⟨s, loaded, _⟩ | ⟨failure, _, first⟩
    · exact ⟨s, loaded⟩
    · obtain ⟨_, setting, _, _, _, fails⟩ := first
      exact absurd (accepts setting) fails.not_accepts
  · intro failure fails
    rcases load_cases compile defaults store site with ⟨s, loaded, _⟩ | ⟨failure', fails', first⟩
    · rw [fails] at loaded
      cases loaded
    · rw [fails] at fails'
      cases fails'
      exact first
  · intro other site' s s' setting loaded loaded' same
    have reads := load_eq_ok_iff.1 loaded setting
    rw [same] at reads
    exact reads.unique (load_eq_ok_iff.1 loaded' setting)

/-- A store in which three settings are wrong. -/
def thriceWrong : Store Unit :=
  .memory [("event_log", "maybe"), ("upgrade_api_url", " ftp://mirror.example.org "),
    ("installer_pattern", "[")]

/-- A compiler that takes no pattern with a bracket. -/
def noBrackets : Pattern.Compiler := fun text =>
  if text.toList.contains '[' then .error "unclosed character class" else .ok ⟨text, .nothing⟩

/-- Of three settings that are wrong, the one that is documented first is reported. -/
theorem load_reads_first :
    let site : Site Unit := { files := { entries := [] }, outside := () }
    let failure := Failure.configuration (.notHttp "upgrade_api_url" "ftp://mirror.example.org")
    ((load noBrackets (.withDefaults none) thriceWrong).run site).1 = .error failure
      ∧ FailsFirst noBrackets (thriceWrong.finding site) Setting.all failure := by
  intro site failure
  have fails : ((load noBrackets (.withDefaults none) thriceWrong).run site).1
      = .error failure := by rfl
  obtain ⟨_, _, first, _⟩ := load_reads noBrackets (.withDefaults none) thriceWrong site
  exact ⟨fails, first failure fails⟩

end Settings

end SignedUpgrade
