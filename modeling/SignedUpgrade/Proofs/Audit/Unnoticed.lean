import SignedUpgrade.Proofs.Audit.Archive
import SignedUpgrade.Proofs.Audit.Rounds
import SignedUpgrade.Proofs.Upgrade.Ascent

/-!
# Auditing goes unnoticed

Events are reported to any number of sinks, and each sink may fail at any of them.  Whatever the
sinks are and whatever they answer, an update goes the same way; and whatever a sink answers, the
sinks beside it are offered every event.

* `Updater.reportingTo` — an updater with other sinks;
* `Archive.Ignored`, `Archive.Apart` — an updater whose parties do not read what sinks keep, and
  whose directories are none of theirs;
* `Archive.Unnoticed` — two calls that only their sinks can tell apart;
* `Reporter.reportAll`, `OfferedAll` — reports one after the other, and the visits that they pay;
* `Updater.audit_unnoticed` — the main statement.
-/

namespace SignedUpgrade

open Net Text

variable {σ ρ : Type}

/-! ## Another reporter, the same updater -/

/-- An updater that reports to other sinks. -/
def Updater.reportingTo (u : Updater σ) (r : Reporter σ) : Updater σ where
  resolver := { u.resolver with reporter := r }
  executor := { u.executor with reporter := r }
  reporter := r

/-- Settings make the same updater for other sinks, or none for the same reason. -/
lemma Updater.ofSettings_reporter (s : Settings) (p : Parties σ) (r : Reporter σ) :
    ofSettings s { p with reporter := r } = (ofSettings s p).map (·.reportingTo r) := by
  unfold ofSettings
  dsimp only
  cases p.connect s.feedTimeout with
  | error reason => rfl
  | ok feed =>
    cases p.connect s.downloadTimeout with
    | error reason => rfl
    | ok installers => rfl

namespace Archive

variable (a : Archive σ ρ)

/-- The parties of an updater do not read the archive, and neither does the look for the program
that tells the version. -/
structure Ignored (u : Updater σ) : Prop where
  start : ∀ program arguments limit, a.likeness.Acts
    (u.resolver.runner.run program arguments limit) (u.resolver.runner.run program arguments limit)
  feed : ∀ request, a.likeness.Acts (u.resolver.network request) (u.resolver.network request)
  program : a.likeness.Looks (·.program? u.resolver.searchPath u.resolver.command)
    (·.program? u.resolver.searchPath u.resolver.command)
  launch : ∀ program arguments tail limit, a.likeness.Acts
    (u.executor.runner.runWithTail program arguments tail limit)
    (u.executor.runner.runWithTail program arguments tail limit)
  download : ∀ request, a.likeness.Acts (u.executor.network request) (u.executor.network request)
  inspector : ∀ path, a.likeness.Acts (u.executor.inspector path) (u.executor.inspector path)

/-- Nothing of the archive is in the directories that an updater works in. -/
structure Apart (u : Updater σ) (w : World σ) : Prop where
  fits : a.Fits w.files
  installation : a.KeepsOff u.executor.installDirectory
  /-- Whichever fresh name is handed out. -/
  staging : ∀ i, w.namesUsed ≤ i → a.KeepsOff (u.executor.stagingDirectory (w.names i))

/-! ## Watched sites

The calls to the outside are those in the history.  So watched sites are alike if the sites are and
the same calls were made so far; what sinks were offered is no such call.
-/

/-- Watched sites that are the same but for the archive and for what sinks were offered. -/
structure AlikeSoFar (s s' : Site (Watched σ)) : Prop where
  bare : a.Alike s.bare s'.bare
  calls : exchangesOf (acts s'.outside.history) = exchangesOf (acts s.outside.history)

variable {a} {s s' s'' : Site (Watched σ)}

namespace AlikeSoFar

lemma refl (h : a.Fits s.files) : a.AlikeSoFar s s :=
  ⟨.refl h, rfl⟩

lemma symm (h : a.AlikeSoFar s s') : a.AlikeSoFar s' s :=
  ⟨h.bare.symm, h.calls.symm⟩

lemma trans (h : a.AlikeSoFar s s') (h' : a.AlikeSoFar s' s'') : a.AlikeSoFar s s'' :=
  ⟨h.bare.trans h'.bare, h'.calls.trans h.calls⟩

end AlikeSoFar

/-- Watched sites of an updater look alike.  Names are fresh if what is called by them is off the
archive. -/
def watched (a : Archive σ ρ) (e : Executor σ) : Likeness (Watched σ) (Watched σ) where
  sites := a.AlikeSoFar
  logged line alike := ⟨alike.bare.logged line, alike.calls⟩
  fresh name := a.KeepsOff (e.stagingDirectory name)

variable {e : Executor σ}

/-- A visit that is paid in either history is a call in both of them or in neither. -/
lemma calls_concat {vs vs' : List Visit} {v v' : Visit} (same : v'.exchange = v.exchange)
    (calls : exchangesOf (acts vs') = exchangesOf (acts vs)) :
    exchangesOf (acts (vs' ++ [v'])) = exchangesOf (acts (vs ++ [v])) := by
  have act : v'.isAct = v.isAct := by rw [Visit.isAct, Visit.isAct, same]
  rw [acts_append, acts_append, exchangesOf_append, exchangesOf_append, calls, acts_cons, acts_cons,
    act]
  cases v.isAct <;> simp [same]

lemma watch_acts {α : Type} {party : Site σ → α × Site σ} (h : a.likeness.Acts party party)
    (exchange : α → Exchange) :
    (a.watched e).Acts (watch party exchange) (watch party exchange) := by
  intro s s' alike
  obtain ⟨answer, t, t', acted, acted', after⟩ := h.cases alike.bare
  unfold watch
  simp only [acted, acted', true_and]
  exact ⟨after, calls_concat rfl alike.calls⟩

/-! ## Reports on watched sites -/

/-- A visit that is no call changes nothing that matters. -/
lemma AlikeSoFar.visited (h : a.AlikeSoFar s s') {site : Site σ} (after : a.Alike s'.bare site)
    {v : Visit} (idle : v.isAct = false) :
    a.AlikeSoFar s { files := site.files,
                     outside := { inner := site.outside, history := s'.outside.history ++ [v] },
                     log := site.log } := by
  refine ⟨h.bare.trans after, ?_⟩
  rw [acts_append, acts_cons, idle]
  simpa using h.calls

/-- An event that is offered to sinks that keep to the archive changes nothing that matters. -/
lemma Holds.offerAll {r : Reporter σ} (h : a.Holds r) (event : Event) {w : World (Watched σ)}
    (fits : a.Fits w.files) :
    ∃ site, (Reporter.offerAll event r.watched w).2 = { w with toSite := site }
      ∧ a.AlikeSoFar w.toSite site := by
  refine Reporter.offerAll_site event r.watched w (P := a.AlikeSoFar w.toSite)
    (fun _ _ alike => ⟨alike.bare.logged_right _, alike.calls⟩) ?_ (.refl fits)
  intro sink mem site alike
  rcases List.mem_append.1 mem with mem | mem
  · obtain ⟨sink, known, rfl⟩ := List.mem_map.1 mem
    exact alike.visited (h sink known event site.bare alike.bare.right) rfl
  · rw [List.mem_singleton.1 mem]
    exact alike.visited (.refl alike.bare.right) rfl

/-- Reports to different sinks go alike. -/
lemma reports {r r' : Reporter σ} (h : a.Holds r) (h' : a.Holds r') :
    (a.watched e).Reports r.watched r'.watched := by
  refine Likeness.report fun event w w' alike => ⟨rfl, ?_⟩
  obtain ⟨site, after, same⟩ := h.offerAll event alike.site.bare.left
  obtain ⟨site', after', same'⟩ := h'.offerAll event alike.site.bare.right
  rw [after, after']
  exact { alike with site := same.symm.trans (alike.site.trans same') }

/-! ## Files on watched sites -/

lemma watched_changes {change : FileTree → Except IoFault FileTree}
    (h : a.likeness.Changes change) : (a.watched e).Changes change := by
  intro s s' alike
  rcases h s.bare s'.bare alike.bare with ⟨t, t', done, done', after⟩ | ⟨fault, failed, failed'⟩
  · exact .inl ⟨t, t', done, done', after, alike.calls⟩
  · exact .inr ⟨fault, failed, failed'⟩

lemma watched_looks {α : Type} {look : FileTree → α} (h : a.likeness.Looks look look) :
    (a.watched e).Looks look look :=
  fun s s' alike => h s.bare s'.bare alike.bare

lemma KeepsOff.stages {dir : Path} (h : a.KeepsOff dir) : (a.watched e).Stages dir where
  create := watched_changes h.create
  write _ safe := watched_changes (h.write (AssetName.isName_of_isSafe safe) [])
  append _ piece safe := watched_changes (h.append (AssetName.isName_of_isSafe safe) piece)
  remove := watched_changes h.removeAll

/-! ## Calls -/

variable {u : Updater σ} {r r' : Reporter σ} {w : World σ}

lemma resolvers (parties : a.Ignored u) (h : a.Holds r) (h' : a.Holds r') :
    (a.watched e).Resolvers (u.reportingTo r).watched.resolver
      (u.reportingTo r').watched.resolver where
  start _ _ _ := watch_acts (parties.start _ _ _) _
  network _ := watch_acts (parties.feed _) _
  reports := reports h h'
  command := rfl
  feedUrl := rfl
  pattern := rfl
  wording := rfl
  program := watched_looks parties.program

lemma executors (parties : a.Ignored u) (apart : a.KeepsOff u.executor.installDirectory)
    (h : a.Holds r) (h' : a.Holds r') :
    (a.watched u.executor).Executors (u.reportingTo r).watched.executor
      (u.reportingTo r').watched.executor where
  launch _ _ _ _ := watch_acts (parties.launch _ _ _ _) _
  network _ := watch_acts (parties.download _) _
  inspector _ := watch_acts (parties.inspector _) _
  reports := reports h h'
  trustedKey := rfl
  installDirectory := rfl
  stagingParent := rfl
  uninstaller := watched_looks (looks (apart.join ⟨by decide, by decide⟩))
  leftover := watched_changes (apart.removeFile ⟨by decide, by decide⟩)
  staging _ fresh := fresh.stages

lemma updaters (parties : a.Ignored u) (apart : a.KeepsOff u.executor.installDirectory)
    (h : a.Holds r) (h' : a.Holds r') :
    (a.watched u.executor).Updaters (u.reportingTo r).watched (u.reportingTo r').watched where
  resolver := resolvers parties h h'
  executor := executors parties apart h h'
  reports := reports h h'

/-- Two calls that only their sinks can tell apart. -/
structure Unnoticed (a : Archive σ ρ) (u : Updater σ) (w : World σ) (x y : Account × World σ) :
    Prop where
  result : y.1.result = x.1.result
  state : y.1.state = x.1.state
  /-- The same calls were made to the outside, with the same answers, in the same order. -/
  calls : exchangesOf (acts y.1.visits) = exchangesOf (acts x.1.visits)
  installation : ∀ l, u.executor.installDirectory.place w.files.workingDirectory <+: l →
    y.2.files.get? l = x.2.files.get? l
  staging : ∀ i l, w.namesUsed ≤ i →
    (u.executor.stagingDirectory (w.names i)).place w.files.workingDirectory <+: l →
    y.2.files.get? l = x.2.files.get? l
  /-- All else is the same as well, but for what the sinks keep. -/
  others : a.likeness.Worlds x.2 y.2

/-- The account of steps that were watched, and the world that they leave behind. -/
def told {α : Type} (steps : Attempt (Watched σ) α) (reply : α → Reply) (w : World σ) :
    Account × World σ :=
  let (r, w') := steps.outcome w.watched
  ({ result := r.map reply, visits := w'.history, state := w'.state }, w'.bare)

/-- Steps that go alike cannot be told apart. -/
lemma unnoticed_of_steps {α : Type} {x y : Attempt (Watched σ) α} (apart : a.Apart u w)
    (goes : (a.watched u.executor).Steps x y) (reply : α → Reply) :
    a.Unnoticed u w (told x reply w) (told y reply w) := by
  have start : (a.watched u.executor).Worlds w.watched w.watched :=
    ⟨.refl apart.fits, rfl, rfl, rfl, rfl, rfl, rfl, apart.staging⟩
  obtain ⟨same, after⟩ := goes w.watched w.watched start
  have files := after.site.bare.files
  have outside : ∀ {dir : Path} (l : Location), a.KeepsOff dir →
      dir.place w.files.workingDirectory <+: l →
      (y.run w.watched).2.files.get? l = (x.run w.watched).2.files.get? l := by
    intro dir l off within
    rw [apart.fits.workingDirectory] at within
    exact files.same l (off.inside l within).1
  refine ⟨?_, after.state, after.site.calls, fun l => outside l apart.installation,
    fun i l later => outside l (apart.staging i later), ?_⟩
  · exact congrArg (Except.map reply) same
  · exact ⟨after.site.bare, after.clock, after.readings, after.names, after.namesUsed, after.state,
      after.journal, fun _ _ => trivial⟩

lemma account_check (u : Updater σ) (w : World σ) :
    u.account w .check = told u.watched.check .decided w := by
  have mirrors : u.check.outcome w = ((u.watched.check.outcome w.watched).1,
      (u.watched.check.outcome w.watched).2.bare) := u.check_mirrors w.watched
  rw [Updater.account_check, mirrors, told, Updater.checkHistory]
  generalize u.watched.check.outcome w.watched = ended
  rfl

lemma account_run (u : Updater σ) (w : World σ) :
    u.account w .run = told u.watched.run .ended w := by
  rw [Updater.account_run, u.run_eq_watched w, told, Updater.history]
  generalize u.watched.run.outcome w.watched = ended
  rfl

/-- Whatever the sinks are, a call goes the same way. -/
lemma unnoticed (parties : a.Ignored u) (apart : a.Apart u w) (h : a.Holds r) (h' : a.Holds r')
    (c : Call) : a.Unnoticed u w ((u.reportingTo r).account w c)
      ((u.reportingTo r').account w c) := by
  have alike := updaters parties apart.installation h h'
  cases c with
  | check =>
    rw [account_check, account_check]
    exact unnoticed_of_steps apart alike.check _
  | run =>
    rw [account_run, account_run]
    exact unnoticed_of_steps apart alike.run _

end Archive

/-- **Auditing cannot influence an update, and no sink can influence another.**

Let the sinks keep to an archive that no party of an updater reads and that is apart from its
directories.  Then a call gives the same result, ends in the same state, makes the same calls to the
outside in the same order and leaves the same directories, whatever the sinks are and whatever they
answer to any event.

And whatever is reported, every sink is offered every event once and in order, all of them the same
event, whatever any of them answers; so a sink that keeps events in memory, which no other sink
changes, ends up with what was reported, wherever it stands. -/
theorem Updater.audit_unnoticed (a : Archive σ ρ) (u : Updater σ) (w : World σ)
    (parties : a.Ignored u) (apart : a.Apart u w) :
    (∀ r r', a.Holds r → a.Holds r' → ∀ c,
      a.Unnoticed u w ((u.reportingTo r).account w c) ((u.reportingTo r').account w c))
    ∧ ∀ (r : Reporter σ) (reports : List (Severity × String)) (w : World σ),
      OfferedAll r (Reporter.eventsAt w.clock w.readings reports)
        (r.watched.reportAll reports w.watched).2.history
      ∧ ∀ (before after : Reporter σ) (add : Event → σ → σ) (kept : σ → List Event),
        r = before ++ .memory add :: after →
        (∀ event o, kept (add event o) = kept o ++ [event]) →
        (∀ sink ∈ before ++ after, ∀ event site,
          kept (sink.record event site).2.outside = kept site.outside) →
        kept (r.reportAll reports w).2.outside
          = kept w.outside ++ Reporter.eventsAt w.clock w.readings reports := by
  refine ⟨fun r r' h h' c => Archive.unnoticed parties apart h h' c, fun r reports w => ⟨?_, ?_⟩⟩
  · obtain ⟨vs, history, offered⟩ := r.reportAll_offered reports w.watched
    have new : (r.watched.reportAll reports w.watched).2.history = vs := history
    rw [new]
    exact offered
  · rintro before after add kept rfl adds others
    exact Reporter.reportAll_memory adds others reports w

/-! ## An update with a sink that fails -/

/-- An updater that is offered version 2.0.0 and whose installer leaves an uninstaller behind.  None
of its parties reads what is kept in memory. -/
def Updater.installing : Updater (List Event) where
  resolver := {
    runner := { run := fun _ _ _ site => (.ok { code := some 0, stdout := "certbot 1.0.0" }, site) }
    network := fun _ site => (.response .second, site)
    reporter := []
    command := "certbot"
    feedUrl := "http://localhost/latest"
    pattern := (Pattern.read? "exe").getD default
    wording := fun _ _ => "no release" }
  executor := {
    runner := {
      run := fun program _ _ site => (.error (.processLaunchFailed program.text "not there"), site)
      runWithTail := fun _ _ _ _ site => (.ok { code := some 0 },
        (site.tryFiles fun t => t.write (Path.join "/opt/certbot" "uninstall.exe") []).2) }
    network := fun _ site => (.response { status := 200 }, site)
    inspector := fun _ site =>
      (.ok { status := .valid, message := "", subject := none, signerKey := some [1] }, site)
    reporter := []
    trustedKey := ⟨[1]⟩
    installDirectory := "/opt/certbot"
    stagingParent := "/tmp" }
  reporter := []

/-- A sink that refuses every event. -/
def Sink.refusing : Sink (List Event) where
  name := "file"
  record _ site := (.error (.io .denied), site)

/-- Three kinds of sinks, of which the second one fails. -/
def Reporter.mixed : Reporter (List Event) :=
  [.file "/var/log/audit.log", .refusing, .memory fun event events => events ++ [event]]

/-- A world with a directory for logs. -/
def World.logging : World (List Event) where
  files := {
    entries := [(["var"], .directory), (["opt"], .directory), (["opt", "certbot"], .directory)] }
  outside := []
  names _ := "1"

/-- The archive of these sinks. -/
def Archive.logs : Archive (List Event) Unit :=
  .inDirectory [] ["var", "log"] fun _ => ()

namespace Archive

lemma ignored_installing : logs.Ignored .installing where
  start _ _ _ _ _ alike := ⟨rfl, alike⟩
  feed _ _ _ alike := ⟨rfl, alike⟩
  program _ _ _ := by
    have plain : ¬ 1 < (Path.components "certbot").length := by decide +kernel
    simp [FileTree.program?, Updater.installing, plain]
  launch _ _ _ _ s s' alike := by
    have off : logs.KeepsOff "/opt/certbot" :=
      keepsOff_inDirectory (by decide +kernel) (by decide +kernel)
    have named : Path.IsName "uninstall.exe" := ⟨by decide, by decide⟩
    have wrote := (off.write named []).tryFiles s s' alike
    exact ⟨rfl, wrote.2⟩
  download _ _ _ alike := ⟨rfl, alike⟩
  inspector _ _ _ alike := ⟨rfl, alike⟩

lemma apart_installing : logs.Apart .installing .logging where
  fits := by
    refine ⟨rfl, fun l stands => ?_⟩
    have above : l ∈ [[], ["var"], ["var", "log"]] := (List.mem_inits _ _).2 stands.1
    simp only [List.mem_cons, List.not_mem_nil, or_false] at above
    rcases above with rfl | rfl | rfl
    · rfl
    · rfl
    · exact absurd rfl stands.2
  installation := keepsOff_inDirectory (by decide +kernel) (by decide +kernel)
  staging _ _ := by
    change logs.KeepsOff (Updater.installing.executor.stagingDirectory "1")
    exact keepsOff_inDirectory (by decide +kernel) (by decide +kernel)

lemma holds_mixed : logs.Holds .mixed := by
  intro sink mem
  simp only [Reporter.mixed, List.mem_cons, List.not_mem_nil, or_false] at mem
  rcases mem with rfl | rfl | rfl
  · exact file_keepsTo_inDirectory (by decide +kernel)
  · exact fun _ _ fits => .refl fits
  · exact Sink.memory_keepsTo fun _ _ => rfl

end Archive

/-- The update succeeds with and without these sinks, and the one that stands behind the failing one
keeps what is reported. -/
theorem Updater.audit_unnoticed_mixed :
    ((installing.reportingTo .mixed).account .logging .run).1.result
        = .ok (.ended (.installed ⟨1, 0, 0⟩ ⟨2, 0, 0⟩))
      ∧ Archive.logs.Unnoticed installing .logging
        ((installing.reportingTo []).account .logging .run)
        ((installing.reportingTo .mixed).account .logging .run)
      ∧ (Reporter.mixed.reportAll [(.warning, "one"), (.error, "two")] .logging).2.outside
        = [⟨.epoch, .warning, "one"⟩, ⟨.epoch, .error, "two"⟩] := by
  have all := audit_unnoticed Archive.logs installing .logging Archive.ignored_installing
    Archive.apart_installing
  have unnoticed := all.1 [] .mixed (by simp [Archive.Holds]) Archive.holds_mixed .run
  have installed : ((installing.reportingTo []).run.outcome .logging).1
      = .ok (.installed ⟨1, 0, 0⟩ ⟨2, 0, 0⟩) := by decide +kernel
  refine ⟨?_, unnoticed, ?_⟩
  · rw [unnoticed.result, account_run, installed]
    rfl
  · refine ((all.2 .mixed [(.warning, "one"), (.error, "two")] .logging).2
      [.file "/var/log/audit.log", .refusing] [] _ id rfl (fun _ _ => rfl) ?_)
    intro sink mem event site
    simp only [List.append_nil, List.mem_cons, List.not_mem_nil, or_false] at mem
    rcases mem with rfl | rfl
    · exact Sink.file_outside _ _ _
    · rfl

end SignedUpgrade
