import SignedUpgrade.Proofs.Release.VersionFinding
import SignedUpgrade.Proofs.Release.VersionOrder
import SignedUpgrade.Proofs.Upgrade.Answers

/-!
# Installed versions only go up

A version is installed only over a lower one.  And it is installed once: as soon as the version
command tells that it is there, a release of it leads to nothing.

* `Prints`, `Updater.Meets` — what the version command prints in a run, and the release that the run
  meets;
* `Updater.OnlyLooks` — a run that asks for the two versions and does nothing else;
* `Occasion`, `ReportsLast` — runs in a row, in which the version command reports what was installed
  last;
* `Updater.installs_upwards` — the main statement: no run installs a lower version, none installs a
  version again that is reported, and so the versions that are installed in a row increase.
-/

namespace SignedUpgrade

open Net

variable {σ : Type}

/-! ## What a run is told -/

/-- The version command, which is the first act of a run, ends with exit code 0 and prints a text on
standard output. -/
def Prints (history : List Visit) (text : String) : Prop :=
  ∃ command rest program output, acts history = command :: rest
    ∧ command.exchange = .command program ["--version"] (some Resolver.versionLimit) (.ok output)
    ∧ output.code = some 0 ∧ output.stdout = text

/-- The version command reports a version, with anything around it that leaves it to be found. -/
def Reports (history : List Visit) (v : Version) : Prop :=
  ∃ before after, Surrounds before after ∧ Prints history (before ++ v.text ++ after)

namespace Updater

variable (u : Updater σ)

/-- The feed, which is asked right after the version command, tells a release. -/
def Meets (history : List Visit) (release : Release) : Prop :=
  ∃ command vs rest response, acts history = command :: (vs ++ rest)
    ∧ Fetched u.resolver.network Resolver.accept u.resolver.feedUrl response vs
    ∧ u.resolver.releaseOf response = .ok release

/-- A run asks for the installed version and for the latest release, and does nothing else: nothing
but the version command is launched, and no request is made but those to the feed.  Its journal
tells the same. -/
def OnlyLooks (w : World σ) : Prop :=
  ∃ program site vs response, acts (u.history w) = u.resolver.commandVisit program site :: vs
    ∧ Fetched u.resolver.network Resolver.accept u.resolver.feedUrl response vs
    ∧ ∃ notes, (u.run.outcome w).2.journal = w.journal ++ notes
      ∧ actionsOf notes = [.versionCommand program, .feedRequest u.resolver.feedUrl]

end Updater

/-! ## From what a run is told to how it ends -/

variable {u : Updater σ} {w : World σ}

/-- A run decides on what the version command and the feed tell, and goes on as it decided.  If it
does not go on at all, it has only looked. -/
lemma Updater.run_decides (u : Updater σ) (w : World σ) :
    ∃ program site vs rest response ns,
      acts (u.history w) = u.resolver.commandVisit program site :: (vs ++ rest)
        ∧ Fetched u.resolver.network Resolver.accept u.resolver.feedUrl response vs
        ∧ Continues u (u.resolver.decision (u.resolver.installed program site)
            (u.resolver.releaseOf response)) (u.run.outcome w).1 ns
        ∧ (ns = [] → u.OnlyLooks w) := by
  obtain ⟨ms, traced, running⟩ := u.run_traced w
  obtain ⟨_, _, first, ns, last, rfl, prepared, does, continues, quiet⟩ := running.continues
  obtain ⟨program, site, response, vs, fetched, rfl, rfl⟩ := prepared.decision
  have visits : acts (u.history w)
      = u.resolver.commandVisit program site :: (vs ++ acts (visitsOf ns)) := by
    rw [traced.history]
    simp [does.acts, quiet.acts, preparationDeeds]
  refine ⟨program, site, vs, _, response, ns, visits, fetched, continues, ?_⟩
  rintro rfl
  refine ⟨program, site, vs, response, ?_, fetched, _, traced.journal, ?_⟩
  · simpa using visits
  · simp [does.journal, quiet.journal, preparationDeeds]

/-- The output of a program that ends with exit code 0 passes. -/
lemma Output.check_of_ended {output : Output} (command : String) (code : output.code = some 0) :
    output.check command = .ok output := by
  simp [Output.check, Output.succeeded, code]

/-- A version on standard output is what a program that ends well tells. -/
lemma Resolver.versionOf_of_stdout {command : String} {output : Output} {v : Version}
    (code : output.code = some 0) (found : Version.extract output.stdout = .ok v) :
    Resolver.versionOf command output = .ok v := by
  rw [Resolver.versionOf, output.check_of_ended command code]
  simp only [bind, Except.bind, found]

/-- The version that is reported is the one that the run takes for the installed one. -/
lemma Reports.installed_eq {r : Resolver σ} {history rest : List Visit} {v : Version}
    {program : Path} {site : Site σ} (h : Reports history v)
    (first : acts history = r.commandVisit program site :: rest) :
    r.installed program site = v := by
  obtain ⟨before, after, around, _, _, _, output, first', seen, code, stdout⟩ := h
  rw [first] at first'
  obtain ⟨rfl, -⟩ := List.cons.inj first'
  simp only [Resolver.commandVisit, Visit.of, Exchange.command.injEq] at seen
  have told : r.toldVersion program site = .ok v := by
    rw [Resolver.toldVersion, seen.2.2.2]
    exact Resolver.versionOf_of_stdout code (by rw [stdout, Version.extract_around around])
  rw [Resolver.installed, told]

/-- The release that a run meets is the one that it decides on. -/
lemma Updater.Meets.releaseOf_eq {history vs rest : List Visit} {release : Release} {first : Visit}
    {response : Except String Response} (h : u.Meets history release)
    (acts_ : acts history = first :: (vs ++ rest))
    (fetched : Fetched u.resolver.network Resolver.accept u.resolver.feedUrl response vs) :
    u.resolver.releaseOf response = .ok release := by
  obtain ⟨_, vs', rest', response', acts', fetched', released⟩ := h
  rw [acts_] at acts'
  obtain ⟨-, same⟩ := List.cons.inj acts'
  rw [fetched.determined fetched' (congrArg (answersTo Resolver.accept) same)]
  exact released

/-- The version of the release is installed over the one that was taken for the installed one, and
this is lower. -/
lemma Continues.installed_lt {r : Resolver σ} {current previous version : Version}
    {answer : Except Failure Release} {ns : List Mark}
    (h : Continues u (r.decision current answer) (.ok (.installed previous version)) ns) :
    previous = current ∧ previous.numbers < version.numbers
      ∧ ∀ release, answer = .ok release → version = Version.extractOrUnknown release.tag := by
  generalize decided : r.decision current answer = result at h
  cases h with
  | installed executing =>
    cases answer with
    | error f => cases decided
    | ok release =>
      rw [Resolver.decision] at decided
      cases decision : release.decide r.pattern current with
      | error f =>
        rw [decision] at decided
        cases decided
      | ok other =>
        rw [decision] at decided
        cases decided
        obtain ⟨same, tagged, less⟩ := Release.decide_upgradeTo decision
        refine ⟨same, less, ?_⟩
        rintro _ ⟨⟩
        exact tagged

/-- A version is installed only over a lower one, which is the one that is reported if one is.  It
is the version of the release that is met. -/
lemma Updater.previous_lt {previous version : Version}
    (h : (u.run.outcome w).1 = .ok (.installed previous version)) :
    previous.numbers < version.numbers ∧ (∀ v, Reports (u.history w) v → previous = v)
      ∧ ∀ release, u.Meets (u.history w) release →
        version = Version.extractOrUnknown release.tag := by
  obtain ⟨program, site, vs, rest, response, ns, first, fetched, continues, _⟩ := u.run_decides w
  rw [h] at continues
  obtain ⟨rfl, less, tagged⟩ := continues.installed_lt
  exact ⟨less, fun v reports => reports.installed_eq first,
    fun release meets => tagged release (meets.releaseOf_eq first fetched)⟩

/-- A release of the version that is reported leads to nothing. -/
lemma Updater.upToDate_of_reports {v : Version} {release : Release}
    (reports : Reports (u.history w) v) (meets : u.Meets (u.history w) release)
    (tagged : Version.extract release.tag = .ok v) :
    (u.run.outcome w).1 = .ok (.upToDate v v) ∧ u.OnlyLooks w := by
  obtain ⟨program, site, vs, rest, response, ns, first, fetched, continues, looks⟩ :=
    u.run_decides w
  rw [reports.installed_eq first, meets.releaseOf_eq first fetched, Resolver.decision,
    Release.decide_of_same tagged] at continues
  generalize (u.run.outcome w).1 = answer at continues
  cases continues with
  | upToDate => exact ⟨rfl, looks rfl⟩

/-! ## Runs in a row -/

/-- An updater and the world in which it is asked to run.  Between two runs anything can happen. -/
structure Occasion (σ : Type) where
  updater : Updater σ
  world : World σ

namespace Occasion

/-- The visits of the run. -/
def history (o : Occasion σ) : List Visit :=
  o.updater.history o.world

/-- The version that the run installs, if it does. -/
def installed? (o : Occasion σ) : Option Version :=
  match (o.updater.run.outcome o.world).1 with
  | .ok (.installed _ version) => some version
  | _ => none

lemma of_installed? {o : Occasion σ} {version : Version} (h : o.installed? = some version) :
    ∃ previous, (o.updater.run.outcome o.world).1 = .ok (.installed previous version) := by
  unfold installed? at h
  split at h
  · cases h
    exact ⟨_, ‹_›⟩
  · cases h

end Occasion

/-- In runs in a row, the version command reports the version that was installed last, as soon as
there is one. -/
def ReportsLast : Option Version → List (Occasion σ) → Prop
  | _, [] => True
  | last, o :: os => (∀ v, last = some v → Reports o.history v)
    ∧ ReportsLast (o.installed?.or last) os

/-- What is installed comes behind what was installed last, and behind all that is installed in
between. -/
lemma ReportsLast.ascends {last : Option Version} {os : List (Occasion σ)}
    (h : ReportsLast last os) :
    (os.filterMap Occasion.installed?).Pairwise (·.numbers < ·.numbers)
      ∧ ∀ v, last = some v → ∀ x ∈ os.filterMap Occasion.installed?, v.numbers < x.numbers := by
  induction os generalizing last with
  | nil => simp
  | cons o os ih =>
    obtain ⟨reports, later⟩ := h
    cases installs : o.installed? with
    | none =>
      rw [installs, Option.none_or] at later
      rw [List.filterMap_cons_none installs]
      exact ih later
    | some version =>
      rw [installs, Option.some_or] at later
      rw [List.filterMap_cons_some installs]
      obtain ⟨pairwise, behind⟩ := ih later
      obtain ⟨previous, installed⟩ := Occasion.of_installed? installs
      obtain ⟨less, reported, _⟩ := Updater.previous_lt installed
      refine ⟨List.pairwise_cons.2 ⟨behind version rfl, pairwise⟩, ?_⟩
      rintro v rfl x mem
      have first : v.numbers < version.numbers := by
        rw [← reported v (reports v rfl)]
        exact less
      rcases List.mem_cons.1 mem with rfl | mem
      · exact first
      · exact first.trans (behind version rfl x mem)

/-- **Installed versions only go up.**  A run installs a version only over a lower one.  A run whose
version command reports a version finds nothing to do about a release of that version: it asks for
the two and does nothing else.  So over runs in a row, with any feeds and any other parties, in
which the version command reports what was installed last, every installed version is higher than
all before it. -/
theorem Updater.installs_upwards :
    (∀ (u : Updater σ) (w : World σ) (previous version : Version),
      (u.run.outcome w).1 = .ok (.installed previous version) →
        previous.numbers < version.numbers ∧ version ≠ .unknown)
    ∧ (∀ (u : Updater σ) (w : World σ) (v : Version) (before after : String) (release : Release),
      Surrounds before after → Prints (u.history w) (before ++ v.text ++ after) →
      u.Meets (u.history w) release → Version.extract release.tag = .ok v →
        (u.run.outcome w).1 = .ok (.upToDate v v) ∧ u.OnlyLooks w)
    ∧ ∀ runs : List (Occasion σ), ReportsLast none runs →
      (runs.filterMap Occasion.installed?).Pairwise (·.numbers < ·.numbers) := by
  refine ⟨?_, ?_, ?_⟩
  · intro u w previous version installed
    obtain ⟨less, _⟩ := previous_lt installed
    exact ⟨less, Version.ne_unknown_of_lt less⟩
  · intro u w v before after release around prints meets tagged
    exact upToDate_of_reports ⟨before, after, around, prints⟩ meets tagged
  · intro runs reports
    exact reports.ascends.1

/-! ## An installation and the run after it -/

/-- Where every request is answered with success, the answer is what a fetch comes to. -/
lemma Net.Fetched.of_answers {n : Network σ} {accept url : String} {r : Response}
    {answer : Except String Response} {vs : List Visit} (h : Fetched n accept url answer vs)
    (answers : ∀ url site, (n { url, accept } site).1 = .response r)
    (askable : (Url.read? url).map (fun address => canAsk address.withoutUser) = some true)
    (stays : isRedirect r.status = false) (success : isSuccess r.status = true) :
    answer = .ok r := by
  obtain ⟨address, read, ask⟩ := Option.map_eq_some_iff.1 askable
  obtain ⟨result, asked, rfl⟩ := h.asked read
  have arrived : result = .ok r := by
    cases asked with
    | unaskable no =>
      rw [ask] at no
      cases no
    | refused site _ answer | silent site _ answer =>
      rw [answers] at answer
      cases answer
    | last site _ answer =>
      rw [answers] at answer
      cases answer
      rfl
    | redirected site _ answer more =>
      rw [answers] at answer
      cases answer
      simp [nextUrl?, stays] at more
  rw [arrived]
  simp [Except.bind, Response.success, success]

/-- A runner whose programs all succeed and print a version. -/
def Runner.telling (v : Version) : Runner Unit where
  run _ _ _ site := (.ok { code := some 0, stdout := "certbot " ++ v.text ++ "\n" }, site)
  runWithTail _ _ _ _ site := (.ok { code := some 0 }, site)

/-- Version 2.0.0. -/
def Version.second : Version := ⟨2, 0, 0⟩

/-- A release of it, with one installer. -/
def Release.second : Release where
  tag := "v" ++ Version.second.text ++ ""
  assets := [⟨"setup.exe", "http://localhost/setup.exe"⟩]

/-- The response that tells this release. -/
def Net.Response.second : Response where
  status := 200
  body := { chunks := [Text.Utf8.encode Release.second.json] }

/-- An updater that is offered this release, where a version is installed already. -/
def Updater.offered (v : Version) : Updater Unit where
  resolver := {
    runner := .telling v
    network := fun _ site => (.response .second, site)
    reporter := []
    command := "certbot"
    feedUrl := "http://localhost/latest"
    pattern := (Pattern.read? "exe").getD default
    wording := fun _ _ => "no release" }
  executor := {
    runner := .telling v
    network := fun _ site => (.response .second, site)
    inspector := fun _ site =>
      (.ok { status := .valid, message := "", subject := none, signerKey := some [1] }, site)
    reporter := []
    trustedKey := ⟨[1]⟩
    installDirectory := "/opt/certbot"
    stagingParent := "/tmp" }
  reporter := []

/-- A run of this updater in a world without files. -/
def Occasion.offered (v : Version) : Occasion Unit where
  updater := .offered v
  world := { files := { entries := [] }, outside := (), names := fun _ => "1" }

namespace Occasion

variable (v : Version)

/-- A text below U+0660 without ASCII digits has no digit in it. -/
lemma no_digits {text : String} (low : text.toList.all (fun c => c.toNat < 0x660 && !c.isDigit)) :
    ∀ c ∈ text.toList, Text.isDecimal c = false := by
  intro c mem
  have here := List.all_eq_true.1 low c mem
  simp only [Bool.and_eq_true, decide_eq_true_eq, Bool.not_eq_true'] at here
  rw [isDecimal_of_lt here.1, here.2]

lemma surrounds_offered : Surrounds "certbot " "\n" := by
  refine ⟨no_digits (by decide), ?_⟩
  rintro _ ⟨⟩
  decide

lemma offered_prints : Prints (offered v).history ("certbot " ++ v.text ++ "\n") := by
  obtain ⟨program, _, _, _, _, _, first, _⟩ := (Updater.offered v).run_decides (offered v).world
  exact ⟨_, _, program, _, first, rfl, rfl, rfl⟩

/-- The release is read back from its document. -/
lemma ofBody_second : Release.ofBody (Text.Utf8.encode Release.second.json) = .ok .second := by
  have read : (Release.ofBody (Text.Utf8.encode Release.second.json)).toOption
      = some Release.second := by decide +kernel
  cases told : Release.ofBody (Text.Utf8.encode Release.second.json) with
  | error fault =>
    rw [told] at read
    cases read
  | ok release =>
    rw [told] at read
    rw [← Option.some.inj read]

lemma offered_meets : (Updater.offered v).Meets (offered v).history Release.second := by
  obtain ⟨_, _, vs, rest, response, _, first, fetched, _⟩ :=
    (Updater.offered v).run_decides (offered v).world
  have askable : (Url.read? "http://localhost/latest").map (fun address =>
      canAsk address.withoutUser) = some true := by decide +kernel
  have arrived : response = .ok .second :=
    fetched.of_answers (fun _ _ => rfl) askable (by decide) (by decide)
  refine ⟨_, vs, rest, response, first, fetched, ?_⟩
  have whole : Response.second.body.content? = some (Text.Utf8.encode Release.second.json) :=
    congrArg some (List.append_nil _)
  rw [arrived]
  simp only [Resolver.releaseOf, whole, ofBody_second]

lemma extract_second : Version.extract Release.second.tag = .ok .second :=
  Version.extract_around ⟨no_digits (by decide), by rintro _ ⟨⟩⟩ .second

/-- All that can be installed is the version of the release. -/
lemma installed?_offered {installed : Version} (h : (offered v).installed? = some installed) :
    installed = .second := by
  obtain ⟨previous, outcome⟩ := of_installed? h
  obtain ⟨_, _, tagged⟩ := Updater.previous_lt outcome
  rw [tagged _ (offered_meets v), Version.extractOrUnknown_of_extract extract_second]

end Occasion

/-- A version that is reported is not installed again: the run finds nothing to do about its release
and only looks.  So a run from version 1.0.0 on and the run after it are in order. -/
theorem Updater.installs_upwards_once :
    (((offered .second).run.outcome (Occasion.offered .second).world).1
        = .ok (.upToDate .second .second)
      ∧ (offered .second).OnlyLooks (Occasion.offered .second).world)
    ∧ ReportsLast none [Occasion.offered ⟨1, 0, 0⟩, Occasion.offered .second]
    ∧ ([Occasion.offered ⟨1, 0, 0⟩, Occasion.offered .second].filterMap
        Occasion.installed?).Pairwise (·.numbers < ·.numbers) := by
  have prints := Occasion.offered_prints .second
  have reports : ReportsLast none [Occasion.offered ⟨1, 0, 0⟩, Occasion.offered .second] := by
    refine ⟨by simp, fun v installed => ?_, trivial⟩
    rw [Option.or_none] at installed
    rw [Occasion.installed?_offered _ installed]
    exact ⟨_, _, Occasion.surrounds_offered, prints⟩
  obtain ⟨_, again, inOrder⟩ := installs_upwards (σ := Unit)
  exact ⟨again _ _ _ _ _ _ Occasion.surrounds_offered prints (Occasion.offered_meets .second)
    Occasion.extract_second, reports, inOrder _ reports⟩

end SignedUpgrade
