import SignedUpgrade.Proofs.Schedule.Courses
import SignedUpgrade.Proofs.Upgrade.Answers

/-!
# Guards before changes

Every operation on the scheduled task that changes something takes one of its courses, whatever the
runner answers: the change comes last, and behind two guards.

* `Operation.carryOut`, `Operation.exchanges` — an operation, and what its runner is asked meanwhile;
* `Steps.Seen` — what is seen of steps whose runner is watched, with a rule for steps in a row;
* `carryOut_seen` — an operation takes one of its courses;
* `Operation.guarded` — the main statement: a change is made behind both guards, or not at all.
-/

namespace SignedUpgrade

open Text

variable {σ : Type}

/-- A site in which nothing was watched so far. -/
def Site.watched (site : Site σ) : Site (Watched σ) where
  files := site.files
  outside := { inner := site.outside }
  log := site.log

/-- What passed between the parties and those who turned to them. -/
def Site.exchanges (site : Site (Watched σ)) : List Exchange :=
  exchangesOf site.outside.history

namespace ScheduledTask

/-! ## Operations -/

namespace Operation

/-- Carries an operation out, and tells whether anything was changed: a task that is registered is
not registered again. -/
def carryOut (task : ScheduledTask) (runner : Runner σ) : Operation → Steps σ Bool
  | .create => do return (← task.create runner) == .created
  | .delete => do
    task.delete runner
    return true
  | .enable => do
    task.enable runner
    return true
  | .disable => do
    task.disable runner
    return true

/-- The exchanges with the runner while an operation is carried out. -/
def exchanges (task : ScheduledTask) (runner : Runner σ) (operation : Operation)
    (site : Site σ) : List Exchange :=
  ((operation.carryOut task runner.watched).run site.watched).2.exchanges

end Operation

/-- The start of a script, with its answer. -/
def call (text : String) (answer : ShellAnswer) : Exchange :=
  .command PowerShell.program (PowerShell.scriptArguments text) (some PowerShell.limit) answer

/-! ## What is seen of steps -/

namespace Steps

variable {α β : Type}

/-- Watched steps do what the steps themselves do, and a relation holds between the exchanges that
are seen and the result. -/
def Seen (x : Steps (Watched σ) α) (x₀ : Steps σ α)
    (Q : List Exchange → Except Failure α → Prop) : Prop :=
  ∀ site, ∃ new, (x.run site).2.exchanges = site.exchanges ++ new
    ∧ x₀.run site.bare = ((x.run site).1, (x.run site).2.bare) ∧ Q new (x.run site).1

namespace Seen

variable {x : Steps (Watched σ) α} {x₀ : Steps σ α} {Q : List Exchange → Except Failure α → Prop}
  {S : List Exchange → Except Failure β → Prop}

lemma mono {Q' : List Exchange → Except Failure α → Prop} (h : Seen x x₀ Q)
    (weaker : ∀ new r, Q new r → Q' new r) : Seen x x₀ Q' := by
  intro site
  obtain ⟨new, seen, same, holds⟩ := h site
  exact ⟨new, seen, same, weaker _ _ holds⟩

lemma ofExcept {r : Except Failure α} (holds : Q [] r) :
    Seen (σ := σ) (liftM r) (liftM r) Q :=
  fun _ => ⟨[], (List.append_nil _).symm, rfl, holds⟩

lemma pure {a : α} (holds : Q [] (.ok a)) : Seen (σ := σ) (Pure.pure a) (Pure.pure a) Q :=
  ofExcept (r := .ok a) holds

lemma throw {f : Failure} (holds : Q [] (.error f)) :
    Seen (σ := σ) (throw f) (throw f) Q :=
  ofExcept (r := .error f) holds

lemma debug {Q : List Exchange → Except Failure Unit → Prop} (text : String)
    (holds : Q [] (.ok ())) : Seen (σ := σ) (modify (·.debug text)) (modify (·.debug text)) Q :=
  fun _ => ⟨[], (List.append_nil _).symm, rfl, holds⟩

/-- Steps after which others are taken, whatever the result of the first ones is. -/
lemma bindRun {f : Except Failure α → Steps (Watched σ) β} {g : Except Failure α → Steps σ β}
    (h : Seen x x₀ Q)
    (rest : ∀ new r, Q new r → Seen (f r) (g r) fun more s => S (new ++ more) s) :
    Seen (ExceptT.lift x.run >>= f) (ExceptT.lift x₀.run >>= g) S := by
  intro site
  obtain ⟨new, seen, same, holds⟩ := h site
  obtain ⟨more, seen', same', holds'⟩ := rest new _ holds (x.run site).2
  refine ⟨new ++ more, ?_, ?_, holds'⟩
  · rw [← List.append_assoc, ← seen]
    exact seen'
  · exact (congrArg (fun p : Except Failure α × Site σ => (g p.1).run p.2) same).trans same'

lemma bind {f : α → Steps (Watched σ) β} {g : α → Steps σ β} (h : Seen x x₀ Q)
    (fails : ∀ new failure, Q new (.error failure) → S new (.error failure))
    (rest : ∀ new a, Q new (.ok a) → Seen (f a) (g a) fun more s => S (new ++ more) s) :
    Seen (x >>= f) (x₀ >>= g) S := by
  refine bindRun (f := fun r => ExceptT.mk (ExceptT.bindCont f r))
    (g := fun r => ExceptT.mk (ExceptT.bindCont g r)) h fun new r holds => ?_
  cases r with
  | ok a => exact rest new a holds
  | error failure => exact throw (by simpa using fails new failure holds)

end Seen

end Steps

/-! ## Scripts -/

/-- A runner never answers that a task was not found: it knows programs only. -/
def KnowsNoTasks (runner : Runner σ) : Prop :=
  ∀ program arguments limit site name,
    (runner.run program arguments limit site).1 ≠ .error (.taskNotFound name)

section Scripts

variable (task : ScheduledTask) {runner : Runner σ} (honest : KnowsNoTasks runner)
include honest

lemma script_seen (text : String) :
    Steps.Seen (script runner.watched text) (script runner text) fun new answer =>
      new = [call text answer] ∧ ∀ name, answer ≠ .error (.taskNotFound name) := by
  intro site
  refine ⟨[call text _], ?_, rfl, rfl, fun name => honest _ _ _ _ name⟩
  exact List.map_append

lemma isAdmin_seen (operation : Operation) :
    Steps.Seen (isAdmin runner.watched) (isAdmin runner) fun new r =>
      ∃ rights, new = [call adminScript rights] ∧ match r with
        | .ok true => Grants rights
        | .ok false => FirstFailure task operation [rights] .adminRightsRequired
        | .error failure => FirstFailure task operation [rights] failure := by
  refine .bind (script_seen honest _) ?_ ?_
  · rintro _ failure ⟨rfl, -⟩
    exact ⟨_, rfl, .rightsUnknown failure⟩
  rintro _ output ⟨rfl, -⟩
  refine .bind (Q := fun new r => new = [] ∧ r = output.check PowerShell.program)
    (.ofExcept ⟨rfl, rfl⟩) ?_ ?_
  · rintro _ failure ⟨rfl, fails⟩
    refine ⟨_, rfl, ?_⟩
    rw [Output.check] at fails
    split at fails
    · cases fails
    · rename_i ended
      cases fails
      exact .rightsFailed (by simpa [Output.succeeded] using ended)
  rintro _ output' ⟨rfl, passes⟩
  rw [Output.check] at passes
  split at passes
  · rename_i ended
    cases passes
    have ended : output.code = some 0 := by simpa [Output.succeeded] using ended
    refine .pure ⟨_, rfl, ?_⟩
    cases granted : ((trim output.stdout.toList).map Char.toLower == ['t', 'r', 'u', 'e']) with
    | true => exact ⟨output, rfl, ended, by simpa [SaysTrue, trimmed] using granted⟩
    | false => exact .noRights ended (by simpa [SaysTrue, trimmed] using granted)
  · cases passes

/-- An operation goes on with administrative rights only. -/
lemma requireAdmin_seen (operation : Operation) :
    Steps.Seen (requireAdmin runner.watched) (requireAdmin runner) fun new r =>
      ∃ rights, new = [call adminScript rights] ∧ match r with
        | .ok _ => Grants rights
        | .error failure => FirstFailure task operation [rights] failure := by
  refine .bind (isAdmin_seen task honest operation) (fun _ _ fails => fails) ?_
  rintro _ granted ⟨rights, rfl, holds⟩
  cases granted with
  | true => exact .pure ⟨rights, rfl, holds⟩
  | false => exact .throw ⟨rights, rfl, holds⟩

/-- A script on the task ends well or fails, and none of its failures says that there is no task. -/
lemma perform_seen (word text : String) :
    Steps.Seen (task.perform runner.watched word text) (task.perform runner word text)
      fun new r => ∃ answer, new = [call text answer] ∧ match r with
        | .ok printed => Prints answer printed
        | .error failure => ScriptFails task word answer failure
          ∧ ∀ name, failure ≠ .taskNotFound name := by
  refine .bind (Q := fun new r => new = [] ∧ r = .ok ()) (.debug _ ⟨rfl, rfl⟩) ?_ ?_
  · rintro _ _ ⟨-, ⟨⟩⟩
  rintro _ - ⟨rfl, -⟩
  refine .bind (script_seen honest _) ?_ ?_
  · rintro _ failure ⟨rfl, known⟩
    exact ⟨_, rfl, .unanswered failure, fun name same => known name (congrArg _ same)⟩
  rintro _ output ⟨rfl, -⟩
  refine .ofExcept ⟨_, rfl, ?_⟩
  rcases task.judge_cases word output with ⟨judged, prints⟩ | ⟨failure, judged, fails⟩
  · rw [judged]
    exact prints
  · rw [judged]
    exact fails

/-- The status of the task is asked by one script, and read from what that prints. -/
lemma status_seen :
    Steps.Seen (task.status runner.watched) (task.status runner) fun new r =>
      ∃ answer, new = [call task.statusScript answer] ∧ Tells task answer r := by
  refine .bind (perform_seen task honest _ _) ?_ ?_
  · rintro _ failure ⟨answer, rfl, fails, known⟩
    exact ⟨answer, rfl, .nothing (.unasked fails) known⟩
  rintro _ printed ⟨answer, rfl, prints⟩
  refine .ofExcept ⟨answer, by simp, ?_⟩
  rcases task.readStatus_cases printed with
    ⟨read, blank⟩ | ⟨status, read, describes⟩ | ⟨fault, read, filled, refused⟩
  · rw [read]
    exact .absent prints blank
  · rw [read]
    exact .present prints describes
  · rw [read]
    exact .nothing (.unreadable prints filled refused) fun _ h => by cases h

end Scripts

/-! ## Operations and their courses -/

/-- Scripts of an operation were started in order, and it took one of the courses. -/
def Takes (task : ScheduledTask) (operation : Operation) (new : List Exchange)
    (result : Except Failure Bool) : Prop :=
  ∃ answers, new = List.zipWith call (operation.scripts task) answers
    ∧ Course task operation answers result

section Courses

variable (task : ScheduledTask) {runner : Runner σ} (honest : KnowsNoTasks runner)
include honest

/-- The last script of an operation, behind both guards. -/
lemma lastScript_seen (operation : Operation) {rights status : ShellAnswer}
    (grants : Grants rights) (allows : operation.Allows status) :
    Steps.Seen (task.perform runner.watched operation.word (operation.script task))
      (task.perform runner operation.word (operation.script task)) fun new r =>
      ∃ change, new = [call (operation.script task) change]
        ∧ Course task operation [rights, status, change] (r.map fun _ => true) := by
  refine (perform_seen task honest _ _).mono ?_
  rintro _ (failure | printed) ⟨change, rfl, holds⟩
  · exact ⟨change, rfl, .fails (.changeFailed grants allows holds.1)⟩
  · exact ⟨change, rfl, .changes grants allows holds⟩

/-- An operation that needs the task to be there. -/
lemma change_seen {operation : Operation} (needed : operation ≠ .create) :
    Steps.Seen (task.change runner.watched operation.word (operation.script task))
      (task.change runner operation.word (operation.script task))
      fun new r => Takes task operation new (r.map fun _ => true) := by
  refine .bind (requireAdmin_seen task honest operation) ?_ ?_
  · rintro _ failure ⟨rights, rfl, first⟩
    exact ⟨[rights], rfl, .fails first⟩
  rintro _ _ ⟨rights, rfl, grants⟩
  refine .bind (status_seen task honest) ?_ ?_
  · rintro _ failure ⟨status, rfl, tells⟩
    refine ⟨[rights, status], rfl, .fails ?_⟩
    cases tells with
    | absent prints blank => exact .notFound needed grants prints blank
    | nothing fails => exact .statusFailed grants fails
  rintro _ _ ⟨status, rfl, ⟨prints, describes⟩⟩
  have allows : operation.Allows status := by
    cases operation with
    | create => exact absurd rfl needed
    | _ => exact ⟨_, prints, describes⟩
  refine .bind (lastScript_seen task honest operation grants allows) ?_ ?_
  · rintro _ failure ⟨change, rfl, course⟩
    exact ⟨[rights, status, change], rfl, course⟩
  rintro _ _ ⟨change, rfl, course⟩
  exact .pure ⟨[rights, status, change], rfl, course⟩

/-- Creating the task, for which there must be none. -/
lemma create_seen :
    Steps.Seen (task.create runner.watched) (task.create runner)
      fun new r => Takes task .create new (r.map (· == .created)) := by
  refine .bind (requireAdmin_seen task honest .create) ?_ ?_
  · rintro _ failure ⟨rights, rfl, first⟩
    exact ⟨[rights], rfl, .fails first⟩
  rintro _ _ ⟨rights, rfl, grants⟩
  refine .bindRun (status_seen task honest) ?_
  rintro _ _ ⟨status, rfl, tells⟩
  cases tells with
  | present prints describes =>
    exact .pure ⟨[rights, status], rfl, .keeps rfl grants prints describes⟩
  | absent prints blank =>
    refine .bind (lastScript_seen task honest .create grants ⟨_, prints, blank⟩)
      ?_ ?_
    · rintro _ failure ⟨change, rfl, course⟩
      exact ⟨[rights, status, change], rfl, course⟩
    rintro _ _ ⟨change, rfl, course⟩
    exact .pure ⟨[rights, status, change], rfl, course⟩
  | @nothing failure fails known =>
    have ends : Takes task .create [call adminScript rights, call task.statusScript status]
        (.error failure) :=
      ⟨[rights, status], rfl, .fails (.statusFailed grants fails)⟩
    -- only a task that is missing would be registered
    cases failure with
    | taskNotFound name => exact absurd rfl (known name)
    | _ => exact .throw ends

/-- Every operation takes one of the courses. -/
lemma carryOut_seen (operation : Operation) :
    Steps.Seen (operation.carryOut task runner.watched) (operation.carryOut task runner)
      (Takes task operation) := by
  have changed (operation : Operation) (needed : operation ≠ .create) :
      Steps.Seen
        (do task.change runner.watched operation.word (operation.script task); return true)
        (do task.change runner operation.word (operation.script task); return true)
        (Takes task operation) := by
    refine .bind (change_seen task honest needed) (fun _ _ takes => takes) ?_
    rintro _ _ ⟨answers, rfl, course⟩
    exact .pure ⟨answers, List.append_nil _, course⟩
  cases operation with
  | create =>
    refine .bind (create_seen task honest) (fun _ _ takes => takes) ?_
    rintro _ _ ⟨answers, rfl, course⟩
    exact .pure ⟨answers, List.append_nil _, course⟩
  | delete => exact changed .delete nofun
  | enable => exact changed .enable nofun
  | disable => exact changed .disable nofun

end Courses

/-! ## Guards -/

namespace Operation

variable (task : ScheduledTask)

/-- A text starts with a letter, whatever is added at its end. -/
lemma head_append {text : String} {letter : Char} (starts : text.toList.head? = some letter)
    (rest : String) : (text ++ rest).toList.head? = some letter := by
  rw [String.toList_append, List.head?_append, starts, Option.some_or]

/-- The letter that the script of an operation starts with. -/
def firstLetter : Operation → Char
  | .create => '$'
  | .delete => 'U'
  | .enable => 'E'
  | .disable => 'D'

lemma head_script (operation : Operation) :
    (operation.script task).toList.head? = some operation.firstLetter := by
  unfold script createScript deleteScript enableScript disableScript firstLetter
  cases operation
  all_goals
    simp only [String.append_assoc]
    exact head_append (by simp) _

/-- The script that makes a change is none of the two that only ask. -/
lemma script_notMem (operation : Operation) :
    operation.script task ∉ [adminScript, task.statusScript] := by
  have rights : adminScript.toList.head? = some '(' := by simp [adminScript]
  have status : task.statusScript.toList.head? = some 'G' := by
    unfold statusScript
    simp only [String.append_assoc]
    exact head_append (by simp) _
  have apart : operation.firstLetter ≠ '(' ∧ operation.firstLetter ≠ 'G' := by
    cases operation <;> decide
  have starts := head_script task operation
  intro asks
  simp only [List.mem_cons, List.not_mem_nil, or_false] at asks
  rcases asks with same | same
  · rw [same, rights] at starts
    exact apart.1 (Option.some.inj starts).symm
  · rw [same, status] at starts
    exact apart.2 (Option.some.inj starts).symm

lemma text_of_call {text text' : String} {answer answer' : ShellAnswer}
    (same : call text answer = call text' answer') : text = text' := by
  simpa [call, PowerShell.scriptArguments] using (Exchange.command.inj same).2.1

/-- The script that makes a change is started by the third exchange, and by no other. -/
lemma call_mem_iff {operation : Operation} {answers : List ShellAnswer} :
    (∃ answer, call (operation.script task) answer
      ∈ List.zipWith call (operation.scripts task) answers)
      ↔ ∃ rights status change more, answers = rights :: status :: change :: more := by
  constructor
  · rintro ⟨answer, mem⟩
    have last : ∀ {text answer'}, text ∈ [adminScript, task.statusScript] →
        call (operation.script task) answer ≠ call text answer' :=
      fun asks same => script_notMem task operation (text_of_call same ▸ asks)
    match answers, mem with
    | [rights], mem =>
      exact absurd (List.mem_singleton.1 mem) (last (by simp))
    | [rights, status], mem =>
      rcases List.mem_cons.1 mem with same | mem
      · exact absurd same (last (by simp))
      · exact absurd (List.mem_singleton.1 mem) (last (by simp))
    | rights :: status :: change :: more, _ => exact ⟨rights, status, change, more, rfl⟩
  · rintro ⟨rights, status, change, more, rfl⟩
    exact ⟨change, by simp [scripts]⟩

/-- **A change is made behind both guards.**  Whatever a runner answers, the scripts of an operation
are started in order, each at most once.  The last one is started if and only if the first one
grants rights and the second one shows that the task allows the operation.  The operation reports
a change if and only if the last one went well too, and that nothing was to be changed if and only if
a task to be created is there.  In every other case it fails with the first failure that it met. -/
theorem guarded (runner : Runner σ) (honest : KnowsNoTasks runner) (operation : Operation)
    (site : Site σ) :
    let result := ((operation.carryOut task runner).run site).1
    let exchanges := operation.exchanges task runner site
    ∃ answers, answers.length ≤ 3
      ∧ exchanges = List.zipWith call (operation.scripts task) answers
      ∧ ((∃ answer, call (operation.script task) answer ∈ exchanges)
        ↔ ∃ rights status more, answers = rights :: status :: more
          ∧ Grants rights ∧ operation.Allows status)
      ∧ (result = .ok true ↔ ∃ rights status change printed, answers = [rights, status, change]
        ∧ Grants rights ∧ operation.Allows status ∧ Prints change printed)
      ∧ (result = .ok false ↔ operation = .create ∧ ∃ rights status printed more,
        answers = rights :: status :: more ∧ Grants rights ∧ Prints status printed
          ∧ Describes printed)
      ∧ ∀ failure, result = .error failure → FirstFailure task operation answers failure := by
  intro result exchanges
  obtain ⟨new, seen, same, answers, started, course⟩ :=
    carryOut_seen task honest operation site.watched
  have here : exchanges = List.zipWith call (operation.scripts task) answers := by
    rw [← started]
    exact seen
  have ends : result = ((operation.carryOut task runner.watched).run site.watched).1 :=
    congrArg Prod.fst same
  rw [← ends] at course
  refine ⟨answers, course.length_le, here, ?_, course.eq_true_iff, course.eq_false_iff,
    fun failure fails => (fails ▸ course).first⟩
  rw [here, call_mem_iff]
  exact course.last_iff

/-- A shell with administrative rights, where no script prints anything else. -/
def administrator : Runner Unit where
  run _ arguments _ site :=
    let printed := if arguments = PowerShell.scriptArguments adminScript then "True\r\n" else ""
    (.ok { code := some 0, stdout := printed }, site)

/-- A task that is not there is registered by the third script. -/
theorem guarded_administrator :
    let task : ScheduledTask := { updater := ⟨"updater.exe"⟩, wording := fun _ _ => "no status" }
    let site : Site Unit := { files := {}, outside := () }
    ((carryOut task administrator .create).run site).1 = .ok true
      ∧ (exchanges task administrator .create site).length = 3 := by
  intro task site
  have done : ((carryOut task administrator .create).run site).1 = .ok true := by decide +kernel
  obtain ⟨answers, -, started, -, changes, -, -⟩ :=
    guarded task administrator (fun _ _ _ _ _ answer => by cases answer) .create site
  obtain ⟨rights, status, change, -, rfl, -, -, -⟩ := changes.1 done
  exact ⟨done, by rw [started]; rfl⟩

end Operation

end ScheduledTask

end SignedUpgrade
