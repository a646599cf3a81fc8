import Mathlib.Tactic.Lemma
import SignedUpgrade.Schedule.Task

/-!
# Courses of task operations

The scheduled task is changed by scripts that need administrative rights, and whose right to run
depends on whether the task is registered.  Both are asked for first, by scripts as well.

* `ScheduledTask.Operation` — the operations that change something, under one name;
* `Grants`, `Prints`, `Operation.Allows` — what the answers to scripts say;
* `FirstFailure` — where an operation fails, and how;
* `judge_cases`, `readStatus_cases` — how an answer is read;
* `Course` — how an operation goes by the answers, with one lemma for each way to end.
-/

namespace SignedUpgrade.ScheduledTask

open Text

/-! ## Operations -/

/-- The operations that change something. -/
inductive Operation where
  | create
  | delete
  | enable
  | disable
  deriving DecidableEq, Repr

namespace Operation

/-- How an operation is called where it fails. -/
def word : Operation → String
  | .create => "creating"
  | .delete => "deleting"
  | .enable => "enabling"
  | .disable => "disabling"

/-- The script that makes the change. -/
def script (task : ScheduledTask) : Operation → String
  | .create => task.createScript
  | .delete => task.deleteScript
  | .enable => task.enableScript
  | .disable => task.disableScript

/-- The scripts of an operation, in the order in which they are started. -/
def scripts (task : ScheduledTask) (operation : Operation) : List String :=
  [adminScript, task.statusScript, operation.script task]

end Operation

/-! ## Answers to scripts -/

/-- How a script ended, or why it did not. -/
abbrev ShellAnswer := Except Failure Output

/-- The word for yes, in small or capital letters and between blanks. -/
def SaysTrue (printed : String) : Prop :=
  (trimmed printed).toList.map Char.toLower = "true".toList

/-- There are administrative rights. -/
def Grants (answer : ShellAnswer) : Prop :=
  ∃ output, answer = .ok output ∧ output.code = some 0 ∧ SaysTrue output.stdout

/-- A script on the task ended well, without an error, and printed a text. -/
def Prints (answer : ShellAnswer) (printed : String) : Prop :=
  ∃ output, answer = .ok output ∧ output.code = some 0 ∧ allBlank output.stderr = true
    ∧ output.stdout = printed

/-- There is a task, and its status can be read. -/
def Describes (printed : String) : Prop :=
  allBlank printed = false ∧ ∃ status, TaskStatus.ofPrinted (trimmed printed) = .ok status

/-- The status of the task allows an operation: what is to be registered is not there, and what is
to be changed is. -/
def Operation.Allows (operation : Operation) (answer : ShellAnswer) : Prop :=
  ∃ printed, Prints answer printed ∧
    match operation with
    | .create => allBlank printed = true
    | .delete | .enable | .disable => Describes printed

/-- A script on the task failed. -/
inductive ScriptFails (task : ScheduledTask) (word : String) : ShellAnswer → Failure → Prop
  | unanswered (failure : Failure) : ScriptFails task word (.error failure) failure
  | complains {output : Output} (spoke : allBlank output.stderr = false) :
    ScriptFails task word (.ok output)
      (.scheduledTaskCommand word task.name (trimmed output.stderr))
  | exits {output : Output} (silent : allBlank output.stderr = true)
      (ended : output.code ≠ some 0) :
    ScriptFails task word (.ok output)
      (.scheduledTaskCommand word task.name ("powershell exited with " ++ codeText output.code))

/-- The status of the task cannot be found out, which is not to say that there is no task. -/
inductive StatusFails (task : ScheduledTask) : ShellAnswer → Failure → Prop
  | unasked {answer : ShellAnswer} {failure : Failure}
      (fails : ScriptFails task "getting" answer failure) : StatusFails task answer failure
  | unreadable {answer : ShellAnswer} {printed : String} {fault : Json.Fault}
      (prints : Prints answer printed) (filled : allBlank printed = false)
      (refused : TaskStatus.ofPrinted (trimmed printed) = .error fault) :
    StatusFails task answer
      (.scheduledTaskCommand "getting" task.name
        ("unexpected output: " ++ task.wording (Json.lettersOf (trimmed printed)) fault))

/-- The first failure that an operation met, after some answers. -/
inductive FirstFailure (task : ScheduledTask) (operation : Operation) :
    List ShellAnswer → Failure → Prop
  | rightsUnknown (failure : Failure) : FirstFailure task operation [.error failure] failure
  | rightsFailed {output : Output} (ended : output.code ≠ some 0) :
    FirstFailure task operation [.ok output]
      (.processFailed PowerShell.program output.code output.stderr)
  | noRights {output : Output} (ended : output.code = some 0)
      (denied : ¬ SaysTrue output.stdout) :
    FirstFailure task operation [.ok output] .adminRightsRequired
  | statusFailed {rights status : ShellAnswer} {failure : Failure} (grants : Grants rights)
      (fails : StatusFails task status failure) :
    FirstFailure task operation [rights, status] failure
  | notFound {rights status : ShellAnswer} {printed : String} (needed : operation ≠ .create)
      (grants : Grants rights) (prints : Prints status printed)
      (blank : allBlank printed = true) :
    FirstFailure task operation [rights, status] (.taskNotFound task.name)
  | changeFailed {rights status change : ShellAnswer} {failure : Failure} (grants : Grants rights)
      (allows : operation.Allows status)
      (fails : ScriptFails task operation.word change failure) :
    FirstFailure task operation [rights, status, change] failure

/-! ## What answers exclude -/

lemma Prints.unique {answer : ShellAnswer} {printed printed' : String}
    (h : Prints answer printed) (h' : Prints answer printed') : printed = printed' := by
  obtain ⟨output, rfl, -, -, rfl⟩ := h
  obtain ⟨_, ⟨⟩, -, -, rfl⟩ := h'
  rfl

/-- A script that failed did not end well. -/
lemma ScriptFails.not_prints {task : ScheduledTask} {word : String} {answer : ShellAnswer}
    {failure : Failure} (h : ScriptFails task word answer failure) (printed : String) :
    ¬ Prints answer printed := by
  rintro ⟨output, answered, ended, silent, -⟩
  cases h with
  | unanswered => cases answered
  | complains spoke =>
    cases answered
    rw [silent] at spoke
    cases spoke
  | exits _ failed =>
    cases answered
    exact failed ended

section Answers

variable {task : ScheduledTask} {operation : Operation} {rights status : ShellAnswer}
  {printed : String} {failure : Failure}

/-- Where the status cannot be found out, there is some text that describes no task. -/
lemma StatusFails.unclear (h : StatusFails task status failure) (prints : Prints status printed) :
    allBlank printed = false ∧ ¬ Describes printed := by
  cases h with
  | unasked fails => exact absurd prints (fails.not_prints printed)
  | unreadable prints' filled refused =>
    obtain rfl := prints.unique prints'
    refine ⟨filled, fun ⟨_, _, decoded⟩ => ?_⟩
    rw [refused] at decoded
    cases decoded

/-- What is to be registered is not there. -/
lemma Operation.Allows.of_create (h : Operation.Allows .create status)
    (prints : Prints status printed) : allBlank printed = true := by
  obtain ⟨printed', prints', blank⟩ := h
  rw [prints.unique prints']
  exact blank

/-- What is to be changed is there. -/
lemma Operation.Allows.of_ne_create (h : operation.Allows status) (needed : operation ≠ .create)
    (prints : Prints status printed) : Describes printed := by
  obtain ⟨printed', prints', holds⟩ := h
  rw [prints.unique prints']
  cases operation with
  | create => exact absurd rfl needed
  | _ => exact holds

lemma Operation.Allows.prints (h : operation.Allows status) : ∃ printed, Prints status printed :=
  h.imp fun _ holds => holds.1

lemma StatusFails.not_allows (h : StatusFails task status failure) : ¬ operation.Allows status := by
  intro allows
  obtain ⟨printed, prints⟩ := allows.prints
  obtain ⟨filled, unclear⟩ := h.unclear prints
  by_cases creates : operation = .create
  · subst creates
    rw [allows.of_create prints] at filled
    cases filled
  · exact unclear (allows.of_ne_create creates prints)

lemma not_allows_of_absent (needed : operation ≠ .create) (prints : Prints status printed)
    (blank : allBlank printed = true) : ¬ operation.Allows status := by
  intro allows
  have filled := (allows.of_ne_create needed prints).1
  rw [blank] at filled
  cases filled

lemma not_allows_of_describes (prints : Prints status printed) (describes : Describes printed) :
    ¬ Operation.Allows .create status := by
  intro allows
  have filled := describes.1
  rw [allows.of_create prints] at filled
  cases filled

end Answers

/-! ## Reading answers -/

/-- What a script on the task printed is judged by how it ended and by what it complained of. -/
lemma judge_cases (task : ScheduledTask) (word : String) (output : Output) :
    (task.judge word output = .ok output.stdout ∧ Prints (.ok output) output.stdout)
    ∨ ∃ failure, task.judge word output = .error failure
      ∧ ScriptFails task word (.ok output) failure ∧ ∀ name, failure ≠ .taskNotFound name := by
  cases silent : allBlank output.stderr with
  | false =>
    refine .inr ⟨_, ?_, .complains silent, fun _ h => by cases h⟩
    simp [judge, silent, failed]
  | true =>
    by_cases ended : output.code = some 0
    · refine .inl ⟨?_, output, rfl, ended, silent, rfl⟩
      simp [judge, silent, Output.succeeded, ended]
    · refine .inr ⟨_, ?_, .exits silent ended, fun _ h => by cases h⟩
      simp [judge, silent, Output.succeeded, ended, failed]

/-- No text means no task; any other text has to describe one. -/
lemma readStatus_cases (task : ScheduledTask) (printed : String) :
    (task.readStatus printed = .error (.taskNotFound task.name) ∧ allBlank printed = true)
    ∨ (∃ status, task.readStatus printed = .ok status ∧ Describes printed)
    ∨ ∃ fault, task.readStatus printed = .error (.scheduledTaskCommand "getting" task.name
          ("unexpected output: " ++ task.wording (Json.lettersOf (trimmed printed)) fault))
      ∧ allBlank printed = false ∧ TaskStatus.ofPrinted (trimmed printed) = .error fault := by
  cases blank : allBlank printed with
  | true => exact .inl ⟨by simp [readStatus, blank], rfl⟩
  | false =>
    cases decoded : TaskStatus.ofPrinted (trimmed printed) with
    | ok status =>
      exact .inr (.inl ⟨status, by simp [readStatus, blank, decoded], blank, status, decoded⟩)
    | error fault =>
      exact .inr (.inr ⟨fault, by simp [readStatus, blank, decoded, failed], rfl, rfl⟩)

/-- What an answer tells about the task. -/
inductive Tells (task : ScheduledTask) (answer : ShellAnswer) : Except Failure TaskStatus → Prop
  | present {status : TaskStatus} {printed : String} (prints : Prints answer printed)
      (describes : Describes printed) : Tells task answer (.ok status)
  | absent {printed : String} (prints : Prints answer printed)
      (blank : allBlank printed = true) : Tells task answer (.error (.taskNotFound task.name))
  | nothing {failure : Failure} (fails : StatusFails task answer failure)
      (known : ∀ name, failure ≠ .taskNotFound name) : Tells task answer (.error failure)

/-! ## Courses -/

/-- How an operation goes, by the answers to its scripts. -/
inductive Course (task : ScheduledTask) (operation : Operation) :
    List ShellAnswer → Except Failure Bool → Prop
  | changes {rights status change : ShellAnswer} {printed : String} (grants : Grants rights)
      (allows : operation.Allows status) (prints : Prints change printed) :
    Course task operation [rights, status, change] (.ok true)
  | keeps {rights status : ShellAnswer} {printed : String} (creates : operation = .create)
      (grants : Grants rights) (prints : Prints status printed) (describes : Describes printed) :
    Course task operation [rights, status] (.ok false)
  | fails {answers : List ShellAnswer} {failure : Failure}
      (first : FirstFailure task operation answers failure) :
    Course task operation answers (.error failure)

namespace Course

variable {task : ScheduledTask} {operation : Operation} {answers : List ShellAnswer}
  {result : Except Failure Bool}

lemma first {failure : Failure} (h : Course task operation answers (.error failure)) :
    FirstFailure task operation answers failure := by
  cases h with
  | fails first => exact first

lemma length_le (h : Course task operation answers result) : answers.length ≤ 3 := by
  cases h with
  | fails first => cases first <;> simp
  | _ => simp

/-- The last script is started behind both guards. -/
lemma last_iff (h : Course task operation answers result) :
    (∃ rights status change more, answers = rights :: status :: change :: more)
      ↔ ∃ rights status more, answers = rights :: status :: more
        ∧ Grants rights ∧ operation.Allows status := by
  constructor
  · rintro ⟨rights, status, change, more, rfl⟩
    cases h with
    | changes grants allows => exact ⟨rights, status, _, rfl, grants, allows⟩
    | fails first =>
      cases first with
      | changeFailed grants allows => exact ⟨rights, status, _, rfl, grants, allows⟩
  · rintro ⟨rights, status, more, rfl, -, allows⟩
    cases h with
    | changes => exact ⟨_, _, _, _, rfl⟩
    | keeps creates _ prints describes =>
      subst creates
      exact absurd allows (not_allows_of_describes prints describes)
    | fails first =>
      cases first with
      | statusFailed _ fails => exact absurd allows fails.not_allows
      | notFound needed _ prints blank =>
        exact absurd allows (not_allows_of_absent needed prints blank)
      | changeFailed => exact ⟨_, _, _, _, rfl⟩

/-- A change is reported if the last script went well. -/
lemma eq_true_iff (h : Course task operation answers result) :
    result = .ok true ↔ ∃ rights status change printed, answers = [rights, status, change]
      ∧ Grants rights ∧ operation.Allows status ∧ Prints change printed := by
  constructor
  · rintro rfl
    cases h with
    | changes grants allows prints => exact ⟨_, _, _, _, rfl, grants, allows, prints⟩
  · rintro ⟨rights, status, change, printed, rfl, -, -, prints⟩
    cases h with
    | changes => rfl
    | fails first =>
      cases first with
      | changeFailed _ _ fails => exact absurd prints (fails.not_prints printed)

/-- A task is there already if its status can be read. -/
lemma eq_false_iff (h : Course task operation answers result) :
    result = .ok false ↔ operation = .create ∧ ∃ rights status printed more,
      answers = rights :: status :: more ∧ Grants rights ∧ Prints status printed
        ∧ Describes printed := by
  constructor
  · rintro rfl
    cases h with
    | keeps creates grants prints describes =>
      exact ⟨creates, _, _, _, _, rfl, grants, prints, describes⟩
  · rintro ⟨rfl, rights, status, printed, more, rfl, -, prints, describes⟩
    have stops := not_allows_of_describes prints describes
    cases h with
    | changes _ allows => exact absurd allows stops
    | keeps => rfl
    | fails first =>
      cases first with
      | statusFailed _ fails => exact absurd describes (fails.unclear prints).2
      | notFound needed => exact absurd rfl needed
      | changeFailed _ allows => exact absurd allows stops

end Course

end SignedUpgrade.ScheduledTask
