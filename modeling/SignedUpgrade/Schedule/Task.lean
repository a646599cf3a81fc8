import SignedUpgrade.Json.Decode
import SignedUpgrade.Process.PowerShell
import SignedUpgrade.Text.Blank

/-!
# The scheduled task

A scheduled task renews certificates and runs the updater twice a day.  It is looked after by
scripts; since scripts report most failures on standard error with exit code zero, anything printed
there counts as a failure.

* `TaskState`, `TaskStatus` — what is known about the task;
* `ScheduledTask` — the task of an updater, with the operations on it;
* `ScheduledTask.create`, `delete`, `enable`, `disable` — the operations that change something.
  Each of them first asks for administrative rights and then for the task's status, and changes
  something only if both answers allow it.
-/

namespace SignedUpgrade

open Json Text

/-- The state of a scheduled task. -/
inductive TaskState where
  | unknown
  | disabled
  | queued
  | ready
  | running
  deriving DecidableEq, Repr, Inhabited

namespace TaskState

/-- The state with a number. -/
def ofCode (code : Int) : TaskState :=
  if code = 1 then .disabled
  else if code = 2 then .queued
  else if code = 3 then .ready
  else if code = 4 then .running
  else .unknown

/-- The name of a state. -/
def name : TaskState → String
  | .unknown => "Unknown"
  | .disabled => "Disabled"
  | .queued => "Queued"
  | .ready => "Ready"
  | .running => "Running"

end TaskState

/-- The name and the state of a scheduled task. -/
structure TaskStatus where
  name : String
  state : TaskState
  deriving DecidableEq, Repr

namespace TaskStatus

/-- A printed status as far as it is read. -/
structure Printed where
  name : Option String := none
  code : Option (Option Int) := none

/-- The fields of a printed status. -/
def printedShape : Shape Printed where
  name := "RawTask"
  start := {}
  fields := [
    { name := "TaskName"
      isSet := (·.name.isSome)
      want := fun record letters =>
        (wantString letters).map fun (n, r) => ({ record with name := some n }, r) },
    { name := "State"
      optional := true
      isSet := (·.code.isSome)
      want := fun record letters =>
        (wantOptional wantInteger letters).map fun (c, r) => ({ record with code := some c }, r) }]

/-- The status that a script printed. -/
def ofPrinted (printed : String) : Except Fault TaskStatus :=
  (decode (wantRecord printedShape) (lettersOf printed)).map fun record =>
    { name := record.name.getD "", state := .ofCode ((record.code.getD none).getD 0) }

end TaskStatus

/-- What creating the task came to. -/
inductive Creation where
  | created
  | alreadyExists
  deriving DecidableEq, Repr

/-- The task that runs an updater. -/
structure ScheduledTask where
  name : String := "Certbot Renew and Auto-Update Task"
  updater : Path
  /-- The words for what is wrong with a printed status. -/
  wording : Wording

namespace ScheduledTask

variable {σ : Type}

/-- Steps of a task operation, which start scripts by a runner. -/
abbrev Steps (σ : Type) := ExceptT Failure (StateM (Site σ))

/-! ## The scripts -/

/-- The script that tells whether the shell has administrative rights. -/
def adminScript : String :=
  "([Security.Principal.WindowsPrincipal][Security.Principal.WindowsIdentity]::GetCurrent()).IsInRole([Security.Principal.WindowsBuiltInRole]::Administrator)"

/-- The script that prints the status of the task. -/
def statusScript (task : ScheduledTask) : String :=
  "Get-ScheduledTask -TaskName " ++ Quoted.quote task.name
    ++ " -ErrorAction Ignore | ConvertTo-Json -Depth 1"

/-- What the task's shell is told to do: renew, then run the updater. -/
def innerCommand (task : ScheduledTask) : String :=
  "certbot renew; & " ++ Quoted.quote task.updater.text ++ " run"

/-- The command line of the task's shell. -/
def argument (task : ScheduledTask) : String :=
  "-NoProfile -WindowStyle Hidden -Command \"" ++ task.innerCommand ++ "\""

/-- How the task is described to those who find it. -/
def description : String :=
  "Execute twice a day the 'certbot renew' command to renew certificates if needed, then upgrade Certbot if a new release is available."

/-- The script that registers the task. -/
def createScript (task : ScheduledTask) : String :=
  "$action = New-ScheduledTaskAction -Execute 'Powershell.exe' -Argument "
    ++ Quoted.quote task.argument
    ++ "; $triggerAM = New-ScheduledTaskTrigger -Daily -At 12am; $triggerPM = New-ScheduledTaskTrigger -Daily -At 12pm; $principal = New-ScheduledTaskPrincipal -UserId 'SYSTEM' -LogonType S4U -RunLevel Highest; Register-ScheduledTask -Action $action -Trigger $triggerAM,$triggerPM -TaskName "
    ++ Quoted.quote task.name ++ " -Description " ++ Quoted.quote description
    ++ " -Principal $principal | Out-Null"

/-- The script that removes the task. -/
def deleteScript (task : ScheduledTask) : String :=
  "Unregister-ScheduledTask -TaskName " ++ Quoted.quote task.name ++ " -Confirm:$false"

/-- The script that enables the task. -/
def enableScript (task : ScheduledTask) : String :=
  "Enable-ScheduledTask -TaskName " ++ Quoted.quote task.name ++ " | Out-Null"

/-- The script that disables the task. -/
def disableScript (task : ScheduledTask) : String :=
  "Disable-ScheduledTask -TaskName " ++ Quoted.quote task.name ++ " | Out-Null"

/-! ## The operations -/

/-- Runs a script. -/
def script (runner : Runner σ) (text : String) : Steps σ Output :=
  ExceptT.mk fun site => PowerShell.run runner text site

/-- Whether the shell has administrative rights. -/
def isAdmin (runner : Runner σ) : Steps σ Bool := do
  let output ← script runner adminScript
  let output ← (output.check PowerShell.program : Except Failure Output)
  return (trim output.stdout.toList).map Char.toLower == ['t', 'r', 'u', 'e']

/-- Fails without administrative rights. -/
def requireAdmin (runner : Runner σ) : Steps σ Unit := do
  unless ← isAdmin runner do
    throw .adminRightsRequired

/-- How an exit code is shown in a failure without any other text. -/
def codeText : Option Int → String
  | some code => "Some(" ++ toString code ++ ")"
  | none => "None"

/-- The failure of an operation. -/
def failed (task : ScheduledTask) (operation text : String) : Failure :=
  .scheduledTaskCommand operation task.name text

/-- What a script on the task printed, if it printed no error and ended with success. -/
def judge (task : ScheduledTask) (operation : String) (output : Output) : Except Failure String :=
  if allBlank output.stderr then
    if output.succeeded then .ok output.stdout
    else .error (task.failed operation ("powershell exited with " ++ codeText output.code))
  else .error (task.failed operation (trimmed output.stderr))

/-- Runs a script on the task. -/
def perform (task : ScheduledTask) (runner : Runner σ) (operation text : String) :
    Steps σ String := do
  modify (·.debug ("Scheduled task: " ++ operation ++ " " ++ task.name))
  let output ← script runner text
  (task.judge operation output : Except Failure String)

/-- The status that the status script printed: no text means no task. -/
def readStatus (task : ScheduledTask) (printed : String) : Except Failure TaskStatus :=
  if allBlank printed then .error (.taskNotFound task.name)
  else match TaskStatus.ofPrinted (trimmed printed) with
    | .ok status => .ok status
    | .error fault =>
      let told := task.wording (lettersOf (trimmed printed)) fault
      .error (task.failed "getting" ("unexpected output: " ++ told))

/-- The status of the task. -/
def status (task : ScheduledTask) (runner : Runner σ) : Steps σ TaskStatus := do
  let printed ← task.perform runner "getting" task.statusScript
  (task.readStatus printed : Except Failure TaskStatus)

/-- Registers the task unless it is registered. -/
def create (task : ScheduledTask) (runner : Runner σ) : Steps σ Creation := do
  requireAdmin runner
  match ← ExceptT.lift (task.status runner).run with
  | .ok _ => return .alreadyExists
  | .error (.taskNotFound _) =>
    let _ ← task.perform runner "creating" task.createScript
    return .created
  | .error failure => throw failure

/-- Changes a task that is registered. -/
def change (task : ScheduledTask) (runner : Runner σ) (operation text : String) :
    Steps σ Unit := do
  requireAdmin runner
  let _ ← task.status runner
  let _ ← task.perform runner operation text

/-- Removes the task. -/
def delete (task : ScheduledTask) (runner : Runner σ) : Steps σ Unit :=
  task.change runner "deleting" task.deleteScript

/-- Enables the task. -/
def enable (task : ScheduledTask) (runner : Runner σ) : Steps σ Unit :=
  task.change runner "enabling" task.enableScript

/-- Disables the task. -/
def disable (task : ScheduledTask) (runner : Runner σ) : Steps σ Unit :=
  task.change runner "disabling" task.disableScript

end ScheduledTask

end SignedUpgrade
