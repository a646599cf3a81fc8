import Std.Time.DateTime.Timestamp
import SignedUpgrade.CommandLine.Program
import SignedUpgrade.Files.Addition
import SignedUpgrade.Rehearsal.Libraries
import SignedUpgrade.Rehearsal.Scene

/-!
# The command line

The program on a machine that is cut off from everything but its settings.  The arguments, the
environment variables, the clock, the configuration file and the audit file are those of the machine.
Programs are looked for among the rehearsed files, and no server can be reached.
-/

namespace SignedUpgrade.CommandLine

open Rehearsal Text

/-- The environment variables that the program looks at. -/
def variableNames : List String :=
  ["HOME", "PATH", "TMPDIR", "RUST_LOG", "XDG_CONFIG_HOME", "XDG_DATA_HOME",
   "CERTBOT_UPDATER_CONFIG"]
    ++ Setting.all.map fun setting => variableName variableStart setting.key

/-- The configuration files that a run may read. -/
def configFiles (environment : Environment) (arguments : List String) : List Path :=
  match Order.ofArguments arguments with
  | .error _ => []
  | .ok order =>
    (order.options.config.map Path.mk <|> environment.configFile (directories environment)).toList

/-- The environment variables that are set. -/
def readVariables : IO Environment :=
  variableNames.filterMapM fun name => do
    return (← IO.getEnv name).map fun value => (name, value)

/-- The files with one more file of the machine among them, if it can be read. -/
def readInto (files : FileTree) (path : Path) : IO FileTree := do
  match ← (IO.FS.readBinFile path.text).toBaseIO with
  | .ok content => return provide files path content.toList false
  | .error _ => return files

/-- Adds bytes at the end of a file of the machine. -/
def append (path : Path) (rest : Bytes) : IO Unit := do
  if let some parent := path.parent? then IO.FS.createDirAll parent.text
  let handle ← IO.FS.Handle.mk path.text .append
  handle.write (ByteArray.mk rest.toArray)

/-- The time that the machine's clock shows. -/
def readClock : IO Timestamp := do
  let now ← Std.Time.Timestamp.now
  match Timestamp.afterEpoch? now.val.second.val.toNat now.val.nano.val.toNat with
  | some time => return time
  | none => throw (.userError "the clock is out of range")

/-- Carries out the arguments, prints what there is to say and answers with the exit code. -/
def start (arguments : List String) : IO UInt32 := do
  let environment ← readVariables
  let time ← readClock
  let directory ← IO.currentDir
  let before ← (configFiles environment arguments).foldlM readInto (scene directory.toString)
  let host : Host Stage := {
    environment
    directories := directories environment
    formats
    system := machine environment
    connect }
  let world : World Stage := { world before { online := false } with clock := fun _ => time }
  let (report, after) := (host.run arguments).run world
  for (path, rest) in before.additions after.files do
    append path rest
  for line in report.output do
    IO.println line
  for line in report.errors do
    IO.eprintln line
  return UInt32.ofNat report.exitCode

end SignedUpgrade.CommandLine

/-- The program. -/
def main (arguments : List String) : IO UInt32 :=
  SignedUpgrade.CommandLine.start arguments
