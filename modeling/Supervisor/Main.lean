import Supervisor.CommandLine.Run
import Supervisor.Diagnostics.Filter

/-!
# The program

The program gathers what a run depends on, runs, and writes what the run left behind. It has no
transport of its own: every address is one where nobody listens, so a run that needs the daemon
ends with the message for that.
-/

namespace Supervisor.Program

/-- The fault behind a failed file access. -/
def faultOf : IO.Error → Fault
  | .noFileOrDirectory .. => .noSuchFile
  | .inappropriateType _ 20 _ => .notADirectory
  | .inappropriateType _ 21 _ => .isADirectory
  | .invalidArgument _ 36 _ => .nameTooLong
  | .permissionDenied _ code text | .resourceExhausted _ code text
  | .inappropriateType _ code text | .invalidArgument _ code text | .otherError code text =>
    .system code text
  | e => .system 0 (toString e)

/-- The content of a file. -/
def readFile (path : String) : IO (Except Fault (List UInt8)) := do
  if path.toList.contains '\x00' then return .error .nulInPath
  (.ok <$> ByteArray.toList <$> IO.FS.readBinFile path).tryCatch fun e =>
    pure (.error (faultOf e))

/-- The file that a command line names as a descriptor, if there is one. -/
def readDescriptor (environment : String → Option String) (words : List String) : IO Files := do
  match Invocation.parse environment words with
  | .ok i =>
    match i.command.descriptor? with
    | some path =>
      let content ← readFile path
      return fun _ => content
    | none => return fun _ => .error .noSuchFile
  | .error _ => return fun _ => .error .noSuchFile

/-- The number of the user that the program runs for. -/
def effectiveUser : IO UInt32 := do
  let status ← (IO.FS.readFile "/proc/self/status").tryCatch fun _ => pure ""
  let line := (status.splitOn "\n").find? (·.startsWith "Uid:")
  let numbers := ((line.getD "").splitOn "\t").drop 1
  return UInt32.ofNat ((numbers[1]?.bind String.toNat?).getD 0)

/-- The home directory of a user in the file of accounts, which has a line for each of them. -/
def homeIn? (uid : UInt32) (accounts : List UInt8) : Option (List UInt8) := do
  let lines := Text.splitAtChar '\n' (accounts.map fun b => Char.ofNat b.toNat)
  let account ← (lines.map (Text.splitAtChar ':')).find? (·[2]? = some (toString uid).toList)
  return (← account[5]?).map fun c => UInt8.ofNat c.toNat

/-- Gathers what a run depends on, runs, and writes what the run left behind. -/
def start (words : List String) : IO UInt32 := do
  let names := [Setting.uri, .logFilter, .logFormat].filterMap Setting.variableName?
  let values ← (Launch.variableName :: names).mapM fun name => do
    return (name, ← IO.getEnv name)
  let environment := fun name => (values.find? (·.1 = name)).bind (·.2)
  let installed : Launch.Search := .ofVariable (environment Launch.variableName)
  let uid ← effectiveUser
  let accounts ← readFile "/etc/passwd"
  let machine : Machine Unit :=
    { user := ⟨uid, accounts.map (homeIn? uid)⟩
      dial := fun _ _ => .error .connectionRefused
      launch := fun _ => Launch.startInstalled (.ok ()) installed fun _ => false }
  let run : Run Unit := .start
    { machine, environment
      files := ← readDescriptor environment words
      terminal := ← (← IO.getStdout).isTty
      logReady := false
      logging := ⟨Diagnostics.Filter.check fun _ => .ok (), .ok ()⟩
      outputRoom := none
      messageRoom := none } words
  (← IO.getStdout).write ⟨run.output.toArray⟩
  (← IO.getStderr).write ⟨run.messages.toArray⟩
  return run.exitCode.toUInt32

end Supervisor.Program

/-- Runs the command line. -/
def main (words : List String) : IO UInt32 := Supervisor.Program.start words
