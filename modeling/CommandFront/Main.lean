import CommandFront.Launch
import CommandFront.Machine
import Std.Time.DateTime.Timestamp

/-!
# The program

Collects what the operating system hands over, launches the program on it, and writes what comes of
it.
-/

namespace CommandFront

namespace Launch

/-- The text of a file that tells of the machine, empty if there is none. -/
def systemText (path : String) : IO String := do
  try IO.FS.readFile path catch _ => return ""

/-- Why a file could not be read. -/
def fileError : IO.Error → FileError
  | .inappropriateType _ code _ => if code = 21 then .isDirectory else .notDirectory
  | .invalidArgument .. => .nameTooLong
  | _ => .notFound

/-- The text of a file. -/
def diskText (path : Path) : IO (Except FileError String) := do
  try
    let content ← IO.FS.readBinFile path.lossy
    match (OsText.ofBytes content.toList).toString? with
    | some text => return .ok text
    | none => return .error .notText
  catch e => return .error (fileError e)

/-- A variable of the environment. -/
def environment (name : String) : IO (Option OsText) :=
  return (← IO.getEnv name).map OsText.ofString

/-- The files in which the operating system tells of itself. -/
def machine : IO Machine :=
  return {
    process := ← systemText "/proc/self/status"
    users := ← systemText "/etc/passwd"
    memory := ← systemText "/proc/meminfo"
    processors := ← systemText "/proc/cpuinfo"
    host := ← systemText "/proc/sys/kernel/hostname" }

/-- What the operating system hands over. The only file that is read is that of the
configuration. -/
def collect (args : List String) : IO Launch := do
  let build : Build := {}
  let machine ← machine
  let here : Launch :=
    { args := (Catalog.appName :: args).map OsText.ofString
      logFilter := ← environment "STRATA_LOG"
      identity := machine.identity
      around :=
        { read := fun _ => .error .notFound
          home := ← environment "HOME"
          configHome := ← environment "XDG_CONFIG_HOME" }
      readings := machine.readings build.compiler
      build }
  let content ← diskText here.configFile
  let read (path : Path) : Except FileError String :=
    if path = here.configFile then content else .error .notFound
  return { here with around := { here.around with read } }

end Launch

end CommandFront

/-- Runs the program and ends with its exit status. -/
def main (args : List String) : IO UInt32 := do
  let started ← IO.monoMsNow
  let launch ← CommandFront.Launch.collect args
  let now ← Std.Time.Timestamp.now
  let elapsed := toString ((← IO.monoMsNow) - started) ++ "ms"
  let outcome := launch.outcome (toString now.toMillisecondsSinceUnixEpoch.val) elapsed
  (← IO.getStdout).write ⟨outcome.output.toArray⟩
  (← IO.getStderr).putStr outcome.errors
  return UInt32.ofNat outcome.status
