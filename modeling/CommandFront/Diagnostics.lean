import CommandFront.Journal
import CommandFront.Text.OsText

/-!
# Diagnostics

What a program says of the machine that it runs on.

A snapshot is taken anew whenever it is shown, and how often that happens can be seen from outside.
This is why taking one is a step of a computation, although its texts depend on the readings alone.

- `Readings`: what can be read off the machine.
- `Snapshot`: the texts made of the readings, one for each of three keys.
- `Readings.takeSnapshot`: takes a snapshot. A host name that cannot be found or is ill-formed
  counts as empty.
- `Snapshot.sections`: the snapshot as it stands in a help text.
-/

namespace CommandFront

/-- What can be read off the machine. -/
structure Readings where
  /-- The name of the host, or why it is not known. -/
  host : Except String OsText
  /-- The operating system. -/
  os : String := "linux"
  /-- The processor architecture. -/
  arch : String := "x86_64"
  /-- What the compiler says of its version. -/
  compiler : String
  /-- The number of processors. -/
  processors : String
  /-- The memory of the process, all of it in use. -/
  resident : String
  /-- The address space of the process. -/
  addressSpace : String
  /-- The memory of the machine that is in use. -/
  systemUsed : String
  /-- The memory of the machine. -/
  systemTotal : String

/-- A snapshot of the machine. -/
structure Snapshot where
  /-- The memory in use. -/
  memory : String
  /-- The host and its platform. -/
  platform : String
  /-- The compiler and the processors. -/
  runtime : String
deriving DecidableEq, Repr

namespace Snapshot

/-- The texts of a snapshot by their keys, the keys in order. -/
def entries (s : Snapshot) : List (String × String) :=
  [("MEM", s.memory), ("PLATFORM", s.platform), ("RUNTIME", s.runtime)]

/-- The keys. -/
def keys (s : Snapshot) : List String :=
  s.entries.map Prod.fst

/-- The text of a key. -/
def get? (s : Snapshot) (key : String) : Option String :=
  s.entries.lookup key

/-- One text under its key. -/
def block (entry : String × String) : String :=
  entry.1 ++ ":\n  " ++ entry.2 ++ "\n"

/-- The texts under their keys, a blank line between them. -/
def sections (s : Snapshot) : String :=
  "\n".intercalate (s.entries.map block)

end Snapshot

namespace Readings

/-- The name of the host as far as it can be shown. -/
def hostName (r : Readings) : String :=
  match r.host with
  | .ok name => name.toString?.getD ""
  | .error _ => ""

/-- The snapshot of the readings. -/
def snapshot (r : Readings) : Snapshot where
  memory := "Resident: " ++ r.resident ++ " | Virtual: " ++ r.addressSpace ++ " | System-Used: "
    ++ r.systemUsed ++ " | System-Total: " ++ r.systemTotal
  platform := "Host: " ++ r.hostName ++ " | OS: " ++ r.os ++ " | Arch: " ++ r.arch
  runtime := "Version: " ++ r.compiler ++ " | CPUs: " ++ r.processors

/-- The record of a host name that was not found. -/
def hostFailure (reason : String) : LogRecord where
  level := .debug
  target := "strata::diagnostic"
  message := "hostname lookup failed: " ++ reason

/-- Takes a snapshot. -/
def takeSnapshot {ε : Type} (r : Readings) : Journal ε Snapshot :=
  match r.host with
  | .ok _ => .snapped (pure r.snapshot)
  | .error reason => .logged (hostFailure reason) (.snapped (pure r.snapshot))

end Readings

end CommandFront
