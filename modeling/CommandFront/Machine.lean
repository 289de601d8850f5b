import CommandFront.Diagnostics
import CommandFront.Identity
import CommandFront.Numeric.ByteSize
import CommandFront.Text.Split

/-!
# The machine by its files

An operating system tells of itself in text files. A line of such a file holds a name, a colon and
numbers, or fields between colons.

- `Machine`: the texts of the files.
- `Machine.identity`: the user of the process.
- `Machine.readings`: what a snapshot shows.
-/

namespace CommandFront

/-- The texts of the files in which the operating system tells of itself. -/
structure Machine where
  /-- The state of the process. -/
  process : String
  /-- The users. -/
  users : String
  /-- The memory. -/
  memory : String
  /-- The processors. -/
  processors : String
  /-- The name of the host. -/
  host : String

namespace Machine

/-- The lines of a text. -/
def lines (s : String) : List (List Char) :=
  Text.split '\n' s.toList

/-- The numbers between the blanks of a line. -/
def numbers (line : List Char) : List Nat :=
  (Text.split ' ' (line.map fun c => if Text.isBlank c then ' ' else c)).filterMap fun word =>
    if word = [] ∨ word.all Char.isDigit = false then none
    else some (Nat.ofDigitChars 10 word 0)

/-- The numbers on the line of a name. -/
def entry (name : String) (s : String) : List Nat :=
  let start := (name ++ ":").toList
  match (lines s).find? fun line => start.isPrefixOf line with
  | some line => numbers (line.drop start.length)
  | none => []

/-- A number of kilobytes on the line of a name, in bytes; without such a line, zero. -/
def bytes (name : String) (s : String) : Nat :=
  (entry name s).headD 0 * 1024

/-- The user on a line of the users. -/
def user? (line : List Char) : Option Identity :=
  match (Text.split ':' line).map String.ofList with
  | name :: _ :: uid :: _ :: _ :: home :: _ => some ⟨name, uid.toNat?, some home⟩
  | _ => none

/-- The user of the process. The second of its ids is the one that counts. -/
def identity (m : Machine) : Except ErrorChain Identity :=
  match (entry "Uid" m.process)[1]? with
  | some uid => Identity.lookUp ((lines m.users).filterMap user?) uid
  | none => .error (.ofMessage "user lookup is unavailable")

/-- What a snapshot shows. -/
def readings (m : Machine) (compiler : String) : Readings where
  host :=
    if m.host = "" then .error "no hostname"
    else .ok (OsText.ofString (.ofList (Text.trim m.host.toList)))
  compiler := compiler
  processors :=
    toString ((lines m.processors).countP fun line => "processor".toList.isPrefixOf line)
  resident := Numeric.ByteSize.text (bytes "VmRSS" m.process)
  addressSpace := Numeric.ByteSize.text (bytes "VmSize" m.process)
  systemUsed :=
    Numeric.ByteSize.text (bytes "MemTotal" m.memory - bytes "MemAvailable" m.memory)
  systemTotal := Numeric.ByteSize.text (bytes "MemTotal" m.memory)

end Machine

end CommandFront
