import CommandFront.Log.Record
import CommandFront.Pattern.Reader
import CommandFront.Text.Split
import CommandFront.Text.Terminal

/-!
# Log filters

Which records of the log are shown. A filter is written as a list of directives between commas,
such as `warn,strata::config=debug`, and may end in a slash and a pattern that must occur in a
message.

- `LogFilter.Directive`: the least grave level that is shown of one part of the program. The part
  is given by the beginning of its name.
- `LogFilter.Shows`: whether a record is shown: the directive with the longest fitting name says.
- `LogFilter.parse`: reads a filter over a base level, with the complaints about what it skips.
- `LogRecord.line`: how a record is shown.
-/

namespace CommandFront

/-- What is shown of one part of the program. -/
structure LogFilter.Directive where
  /-- How the names of the part begin; without it, every name fits. -/
  target : Option String
  /-- The least grave level that is shown, if any is. -/
  level : Option LogLevel
deriving DecidableEq, Repr

/-- Which records of the log are shown. -/
structure LogFilter where
  /-- The directives, in the order in which their targets were first named. -/
  directives : List LogFilter.Directive
  /-- A pattern that must occur in a message. -/
  pattern : Option Pattern := none
deriving DecidableEq, Repr

namespace LogFilter

namespace Directive

/-- Whether the directive is about records of a target. -/
def fits (d : Directive) (target : String) : Bool :=
  match d.target with
  | none => true
  | some start => start.toList.isPrefixOf target.toList

/-- How closely the directive is about a part of the program. -/
def closeness (d : Directive) : Nat :=
  match d.target with
  | none => 0
  | some start => start.utf8ByteSize

/-- Whether the directive lets a level through. -/
def admits (d : Directive) (level : LogLevel) : Bool :=
  match d.level with
  | none => false
  | some least => level.rank ≤ least.rank

/-- The closer of a directive and an optional earlier one. -/
def closer (earlier : Option Directive) (d : Directive) : Option Directive :=
  match earlier with
  | none => some d
  | some e => if d.closeness < e.closeness then some e else some d

end Directive

/-- The directive that says whether records of a target are shown. -/
def directive? (f : LogFilter) (target : String) : Option Directive :=
  (f.directives.filter fun d => d.fits target).foldl Directive.closer none

/-- A filter shows a record when the directive for its target admits its level and the pattern that
is asked for occurs in its message. -/
def Shows (f : LogFilter) (record : LogRecord) : Prop :=
  (∃ d ∈ f.directive? record.target, d.admits record.level = true) ∧
    ∀ p ∈ f.pattern, p.Occurs record.message

instance (f : LogFilter) (record : LogRecord) : Decidable (f.Shows record) :=
  inferInstanceAs (Decidable ((∃ d ∈ f.directive? record.target, d.admits record.level = true) ∧
    ∀ p ∈ f.pattern, p.Occurs record.message))

/-- Adds a directive; it takes the place of one for the same target. -/
def insert (f : LogFilter) (d : Directive) : LogFilter :=
  if f.directives.any fun e => decide (e.target = d.target) then
    { f with directives := f.directives.map fun e => if e.target = d.target then d else e }
  else { f with directives := f.directives ++ [d] }

/-! ## Reading -/

/-- The level of a name, in capitals or not; `off` is the level that shows nothing. -/
def level? (name : List Char) : Option (Option LogLevel) :=
  match String.ofList (name.map Char.toLower) with
  | "off" => some none
  | "error" => some (some .error)
  | "warn" => some (some .warn)
  | "info" => some (some .info)
  | "debug" => some (some .debug)
  | "trace" => some (some .trace)
  | _ => none

/-- Reads a directive between commas, or says what is wrong with it. -/
def readDirective (text : List Char) : Except String Directive :=
  let wrong (part : List Char) : Except String Directive :=
    .error ("invalid logging spec '" ++ .ofList part ++ "'")
  match Text.split '=' text with
  | [name] =>
    match level? name with
    | some level => .ok ⟨none, level⟩
    | none => .ok ⟨some (.ofList name), some .trace⟩
  | [name, value] =>
    if Text.trim value = [] then .ok ⟨some (.ofList name), some .trace⟩
    else
      match level? (Text.trim value) with
      | some level => .ok ⟨some (.ofList name), level⟩
      | none => wrong (Text.trim value)
  | _ => wrong text

/-- Adds the directive of a text, or the complaint about it. -/
def readPart (read : LogFilter × List String) (text : List Char) : LogFilter × List String :=
  if text = [] then read
  else
    match readDirective text with
    | .ok d => (read.1.insert d, read.2)
    | .error complaint => (read.1, read.2 ++ [complaint])

/-- The filter that shows records up to a level, whatever they come from. -/
def upTo (level : LogLevel) : LogFilter :=
  ⟨[⟨none, some level⟩], none⟩

/-- Reads a filter over a base level, with the complaints about the parts that are skipped. -/
def parse (base : LogLevel) (spec : String) : LogFilter × List String :=
  let parts (text : List Char) : List (List Char) := (Text.split ',' text).map Text.trim
  match Text.split '/' spec.toList with
  | [directives] => (parts directives).foldl readPart (upTo base, [])
  | [directives, source] =>
    let (read, complaints) := (parts directives).foldl readPart (upTo base, [])
    match Pattern.parse (.ofList source) with
    | .ok p => ({ read with pattern := some p }, complaints)
    | .error e => (read, complaints ++ ["invalid regex filter - " ++ e])
  | _ => (upTo base, ["invalid logging spec '" ++ spec ++ "' (too many '/'s)"])

/-- How a complaint is shown. -/
def complaintLine (complaint : String) : String :=
  "warning: " ++ complaint ++ ", ignoring it\n"

end LogFilter

/-- How a record is shown at a given time: on one line, and lines after the first are indented.
Controls of the terminal are not obeyed. -/
def LogRecord.line (time : String) (r : LogRecord) : String :=
  let indented (c : Char) : List Char := if c = '\n' then "\n    ".toList else [c]
  Text.withoutControls
    ("[" ++ time ++ " " ++ r.level.name ++ .ofList (List.replicate (5 - r.level.name.length) ' ')
      ++ " " ++ r.target ++ "] " ++ .ofList (r.message.toList.flatMap indented) ++ "\n")

end CommandFront
