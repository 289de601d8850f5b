import CommandFront.Arguments.Error
import CommandFront.Arguments.Matches
import CommandFront.Arguments.Token

/-!
# Scanning the arguments of a level

A level is a list of flags. Its arguments are scanned from left to right.

A flag with a value may have it in the same token or in the next one. In the second case the scan
remembers the flag, and then the value, until it is known that the value is complete. The checks of
a value, whether it is well-formed text and whether its flag has come before, are made only then. So
the order in which faults are told is not always that of the tokens.

- `Scan`: what has been given so far, and a value that is still on its way. Such a value is
  checked when the next flag or the end of the level comes.
- `Scan.step`: scans one token; a token that is neither a flag nor the value of one is left to the
  caller.
- `Level.scan`: scans all tokens of a level below the root.
- `Scan.entries`: what the flags of the level hold in the end.
-/

namespace CommandFront

/-- The flags that are accepted on a level. -/
abbrev Level := List Flag

namespace Level

/-- The flag with a given long spelling. -/
def long? (level : Level) (name : String) : Option Flag :=
  level.find? fun flag => decide (name ∈ flag.longNames)

/-- The flag with a given short spelling. -/
def short? (level : Level) (c : Char) : Option Flag :=
  level.find? fun flag => decide (flag.short = some c)

/-- The flag of a given name. -/
def get? (level : Level) (name : String) : Option Flag :=
  level.find? fun flag => decide (flag.name = name)

end Level

/-- A value on its way. -/
inductive Pending where
  /-- A flag whose value has not come. -/
  | awaiting (flag : Flag)
  /-- The value of a flag that came after it. -/
  | supplied (flag : Flag) (value : OsText)
  /-- A positional of the given name. -/
  | positional (name : String) (value : OsText)
deriving DecidableEq, Repr

/-- How far the arguments of a level have been scanned. -/
structure Scan where
  /-- What has been given, by name. -/
  given : List (String × FlagContent) := []
  /-- The value on its way, if there is one. -/
  pending : Option Pending := none
  /-- Whether the separator has come. -/
  trailing : Bool := false
  /-- The name of a positional that may still come. -/
  positional : Option String := none
deriving DecidableEq, Repr

namespace Scan

instance : EmptyCollection Scan :=
  ⟨{}⟩

/-- Notes what a name was given. -/
def note (s : Scan) (name : String) (content : FlagContent) : Scan :=
  { s with given := (name, content) :: s.given }

/-- Notes a text that has to be well-formed. -/
def noteText (s : Scan) (name : String) (value : OsText) : Except ArgumentError Scan :=
  match value.toString? with
  | some text => .ok (s.note name (.text text))
  | none => .error .invalidUtf8

/-- Whether a flag has been given on the level. -/
def has (s : Scan) (flag : Flag) : Bool :=
  (s.given.lookup flag.name).isSome

/-- Notes a switch, which may come once. -/
def turnOn (s : Scan) (flag : Flag) : Except ArgumentError Scan :=
  if s.has flag then .error (.repeated flag) else .ok (s.note flag.name (.toggle true))

/-- Notes a flag with its value; the flag may come once. -/
def assign (s : Scan) (flag : Flag) (value : OsText) : Except ArgumentError Scan :=
  if s.has flag then .error (.repeated flag) else s.noteText flag.name value

/-- Notes the value that was on its way. -/
def settle (s : Scan) : Except ArgumentError Scan :=
  match s.pending with
  | none => .ok s
  | some (.awaiting flag) => .error (.missingValue flag)
  | some (.supplied flag value) => { s with pending := none }.assign flag value
  | some (.positional name value) => { s with pending := none }.noteText name value

/-- Waits for the value of a flag. -/
def await (s : Scan) (flag : Flag) : Scan :=
  { s with pending := some (.awaiting flag) }

/-- Whether the next token is a value. -/
def isAwaiting (s : Scan) : Bool :=
  match s.pending with
  | some (.awaiting _) => true
  | _ => false

/-! ## Tokens -/

/-- Scans a long spelling. -/
def long (level : Level) (s : Scan) (name : OsText) (value : Option OsText) :
    Except ArgumentError Scan :=
  match name.toString?.bind level.long? with
  | none => .error (.unexpected ("--" ++ name.lossy))
  | some flag =>
    match flag.kind, value with
    | .switch, none => do (← s.settle).turnOn flag
    | .switch, some value => .error (.tooManyValues flag value.lossy)
    | .value, none => do return (← s.settle).await flag
    | .value, some value => do (← s.settle).assign flag value

/-- Scans the value that follows a short spelling in its cluster, perhaps after an equals sign. -/
def attached (s : Scan) (flag : Flag) (rest : OsText) : Except ArgumentError Scan :=
  match rest with
  | [] => .ok (s.await flag)
  | c :: value => s.assign flag (if c = Token.equalsSign then value else c :: value)

/-- Scans the letters of a cluster. -/
def cluster (level : Level) (s : Scan) : OsText → Except ArgumentError Scan
  | [] => .ok s
  | .stray bytes :: rest => .error (.unexpected ("-" ++ OsText.lossy (.stray bytes :: rest)))
  | .scalar c :: rest =>
    match level.short? c with
    | none => .error (.unexpected ("-" ++ String.singleton c))
    | some flag =>
      match flag.kind with
      | .switch => do cluster level (← (← s.settle).turnOn flag) rest
      | .value => do (← s.settle).attached flag rest

/-- Scans one token. There is no result for a token that is neither a flag nor the value of one. -/
def step (level : Level) (s : Scan) (token : OsText) : Except ArgumentError (Option Scan) :=
  if s.trailing then .ok none
  else
    match Token.ofText token with
    | .separator => .ok (some { s with trailing := true })
    | .long name value => some <$> s.long level name value
    | .cluster letters => some <$> s.cluster level letters
    | .plain text =>
      match s.pending with
      | some (.awaiting flag) => .ok (some { s with pending := some (.supplied flag text) })
      | _ => .ok none

/-- Takes a positional, if one may still come. -/
def take (s : Scan) (token : OsText) : Except ArgumentError Scan :=
  match s.positional with
  | none => .error (.unexpected token.lossy)
  | some name => do
    let settled ← s.settle
    return { settled with pending := some (.positional name token), positional := none }

/-- Scans one token of a level below the root. -/
def read (level : Level) (s : Scan) (token : OsText) : Except ArgumentError Scan := do
  match ← s.step level token with
  | some next => return next
  | none => s.take token

/-- What the flags of a level hold after a scan. -/
def entries (level : Level) (s : Scan) : Matches := fun name =>
  match s.given.lookup name with
  | some content => some ⟨content, true⟩
  | none => (level.get? name).bind Flag.defaultEntry

end Scan

/-- Scans all tokens of a level below the root, which takes one positional if it has a name. -/
def Level.scan (level : Level) (positional : Option String) (tokens : List OsText) :
    Except ArgumentError Scan := do
  (← tokens.foldlM (Scan.read level) { positional }).settle

end CommandFront
