import CommandFront.Arguments.Scan
import CommandFront.Registry

/-!
# Command lines

The arguments of a program: flags, then perhaps a sub-command and what belongs to it.

There are three kinds of levels: that of the root, with the global flags; that of each command, with
its own flags and the global ones; and that of the built-in help command. What was given to a global
flag counts for both levels of a command line, wherever it was given. This is why the entries of the
two levels are merged for the global flags and then shared.

- `CommandLine`: what was given before the sub-command and after it.
- `CommandLine.cut`: finds the sub-command. Before the separator it is the first token that names
  one and is no value of a flag; any other positional of the root level is a sub-command too, if
  a foreign one.
- `CommandLine.parse`: reads the arguments against a registry.
-/

namespace CommandFront

/-- The name of the built-in help command. -/
def helpCommand : String :=
  "help"

/-- The name of the positional of the built-in help command. -/
def helpTopic : String :=
  "command"

/-- What was given before the sub-command and after it. -/
structure CommandLine where
  /-- What the flags hold on the root level. -/
  root : Matches
  /-- The sub-command, and what the flags hold on its level. -/
  selected : Option (String × Matches)

/-- What ends the flags of the root level. -/
inductive Turn where
  /-- The end of the arguments. -/
  | finished
  /-- A declared sub-command, and the tokens after it. -/
  | declared (name : String) (rest : List OsText)
  /-- Another positional, and the tokens after it. -/
  | foreign (name : OsText) (rest : List OsText)
deriving DecidableEq, Repr

namespace Registry

variable {α : Type}

/-- Whether the built-in help command is there: a registered command may take its name. -/
def hasHelpCommand (r : Registry α) : Bool :=
  !r.commands.contains helpCommand

/-- Whether a token names a sub-command. -/
def declares (r : Registry α) (name : String) : Bool :=
  r.commands.contains name || decide (name = helpCommand)

/-- The flags of the root level. -/
def rootLevel (r : Registry α) : Level :=
  Flag.help :: r.flags.globals

/-- The flags of the level of a command. -/
def commandLevel (r : Registry α) (command : String) : Level :=
  r.flags.forCommand command ++ r.rootLevel

/-- The flags of the level of the built-in help command. Its topic takes the place of a flag of
that name. -/
def helpLevel (r : Registry α) : Level :=
  r.rootLevel.filter fun flag => decide (flag.name ≠ helpTopic)

/-- Scans what follows a sub-command. -/
def scanBelow (r : Registry α) (name : String) (tokens : List OsText) :
    Except ArgumentError Matches :=
  if r.commands.contains name then do
    return (← (r.commandLevel name).scan none tokens).entries (r.commandLevel name)
  else do
    return (← r.helpLevel.scan (some helpTopic) tokens).entries r.helpLevel

end Registry

namespace CommandLine

variable {α : Type}

/-- The sub-command that a token names on the root level. -/
def declared? (r : Registry α) (s : Scan) (token : OsText) : Option String :=
  if s.trailing || s.isAwaiting then none
  else token.toString?.filter r.declares

/-- Scans the root level up to the sub-command. -/
def cut (r : Registry α) : Scan → List OsText → Except ArgumentError (Scan × Turn)
  | s, [] => .ok (s, .finished)
  | s, token :: rest =>
    match declared? r s token with
    | some name => .ok (s, .declared name rest)
    | none => do
      match ← s.step r.rootLevel token with
      | some next => cut r next rest
      | none => return (s, .foreign token rest)

/-- Scans what belongs to the sub-command. What follows a foreign one has to be well-formed, and no
flags are looked for in it. -/
def select (r : Registry α) : Turn → Except ArgumentError (Option (String × Matches))
  | .finished => .ok none
  | .declared name rest => do return some (name, ← r.scanBelow name rest)
  | .foreign name rest =>
    match name.toString?, rest.mapM OsText.toString? with
    | some text, some operands => .ok (some (text, Matches.ofOperands operands))
    | _, _ => .error .invalidUtf8

/-- The command line after two levels; both hold the same for the global flags. -/
def ofLevels (r : Registry α) (root : Matches) (selected : Option (String × Matches)) :
    CommandLine :=
  let globals := r.rootLevel.map Flag.name
  match selected with
  | none => ⟨root, none⟩
  | some (name, own) =>
    ⟨root.share globals (root.merge own), some (name, own.share globals (root.merge own))⟩

/-- Reads the arguments that follow the name of the program. A fault after the sub-command comes
before one in the last value of the root level. -/
def parse (r : Registry α) (tokens : List OsText) : Except ArgumentError CommandLine := do
  let (scan, turn) ← cut r ∅ tokens
  let selected ← select r turn
  let settled ← scan.settle
  return ofLevels r (settled.entries r.rootLevel) selected

end CommandLine

end CommandFront
