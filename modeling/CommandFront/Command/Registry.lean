import CommandFront.Command.Basic
import CommandFront.Journal
import CommandFront.PrefixTrie.Basic
import CommandFront.RegistrationError

/-!
# The registry of commands

The three stores serve three questions: the list tells the commands in order, the index finds one by
its name, and the trie finds the names with a given beginning. A registration writes to all of them,
and only after its checks, so a refused one leaves all of them as they were.

- `CommandRegistry α`: the commands in the order of their registration, an index from their names
  to their places, and a trie over their names.
- `CommandRegistry.register`: appends a command, unless its name is none or is taken.
- `CommandRegistry.closest`: the names with a given beginning, in order.
-/

namespace CommandFront

/-- The commands in the order of their registration, with two ways to look one up. -/
structure CommandRegistry (α : Type) where
  /-- The commands, first to last. -/
  commands : List (Command α) := []
  /-- The place of each name in `commands`. -/
  index : List (String × Nat) := []
  /-- The names, each mapped to itself. -/
  trie : PrefixTrie := ∅

namespace CommandRegistry

variable {α : Type}

instance : EmptyCollection (CommandRegistry α) :=
  ⟨{}⟩

/-- Whether a command has the name. -/
def contains (r : CommandRegistry α) (name : String) : Bool :=
  (r.index.lookup name).isSome

/-- The command of a name. -/
def get? (r : CommandRegistry α) (name : String) : Option (Command α) :=
  (r.index.lookup name).bind fun place => r.commands[place]?

/-- Adds a command at the end. -/
def register (r : CommandRegistry α) (command : Command α) :
    Except RegistrationError (CommandRegistry α) :=
  if ¬Text.IsName command.name then .error (.invalidName command.name)
  else if r.contains command.name then .error (.duplicateCommand command.name)
  else
    .ok
      { commands := r.commands ++ [command]
        index := (command.name, r.commands.length) :: r.index
        trie := r.trie.insert command.name command.name }

/-- The log record of a registration. -/
def registered (command : Command α) : LogRecord where
  level := .debug
  target := "strata::command_registry::registry"
  message := "registered command '" ++ command.name ++ "'"

/-- Adds a command and logs it. -/
def registerLogged (r : CommandRegistry α) (command : Command α) :
    Journal RegistrationError (CommandRegistry α) := do
  let extended ← Journal.ofExcept (r.register command)
  Journal.log (registered command)
  return extended

@[simp] theorem result_registerLogged {r : CommandRegistry α} {command : Command α} :
    (r.registerLogged command).result = r.register command := by
  unfold registerLogged
  cases r.register command <;> rfl

/-- The names in the order of their registration. -/
def names (r : CommandRegistry α) : List String :=
  r.commands.map Command.name

/-- The names that begin with `token`, in order. -/
def closest (r : CommandRegistry α) (token : String) : List String :=
  r.trie.matching token

/-- The number of commands. -/
def size (r : CommandRegistry α) : Nat :=
  r.commands.length

/-- Whether there is no command. -/
def isEmpty (r : CommandRegistry α) : Bool :=
  r.commands.isEmpty

end CommandRegistry

end CommandFront
