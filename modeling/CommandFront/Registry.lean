import CommandFront.Command.Registry
import CommandFront.Flag.Registry

/-!
# The registry of an application

Commands and flags are registered by separate calls, in any order, and each call may be refused. A
program registers its commands first, as a flag of one command is refused while the command is not
there.

- `Registry α`: the commands and the flags of an application.
- `Registry.registerCommand`, `Registry.registerFlag`: a flag of one command needs that command.
- `Registry.registerAll`: a list of commands and then a list of flags; the first one refused ends
  the registration.
-/

namespace CommandFront

/-- The commands and the flags of an application. -/
structure Registry (α : Type) where
  /-- The commands. -/
  commands : CommandRegistry α := ∅
  /-- The flags. -/
  flags : FlagRegistry := ∅

namespace Registry

variable {α : Type}

instance : EmptyCollection (Registry α) :=
  ⟨⟨∅, ∅⟩⟩

/-- Whether the command that a flag is for, if it is for one, is missing. -/
def LacksScope (r : Registry α) (flag : Flag) : Prop :=
  match flag.scope with
  | .everywhere => False
  | .command name => r.commands.contains name = false

instance (r : Registry α) (flag : Flag) : Decidable (r.LacksScope flag) := by
  unfold LacksScope
  split <;> infer_instance

/-- The error for a flag of a command that is not registered. -/
def missingScope (flag : Flag) : RegistrationError :=
  match flag.scope with
  | .everywhere => .unknownScope flag.name ""
  | .command name => .unknownScope flag.name name

/-- Adds a command. -/
def registerCommand (r : Registry α) (command : Command α) :
    Except RegistrationError (Registry α) :=
  (r.commands.register command).map fun commands => { r with commands }

/-- Adds a flag. -/
def registerFlag (r : Registry α) (flag : Flag) : Except RegistrationError (Registry α) :=
  if r.LacksScope flag then .error (missingScope flag)
  else (r.flags.register flag).map fun flags => { r with flags }

/-- Adds a command and logs it. -/
def registerCommandLogged (r : Registry α) (command : Command α) :
    Journal RegistrationError (Registry α) :=
  (fun commands => { r with commands }) <$> r.commands.registerLogged command

/-- Adds a flag and logs it. -/
def registerFlagLogged (r : Registry α) (flag : Flag) : Journal RegistrationError (Registry α) :=
  if r.LacksScope flag then Journal.fail (missingScope flag)
  else (fun flags => { r with flags }) <$> r.flags.registerLogged flag

/-- Adds the commands and then the flags, and logs each. -/
def registerAll (commands : List (Command α)) (flags : List Flag) :
    Journal RegistrationError (Registry α) := do
  let withCommands ← commands.foldlM registerCommandLogged ∅
  flags.foldlM registerFlagLogged withCommands

end Registry

end CommandFront
