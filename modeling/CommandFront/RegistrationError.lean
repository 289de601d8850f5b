import CommandFront.Flag.Basic

/-!
# Why a command or flag is refused

- `RegistrationError`: the causes, with their wording in `RegistrationError.message`.
-/

namespace CommandFront

/-- Why a command or flag cannot be registered. -/
inductive RegistrationError where
  /-- The name, or another spelling of the flag, is empty or has blanks. -/
  | invalidName (name : String)
  /-- A command of this name is registered. -/
  | duplicateCommand (name : String)
  /-- The flag collides with a registered one in this scope. -/
  | duplicateFlag (name : String) (scope : FlagScope)
  /-- The flag takes a spelling of the help flag. -/
  | reservedFlag (name : String)
  /-- The flag is for a command that is not registered. -/
  | unknownScope (flag command : String)
deriving DecidableEq, Repr

/-- The error in words. -/
def RegistrationError.message : RegistrationError → String
  | invalidName name =>
    "invalid name '" ++ name ++ "': names must be non-empty and contain no whitespace"
  | duplicateCommand name => "command '" ++ name ++ "' is already registered"
  | duplicateFlag name scope =>
    "flag '" ++ name ++ "' is already registered for " ++ scope.text
  | reservedFlag name => "flag '" ++ name ++ "' is reserved for built-in help"
  | unknownScope flag command =>
    "flag '" ++ flag ++ "' is scoped to unknown command '" ++ command ++ "'"

end CommandFront
