import CommandFront.Journal
import CommandFront.RegistrationError

/-!
# The registry of flags

A new flag is compared with each registered one. The error for a spelling that is taken tells the
scope in which both flags would be visible, which is the narrower of the two.

- `FlagRegistry`: the flags in the order of their registration.
- `FlagRegistry.register`: appends a flag, unless one of its spellings is no name, is taken by
  the help flag, or collides with a registered flag.
- `FlagRegistry.globals`, `FlagRegistry.forCommand`: the flags of one scope.
-/

namespace CommandFront

/-- The flags in the order of their registration. -/
structure FlagRegistry where
  /-- The flags, first to last. -/
  flags : List Flag := []
deriving DecidableEq, Repr

namespace FlagRegistry

instance : EmptyCollection FlagRegistry :=
  ⟨{}⟩

/-- Adds a flag at the end. -/
def register (r : FlagRegistry) (flag : Flag) : Except RegistrationError FlagRegistry :=
  if ∃ name ∈ flag.longNames, ¬Text.IsName name then .error (.invalidName flag.name)
  else if flag.IsReserved then .error (.reservedFlag flag.name)
  else
    match r.flags.find? fun registered => decide (registered.Collides flag) with
    | some registered =>
      -- Of two overlapping scopes, the narrower one is where both flags are visible.
      .error (.duplicateFlag flag.name (if flag.IsGlobal then registered.scope else flag.scope))
    | none => .ok ⟨r.flags ++ [flag]⟩

/-- The log record of a registration. -/
def registered (flag : Flag) : LogRecord where
  level := .debug
  target := "strata::command_registry::flags"
  message := "registered flag --" ++ flag.name ++ " (" ++ flag.scope.text ++ ")"

/-- Adds a flag and logs it. -/
def registerLogged (r : FlagRegistry) (flag : Flag) : Journal RegistrationError FlagRegistry := do
  let extended ← Journal.ofExcept (r.register flag)
  Journal.log (registered flag)
  return extended

@[simp] theorem result_registerLogged {r : FlagRegistry} {flag : Flag} :
    (r.registerLogged flag).result = r.register flag := by
  unfold registerLogged
  cases r.register flag <;> rfl

/-- The global flags. -/
def globals (r : FlagRegistry) : List Flag :=
  r.flags.filter fun flag => decide flag.IsGlobal

/-- The flags of one command. -/
def forCommand (r : FlagRegistry) (command : String) : List Flag :=
  r.flags.filter fun flag => decide (flag.scope = .command command)

/-- The flag with a given scope and name. -/
def get? (r : FlagRegistry) (scope : FlagScope) (name : String) : Option Flag :=
  r.flags.find? fun flag => decide (flag.scope = scope ∧ flag.name = name)

/-- The number of flags. -/
def size (r : FlagRegistry) : Nat :=
  r.flags.length

/-- Whether there is no flag. -/
def isEmpty (r : FlagRegistry) : Bool :=
  r.flags.isEmpty

end FlagRegistry

end CommandFront
