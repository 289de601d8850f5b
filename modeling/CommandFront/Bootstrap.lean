import CommandFront.Application.Basic
import CommandFront.Build
import CommandFront.Identity
import CommandFront.Services.Catalog

/-!
# Starting up

The checks come first, so that a program that must not run registers nothing. The time that a step
took goes to the log, whether the step went well or failed; it is no part of what a start comes to.

- `Bootstrap`: what the program is started with.
- `Bootstrap.checkEnvironment`: the user has to be known and not elevated, and the compiler must
  not be too old. A compiler whose version cannot be read is let through.
- `Bootstrap.build`: checks the environment, registers all commands and then all flags, and makes
  the application. The first failure ends it.
- `BootstrapError`: why the program does not start.
-/

namespace CommandFront

/-- Why the program does not start. -/
inductive BootstrapError where
  /-- The user is not known. -/
  | identityUnavailable (reason : String)
  /-- The user may do everything. -/
  | elevatedPrivileges (app user : String)
  /-- The compiler is too old. -/
  | unsupportedRuntime (app found : String) (minimum : CompilerVersion)
  /-- A command or flag is refused. -/
  | registration (cause : RegistrationError)
deriving DecidableEq, Repr

namespace BootstrapError

/-- The error in words. -/
def message : BootstrapError → String
  | identityUnavailable reason => "Unable to determine the invoking user.\nError: " ++ reason
  | elevatedPrivileges app _ => "Please run " ++ RunError.curved app ++ " as a non-root user."
  | unsupportedRuntime app found minimum =>
    app ++ " was built with " ++ found ++ "; rustc " ++ minimum.text ++ " or newer is required."
  | registration cause => "invalid command registration: " ++ cause.message

end BootstrapError

/-- What the program is started with. -/
structure Bootstrap where
  /-- The name of the application. -/
  appName : String := Catalog.appName
  /-- The version of the application. -/
  version : String := ({} : Build).version
  /-- The user, or why it is not known. -/
  identity : Except ErrorChain Identity
  /-- What the compiler says of its version. -/
  runtimeVersion : String
  /-- The oldest compiler that will do. -/
  minimumRuntime : CompilerVersion := Build.oldestCompiler
  /-- The commands to register. -/
  commands : List (Command Action)
  /-- The flags to register. -/
  flags : List Flag

namespace Bootstrap

/-- A log record of this module. -/
def record (level : LogLevel) (message : String) : LogRecord where
  level := level
  target := "strata::startup"
  message := message

/-- The record of a compiler version that cannot be read. -/
def skippedCheck (b : Bootstrap) : LogRecord :=
  record .warn
    ("could not read toolchain version from '" ++ b.runtimeVersion ++ "', skipping the check")

/-- Checks the compiler. -/
def checkRuntime (b : Bootstrap) : Journal BootstrapError Unit :=
  match CompilerVersion.parse? b.runtimeVersion with
  | none => Journal.log b.skippedCheck
  | some found =>
    if found.Precedes b.minimumRuntime then
      Journal.fail (.unsupportedRuntime b.appName b.runtimeVersion b.minimumRuntime)
    else pure ()

/-- Checks the user and the compiler. -/
def checkEnvironment (b : Bootstrap) : Journal BootstrapError Identity := do
  let user ← Journal.ofExcept
    (b.identity.mapError fun chain => BootstrapError.identityUnavailable chain.text)
  if user.IsElevated then Journal.fail (.elevatedPrivileges b.appName user.name)
  else do
    b.checkRuntime
    return user

/-- A step of which the log tells how long it took. -/
def timed {ε α : Type} (step elapsed : String) (j : Journal ε α) : Journal ε α := do
  let outcome ← j.outcome
  Journal.log (LogRecord.timing step outcome.isOk elapsed)
  Journal.ofExcept outcome

/-- The record of what has been registered. -/
def registeredAll (registry : Registry Action) : LogRecord :=
  record .info
    ("registered " ++ toString registry.commands.size ++ " commands and "
      ++ toString registry.flags.size ++ " flags")

/-- Starts the program; `elapsed` is what the log tells of the time that a step took. -/
def build (b : Bootstrap) (readings : Readings) (elapsed : String) :
    Journal BootstrapError App := do
  let user ← timed "environment checks" elapsed b.checkEnvironment
  Journal.log (record .debug ("running as '" ++ user.name ++ "'"))
  let registry ← timed "registration" elapsed
    ((Registry.registerAll b.commands b.flags).mapError .registration)
  Journal.log (registeredAll registry)
  return { App.ofRegistry b.appName b.version registry readings with
    usage := Catalog.appUsage
    description := Catalog.appDescription }

end Bootstrap

end CommandFront
