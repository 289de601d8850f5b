import CommandFront.Application.Run
import CommandFront.Bootstrap
import CommandFront.Log.Filter

/-!
# Launching the program

The log has to be set up before the arguments are parsed, so that the start can be logged. Whether
it is to be talkative is therefore read off the raw arguments. What goes to the error stream are the
complaints about the filter of the log, the records that it shows, and the report of a failure, in
this order.

- `Launch`: what the operating system hands to the program.
- `Launch.debugRequested`: whether the raw arguments ask for a talkative log. They are looked
  through before they are parsed, so a value of that spelling counts too.
- `Launch.configFile`: the file that the configuration is read from, if a service is to run.
- `Launch.outcome`: what the program writes and how it ends.
-/

namespace CommandFront

/-- What the operating system hands to the program. -/
structure Launch where
  /-- The arguments, the name of the program first. -/
  args : List OsText
  /-- The filter of the log by the environment. -/
  logFilter : Option OsText := none
  /-- The user, or why it is not known. -/
  identity : Except ErrorChain Identity
  /-- The files and the environment. -/
  around : Surroundings
  /-- What can be read off the machine. -/
  readings : Readings
  /-- How the program was built. -/
  build : Build

/-- What a program writes and how it ends. -/
structure Outcome where
  /-- The exit status. -/
  status : Nat
  /-- The bytes of the output. -/
  output : List UInt8
  /-- The text on the error stream. -/
  errors : String
deriving DecidableEq, Repr

/-- A scope with its texts quoted. -/
def FlagScope.outline : FlagScope → String
  | everywhere => "Global"
  | command name => "Command(" ++ Text.quote name ++ ")"

/-- A version with the names of its parts. -/
def CompilerVersion.outline (v : CompilerVersion) : String :=
  "RustcVersion \x7b major: " ++ toString v.major ++ ", minor: " ++ toString v.minor
    ++ ", patch: " ++ toString v.patch ++ " \x7d"

/-- The error with its texts quoted. -/
def RegistrationError.outline : RegistrationError → String
  | invalidName name => "InvalidName(" ++ Text.quote name ++ ")"
  | duplicateCommand name => "DuplicateCommand(" ++ Text.quote name ++ ")"
  | duplicateFlag name scope =>
    "DuplicateFlag \x7b name: " ++ Text.quote name ++ ", scope: " ++ scope.outline ++ " \x7d"
  | reservedFlag name => "ReservedFlag(" ++ Text.quote name ++ ")"
  | unknownScope flag command =>
    "UnknownScope \x7b flag: " ++ Text.quote flag ++ ", command: " ++ Text.quote command ++ " \x7d"

/-- The error with its texts quoted. -/
def BootstrapError.outline : BootstrapError → String
  | identityUnavailable reason => "IdentityUnavailable(" ++ Text.quote reason ++ ")"
  | elevatedPrivileges app user =>
    "ElevatedPrivileges \x7b app: " ++ Text.quote app ++ ", user: " ++ Text.quote user ++ " \x7d"
  | unsupportedRuntime app found minimum =>
    "UnsupportedRuntime \x7b app: " ++ Text.quote app ++ ", found: " ++ Text.quote found
      ++ ", minimum: " ++ minimum.outline ++ " \x7d"
  | registration cause => "Registry(" ++ cause.outline ++ ")"

namespace Launch

/-- The token after which no flag comes. -/
def separator : OsText :=
  Token.separator.toText

/-- The flag that asks for a talkative log. -/
def debugFlag : OsText :=
  OsText.ofString "--debug"

/-- Whether the arguments after the name of the program ask for a talkative log. -/
def debugRequested (args : List OsText) : Bool :=
  ((args.drop 1).takeWhile (· != separator)).any (· == debugFlag)

/-- The log filter, and the complaints about it. -/
def filter (l : Launch) : LogFilter × List String :=
  let base := if debugRequested l.args then LogLevel.debug else .warn
  match l.logFilter.bind OsText.toString? with
  | some spec => LogFilter.parse base spec
  | none => (LogFilter.upTo base, [])

/-- What the program is started with. -/
def bootstrap (l : Launch) : Bootstrap where
  version := l.build.version
  identity := l.identity
  runtimeVersion := l.build.compiler
  commands := Catalog.commands l.build l.around
  flags := Catalog.flags

/-- The command line as the program reads it. -/
def commandLine? (l : Launch) : Option CommandLine := do
  let registry ← (Registry.registerAll l.bootstrap.commands l.bootstrap.flags).result.toOption
  (CommandLine.parse registry (l.args.drop 1)).toOption

/-- The file that the configuration is read from. -/
def configFile (l : Launch) : Path :=
  let given : Option String := do
    let line ← l.commandLine?
    let selected ← line.selected
    (selected.2.value? "config").or (line.root.value? "config")
  (given.map OsText.ofString).getD l.around.configPath

/-- The record of a failed start. -/
def failedStart (e : BootstrapError) : LogRecord where
  level := .error
  target := "strata"
  message := "startup failed: " ++ e.outline

/-- What the program writes and how it ends. The log tells `time` as the time of each record and
`elapsed` as what a step took. -/
def outcome (l : Launch) (time elapsed : String) : Outcome :=
  let started := (l.bootstrap.build l.readings elapsed).deliver {}
  let complaints := l.filter.2.map LogFilter.complaintLine
  let lines (records : List LogRecord) : List String :=
    (records.filter fun r => decide (l.filter.1.Shows r)).map (LogRecord.line time)
  match started.result with
  | .error e =>
    { status := 1
      output := []
      errors := String.join
        (complaints ++ lines (started.records ++ [failedStart e]) ++ [e.message ++ "\n"]) }
  | .ok app =>
    let ran := (app.run l.args).deliver {}
    let ended := exitStatus ran.result
    { status := ended.1
      output := ran.written
      errors := String.join (complaints ++ lines (started.records ++ ran.records) ++ [ended.2]) }

end Launch

end CommandFront
