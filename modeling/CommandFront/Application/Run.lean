import CommandFront.Application.Help

/-!
# Running an application

A run has three steps. The arguments are parsed; what they ask for is decided, without any effect;
and it is done. Help is asked for by a flag, on whichever level it stands, or by the built-in help
command, whose topic is held under a name that a flag may bear as well. A registered command called
`help` takes the place of the built-in one.

- `Request`: what a command line asks for.
- `App.request`: what a parsed command line asks for.
- `App.serve`: does what is asked for.
- `App.run`: parses the arguments, of which the first one names the program, and serves them.
-/

namespace CommandFront

/-- What a command line asks for. -/
inductive Request where
  /-- The help of the application. -/
  | overview
  /-- The help of a command. -/
  | describe (command : Command Action)
  /-- A run of a command. -/
  | invoke (command : Command Action) (root own : Matches)
  /-- A command that is not there. -/
  | unknown (token : String)
  /-- Help on what a flag holds that is no text. -/
  | topicIsNoText (name : String)

namespace App

/-- What a request for help asks for. -/
def helpRequest (app : App) (own : Matches) : Request :=
  match own helpTopic with
  | none => .overview
  | some entry =>
    match entry.content with
    | .toggle _ => .topicIsNoText helpTopic
    | .text topic =>
      match app.registry.commands.get? topic with
      | some command => .describe command
      | none => .unknown topic

/-- What a command line asks for. -/
def request (app : App) (line : CommandLine) : Request :=
  match line.selected with
  | none => .overview
  | some (name, own) =>
    if name = helpCommand ∧ app.registry.hasHelpCommand = true then app.helpRequest own
    else
      match app.registry.commands.get? name with
      | none => .unknown name
      | some command =>
        if own.switch Flag.help.name || line.root.switch Flag.help.name then .describe command
        else .invoke command line.root own

/-- Writes the help of the application. -/
def renderHelp (app : App) : Journal RunError Unit := do
  let snapshot ← app.readings.takeSnapshot
  Journal.write .write (app.help snapshot)

/-- Writes the help of a command. -/
def renderCommandHelp (app : App) (command : Command Action) : Journal RunError Unit :=
  Journal.write .write (app.commandHelp command)

/-- The record of a command that is run. -/
def dispatchRecord (command : Command Action) : LogRecord where
  level := .debug
  target := "strata::app"
  message := "dispatching '" ++ command.name ++ "'"

/-- What the action of a command sees. -/
def invocation (app : App) (command : Command Action) (root own : Matches) : Invocation where
  app := app.name
  command := command.name
  root := root
  own := own
  readings := app.readings

/-- Does what is asked for. -/
def serve (app : App) : Request → Journal RunError Unit
  | .overview => app.renderHelp
  | .describe command => app.renderCommandHelp command
  | .invoke command root own => do
    Journal.log (dispatchRecord command)
    (command.action (app.invocation command root own)).mapError .action
  | .unknown token => do Journal.fail (← app.notFound token)
  | .topicIsNoText name => Journal.fail (.topicIsNoText name)

/-- Parses the arguments and does what they ask for. -/
def run (app : App) (args : List OsText) : Journal RunError Unit :=
  match CommandLine.parse app.registry (args.drop 1) with
  | .error cause => Journal.fail (.arguments cause)
  | .ok line => app.serve (app.request line)

end App

end CommandFront
