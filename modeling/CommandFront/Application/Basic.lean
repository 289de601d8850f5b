import CommandFront.Application.Error
import CommandFront.Application.Invocation
import CommandFront.Arguments.CommandLine

/-!
# Applications

An application is a value, so two of them may be compared and one may be taken with another
registry. What it does at an unknown command is a part of it: the default looks the token up among
the commands, and another application may do something else there. The template of the help is an
arbitrary text with slots, and a slot may be missing or come twice.

- `App`: a name, texts for the help, the registry, and what happens at an unknown command.
- `App.suggestClosest`: the default at an unknown command: the names that begin with it.
- `App.ofRegistry`: the application of a registry.
-/

namespace CommandFront

/-- A command-line application. -/
structure App where
  /-- The name. -/
  name : String
  /-- One line on what it is. -/
  usage : String := ""
  /-- What the help says beyond that line. -/
  description : String := ""
  /-- The version. -/
  version : String
  /-- The text of the help, with slots for what is filled in. -/
  template : String
  /-- The commands and flags. -/
  registry : Registry Action
  /-- What can be read off the machine. -/
  readings : Readings
  /-- Finds the error for a token that is no command. -/
  notFound : String → Journal RunError RunError

namespace App

/-- A place in a help template where a text is filled in. -/
def slot (name : String) : String :=
  "\x7b\x7b" ++ name ++ "\x7d\x7d"

/-- The help of an application that has no template of its own. -/
def standardTemplate : String :=
  "NAME:\n  " ++ slot "name" ++ " - " ++ slot "usage" ++ "\n\nDESCRIPTION:\n  "
    ++ slot "description" ++ "\n\nUSAGE:\n  " ++ slot "usage_line" ++ "\n\nCOMMANDS:\n"
    ++ slot "commands" ++ "\n" ++ slot "global_flags" ++ "VERSION:\n  " ++ slot "version"
    ++ "\n\n" ++ slot "diagnostics"

/-- The record of an unknown command. -/
def unknownRecord (token : String) (suggestions : List String) : LogRecord where
  level := .debug
  target := "strata::app"
  message := "unknown command '" ++ token ++ "', " ++ toString suggestions.length
    ++ " suggestion(s)"

/-- The error for a token that is no command, with the commands that begin with it. -/
def suggestClosest (name : String) (commands : CommandRegistry Action) (token : String) :
    Journal RunError RunError := do
  let suggestions := commands.closest token
  Journal.log (unknownRecord token suggestions)
  return .unknownCommand name token suggestions

/-- The application of a registry. -/
def ofRegistry (name version : String) (registry : Registry Action) (readings : Readings) :
    App where
  name := name
  version := version
  template := standardTemplate
  registry := registry
  readings := readings
  notFound := suggestClosest name registry.commands

end App

end CommandFront
