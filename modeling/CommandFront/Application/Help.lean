import CommandFront.Application.Basic
import CommandFront.Text.Substitution

/-!
# Help texts

The help of an application is made from a template by one replacement for each slot, in a fixed
order. Each of them goes over the whole text so far, the texts that came in before included. The
help of a command is put together without a template. Both leave out hidden flags, and both show
flags in the order of registration.

- `App.help`: the help of an application: its template with each slot filled in, one after the
  other.
- `App.commandHelp`: the help of one command.
- `Table.render`: two columns, the right one aligned.
-/

namespace CommandFront

/-- Rows of two columns. -/
abbrev Table := List (String × String)

namespace Table

/-- The width of the left column. -/
def width (t : Table) : Nat :=
  (t.map fun row => row.1.length).foldl max 0

/-- One row, its left column filled up to a width. -/
def line (width : Nat) (row : String × String) : String :=
  "  " ++ row.1 ++ .ofList (List.replicate (width - row.1.length) ' ') ++ "  " ++ row.2 ++ "\n"

/-- The rows, each on a line of its own. -/
def render (t : Table) : String :=
  String.join (t.map (line t.width))

end Table

/-- What the help says of the built-in help command. -/
def helpCommandUsage : String :=
  "Shows a list of commands or help for one command"

/-- The row of a flag in a help text. -/
def Flag.row (f : Flag) : String × String :=
  (f.synopsis, f.helpLine)

/-- The flags that a help text shows. -/
def visibleFlags (flags : List Flag) : List Flag :=
  flags.filter fun flag => !flag.hidden

namespace App

/-- The global flags that the help shows. -/
def visibleGlobals (app : App) : List Flag :=
  visibleFlags app.registry.flags.globals

/-- How the application is called. -/
def usageLine (app : App) : String :=
  app.name ++ (if app.visibleGlobals = [] then "" else " [global flags]")
    ++ " command [command flags] [arguments...]"

/-- The commands, with the built-in help command if there is one. -/
def commandTable (app : App) : Table :=
  app.registry.commands.commands.map (fun c => (c.name, c.usage))
    ++ if app.registry.hasHelpCommand then [(helpCommand, helpCommandUsage)] else []

/-- The global flags under their heading, if any is shown. -/
def globalFlagSection (app : App) : String :=
  if app.visibleGlobals = [] then ""
  else
    "GLOBAL FLAGS:\n"
      ++ Table.render (app.visibleGlobals.map Flag.row ++ [("--help, -h", "show help")]) ++ "\n"

/-- The slots of a template and what they are filled with, in the order in which they are. -/
def fillings (app : App) (snapshot : Snapshot) : List (String × String) :=
  [("name", app.name), ("usage", app.usage), ("description", app.description),
    ("usage_line", app.usageLine), ("commands", app.commandTable.render),
    ("global_flags", app.globalFlagSection), ("version", app.version),
    ("diagnostics", snapshot.sections)]

/-- Fills one slot wherever it stands. -/
def fill (text : String) (filling : String × String) : String :=
  Text.replaceAll (slot filling.1) filling.2 text

/-- The help of the application. -/
def help (app : App) (snapshot : Snapshot) : String :=
  (app.fillings snapshot).foldl fill app.template

/-- The flags of a command that its help shows. -/
def visibleOwn (app : App) (command : String) : List Flag :=
  visibleFlags (app.registry.flags.forCommand command)

/-- The help of a command. -/
def commandHelp (app : App) (command : Command Action) : String :=
  let flags := app.visibleOwn command.name
  "NAME:\n  " ++ app.name ++ " " ++ command.name ++ " - " ++ command.usage ++ "\n\nUSAGE:\n  "
    ++ app.name ++ " " ++ command.name ++ (if flags = [] then "" else " [command flags]")
    ++ " [arguments...]\n"
    ++ (if command.description = "" then ""
        else "\nDESCRIPTION:\n  " ++ command.description ++ "\n")
    ++ (if flags = [] then "" else "\nFLAGS:\n" ++ Table.render (flags.map Flag.row))

end App

end CommandFront
