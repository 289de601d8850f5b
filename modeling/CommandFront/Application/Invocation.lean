import CommandFront.Arguments.Matches
import CommandFront.Diagnostics
import CommandFront.ErrorChain

/-!
# What an action sees

An action names the flag that it asks for and does not know on which level it was given. A text is
asked for in two ways: as what the flag holds, which may be its default, or as what it was given.
The second is for settings that a file may make as well, where a default on the command line must
not beat the file.

- `Invocation`: the command that is run, and what its flags and the global ones hold.
- `Invocation.value?`, `Invocation.explicitValue?`, `Invocation.switch`: what one flag holds. The
  level of the command comes before the root level.
- `Action`: what a command does.
-/

namespace CommandFront

/-- What an action sees. -/
structure Invocation where
  /-- The name of the application. -/
  app : String
  /-- The name of the command. -/
  command : String
  /-- What the flags hold on the root level. -/
  root : Matches
  /-- What the flags hold on the level of the command. -/
  own : Matches
  /-- What can be read off the machine. -/
  readings : Readings

/-- What a command does. -/
abbrev Action := Invocation → Journal ErrorChain Unit

namespace Matches

/-- The text that a flag holds. -/
def value? (m : Matches) (name : String) : Option String :=
  (m name).bind Entry.text?

/-- The text that a flag was given. -/
def explicitValue? (m : Matches) (name : String) : Option String :=
  ((m name).filter Entry.given).bind Entry.text?

/-- Whether a switch is on. -/
def switch (m : Matches) (name : String) : Bool :=
  ((m name).map Entry.isOn).getD false

end Matches

namespace Invocation

/-- The text that a flag holds, which may be its default. -/
def value? (inv : Invocation) (name : String) : Option String :=
  (inv.own.value? name).or (inv.root.value? name)

/-- The text that a flag was given. -/
def explicitValue? (inv : Invocation) (name : String) : Option String :=
  (inv.own.explicitValue? name).or (inv.root.explicitValue? name)

/-- Whether a switch is on. -/
def switch (inv : Invocation) (name : String) : Bool :=
  inv.own.switch name || inv.root.switch name

/-- Takes a snapshot of the machine. -/
def takeSnapshot {ε : Type} (inv : Invocation) : Journal ε Snapshot :=
  inv.readings.takeSnapshot

end Invocation

namespace Action

/-- Writes a text. -/
def print (text : String) : Journal ErrorChain Unit :=
  Journal.write ErrorChain.ofMessage text

/-- Writes a text and ends the line. -/
def printLine (text : String) : Journal ErrorChain Unit :=
  print (text ++ "\n")

end Action

end CommandFront
