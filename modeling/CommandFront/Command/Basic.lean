import CommandFront.Text.Quoted

/-!
# Commands

- `Command α`: a sub-command of an application, with an action of type `α`.
- `Command.outline`: the command on one line, its texts quoted and its action left out.
-/

namespace CommandFront

/-- A sub-command of an application. -/
structure Command (α : Type) where
  /-- The name. -/
  name : String
  /-- One line on what it does. -/
  usage : String
  /-- What its help says beyond that line. -/
  description : String := ""
  /-- What happens when it is run. -/
  action : α

namespace Command

/-- The command on one line. -/
def outline {α : Type} (c : Command α) : String :=
  "Command \x7b name: " ++ Text.quote c.name ++ ", usage: " ++ Text.quote c.usage
    ++ ", description: " ++ Text.quote c.description ++ ", .. \x7d"

end Command

end CommandFront
