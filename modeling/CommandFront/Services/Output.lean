import CommandFront.Application.Invocation
import CommandFront.Json.Printer

/-!
# What actions write

- `Output.envelope`: data as the result of an action that went well.
- `Output.printJson`: writes data in its envelope.
- `Output.printOne`: writes data in its envelope, or else as one row of text.
-/

namespace CommandFront

namespace Output

/-- Data as the result of an action that went well. -/
def envelope (data : Json) : Json :=
  .object [("ok", .bool true), ("data", data)]

/-- Writes data in its envelope. -/
def printJson (data : Json) : Journal ErrorChain Unit :=
  Action.printLine (envelope data).pretty

/-- Writes data in its envelope, or else a row of text. -/
def printOne (json : Bool) (data : Json) (row : String) : Journal ErrorChain Unit :=
  if json then printJson data else Action.printLine row

end Output

end CommandFront
