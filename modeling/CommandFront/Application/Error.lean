import CommandFront.Arguments.Error
import CommandFront.ErrorChain

/-!
# Why a run fails

Each cause has its wording and its status, and nothing else about a failure reaches the user.
Arguments that are refused have a status of their own; an unknown command, a failed action and
output that is cut share one. The last cause is none that the program foresees: it looks for a text
in what a switch holds, and breaks off.

- `RunError`: the causes, with their wording in `RunError.message`.
- `RunError.status`, `exitStatus`: the exit status of a run.
- `RunError.report`: what is written to the error stream.
-/

namespace CommandFront

/-- Why a run fails. -/
inductive RunError where
  /-- The first positional is no command; `suggestions` begin with it. -/
  | unknownCommand (app token : String) (suggestions : List String)
  /-- The arguments are refused. -/
  | arguments (cause : ArgumentError)
  /-- The action fails. -/
  | action (chain : ErrorChain)
  /-- The output cannot be written. -/
  | write (reason : String)
  /-- A flag takes the place of the topic of a help request and holds no text. The run breaks
  off. -/
  | topicIsNoText (name : String)
deriving DecidableEq, Repr

namespace RunError

/-- A name between curved quotes. -/
def curved (name : String) : String :=
  "‘" ++ name ++ "’"

/-- The suggestions, each on a line of its own. -/
def suggestionBlock (suggestions : List String) : String :=
  if suggestions = [] then ""
  else
    "\n\nDid you mean one of these?\n"
      ++ String.join (suggestions.map fun name => "        " ++ curved name ++ "\n")

/-- The error in words. -/
def message : RunError → String
  | unknownCommand app token suggestions =>
    curved token ++ " is not a " ++ app ++ " sub-command. See " ++ curved (app ++ " help") ++ "."
      ++ suggestionBlock suggestions
  | arguments cause => cause.message
  | action chain => chain.text
  | write reason => "failed to write output: " ++ reason
  | topicIsNoText name => "flag '" ++ name ++ "' holds no text"

/-- The exit status after the error. -/
def status : RunError → Nat
  | arguments _ => ArgumentError.status
  | topicIsNoText _ => 101
  | _ => 1

/-- What is written to the error stream. -/
def report (e : RunError) : String :=
  e.message ++ "\n"

end RunError

/-- The exit status of a run and what is written to the error stream. -/
def exitStatus (result : Except RunError Unit) : Nat × String :=
  match result with
  | .ok () => (0, "")
  | .error e => (e.status, e.report)

end CommandFront
