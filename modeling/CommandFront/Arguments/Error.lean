import CommandFront.Flag.Basic
import CommandFront.Text.Terminal

/-!
# Why arguments are refused

- `ArgumentError`: the causes, with their wording in `ArgumentError.message`.
- `ArgumentError.status`: the exit status of a program that refuses its arguments.
-/

namespace CommandFront

/-- Why the arguments of a program are refused. -/
inductive ArgumentError where
  /-- A flag that the level does not know, or a positional that it does not take. -/
  | unexpected (shown : String)
  /-- A flag without the value that it needs. -/
  | missingValue (flag : Flag)
  /-- A flag that is given twice on one level. -/
  | repeated (flag : Flag)
  /-- A switch with a value. -/
  | tooManyValues (flag : Flag) (value : String)
  /-- Ill-formed text where text is wanted. -/
  | invalidUtf8
deriving DecidableEq, Repr

namespace ArgumentError

/-- A text between quotes, as a terminal shows it. A control sequence in it ends with it. -/
def quoted (text : String) : String :=
  "'" ++ Text.withoutControls text ++ "'"

/-- The error in words. What it quotes may hold line breaks. -/
def message : ArgumentError → String
  | unexpected shown => "error: unexpected argument " ++ quoted shown ++ " found"
  | missingValue flag =>
    "error: a value is required for " ++ quoted flag.signature ++ " but none was supplied"
  | repeated flag =>
    "error: the argument " ++ quoted flag.signature ++ " cannot be used multiple times"
  | tooManyValues flag value =>
    "error: unexpected value " ++ quoted value ++ " for " ++ quoted flag.signature
      ++ " found; no more were expected"
  | invalidUtf8 => "error: invalid UTF-8 was detected in one or more arguments"

/-- The exit status of a program that refuses its arguments. -/
def status : Nat :=
  2

end ArgumentError

end CommandFront
