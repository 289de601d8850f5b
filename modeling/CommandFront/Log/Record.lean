/-!
# Log records

- `LogLevel`: how grave a record is, with its name.
- `LogRecord`: a message with its level and the part of the program that it comes from.
- `LogRecord.timing`: the record at the end of a timed step.
-/

namespace CommandFront

/-- How grave a log record is. -/
inductive LogLevel where
  /-- The program cannot go on. -/
  | error
  /-- Something is amiss. -/
  | warn
  /-- A step that matters to the user. -/
  | info
  /-- A step that matters to the developer. -/
  | debug
  /-- Every detail. -/
  | trace
deriving DecidableEq, Repr

namespace LogLevel

/-- The place of a level, the gravest first. -/
def rank : LogLevel → Nat
  | error => 1
  | warn => 2
  | info => 3
  | debug => 4
  | trace => 5

/-- The name of a level. -/
def name : LogLevel → String
  | error => "ERROR"
  | warn => "WARN"
  | info => "INFO"
  | debug => "DEBUG"
  | trace => "TRACE"

end LogLevel

/-- A message to the log. -/
structure LogRecord where
  /-- How grave it is. -/
  level : LogLevel
  /-- The part of the program that it comes from. -/
  target : String
  /-- The text. -/
  message : String
deriving DecidableEq, Repr

namespace LogRecord

/-- The level and the message. -/
def brief (r : LogRecord) : String :=
  r.level.name ++ " " ++ r.message

/-- The end of a timed step. -/
def timing (step : String) (succeeded : Bool) (elapsed : String) : LogRecord where
  level := .debug
  target := "strata::logging"
  message := step ++ (if succeeded then " finished in " else " failed in ") ++ elapsed

end LogRecord

end CommandFront
