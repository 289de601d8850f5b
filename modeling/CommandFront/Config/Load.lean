import CommandFront.Config.Decode
import CommandFront.Config.Location
import CommandFront.Journal
import CommandFront.Toml.Document

/-!
# Loading a configuration

A file that is named has to be there, and one at the default place may be missing. If there is
something at the default place that cannot be read as text, it is not passed over, and the load
fails.

- `ServerConfig.ofFile`: the configuration in a file.
- `ServerConfig.load`: the one in a given file, which has to be there; else the one at the default
  place; else the defaults.
-/

namespace CommandFront

namespace ServerConfig

/-- The configuration in a text that was read from a path. -/
def ofText (path : Path) (source : String) : Except ConfigError ServerConfig :=
  match Toml.parse? source with
  | none => .error (.malformed path)
  | some members => (decode members).mapError (.mismatch path)

/-- The configuration in a file. -/
def ofFile (around : Surroundings) (path : Path) : Except ConfigError ServerConfig := do
  ofText path (← (around.read path).mapError (.unreadable path))

/-- A log record of this module. -/
def record (level : LogLevel) (message : String) : LogRecord where
  level := level
  target := "strata::config"
  message := message

/-- The configuration in a file, with a record of it. -/
def loadFile (around : Surroundings) (path : Path) : Journal ConfigError ServerConfig := do
  let config ← Journal.ofExcept (ofFile around path)
  Journal.log (record .info ("loaded config from " ++ path.lossy))
  return config

/-- The configuration at a path, or at the default place, or else the defaults. -/
def load (around : Surroundings) (path : Option Path) : Journal ConfigError ServerConfig :=
  match path with
  | some path => loadFile around path
  | none =>
    if around.Holds around.configPath then loadFile around around.configPath
    else do
      Journal.log (record .debug "no config file found, using defaults")
      return {}

end ServerConfig

end CommandFront
