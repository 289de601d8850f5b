import CommandFront.FileSystem

/-!
# Where configurations are

- `Surroundings`: the files and the environment of a program.
- `Surroundings.Holds`: whether there is something at a path.
- `Surroundings.configPath`: the default place of the configuration.
-/

namespace CommandFront

/-- The files and the environment of a program. -/
structure Surroundings where
  /-- The text of the file at a path. -/
  read : Path → Except FileError String
  /-- The home directory by the environment. -/
  home : Option OsText := none
  /-- The directory for configurations by the environment. -/
  configHome : Option OsText := none
  /-- The home directory by the user database. -/
  userHome : Path := OsText.ofString "/root"

namespace Surroundings

/-- There is something at a path, whether it can be read as text or not. -/
def Holds (s : Surroundings) (path : Path) : Prop :=
  match s.read path with
  | .ok _ => True
  | .error e => e.IsPresence

instance (s : Surroundings) (path : Path) : Decidable (s.Holds path) := by
  unfold Holds
  split <;> infer_instance

/-- The home directory; an empty one does not count. -/
def homeDirectory (s : Surroundings) : Path :=
  match s.home with
  | none => s.userHome
  | some path => if path = [] then s.userHome else path

/-- The directory for configurations; a relative one does not count. -/
def configDirectory (s : Surroundings) : Path :=
  match s.configHome with
  | none => Path.join s.homeDirectory ".config"
  | some path => if Path.isAbsolute path then path else Path.join s.homeDirectory ".config"

/-- The default place of the configuration. -/
def configPath (s : Surroundings) : Path :=
  Path.join (Path.join s.configDirectory "strata") "config.toml"

end Surroundings

end CommandFront
