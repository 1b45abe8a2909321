import LiveShader.Files.Path

/-!
# The environment

The variables that a user sets before the program starts, and the place of the configuration's
file that follows from them.
-/
namespace LiveShader

/-- The variables that count. -/
structure Environment where
  /-- A configuration to use unless the command line names one. -/
  configFile : Option String
  /-- The folder of the configuration. -/
  configFolder : Option String
  /-- The folder of all configurations of the user. -/
  userConfigFolder : Option String
  /-- The user's own folder. -/
  home : Option String
  /-- The user's own folder as the system knows it, for when no variable tells. -/
  accountHome : String

namespace Environment

/-- The value of a variable that is set to something. -/
def given? (setting : Option String) : Option String :=
  match setting with
  | some "" => none
  | other => other

/-- The folder of all configurations of the user. A relative one does not count. -/
def userFolder (environment : Environment) : String :=
  match environment.userConfigFolder with
  | some folder => if Path.isAbsolute folder then folder else standard
  | none => standard
where
  standard : String := Path.join ((given? environment.home).getD environment.accountHome) ".config"

/-- The folder of the configuration. -/
def folder (environment : Environment) : String :=
  (given? environment.configFolder).getD (Path.join environment.userFolder "shadelive")

/-- The configuration's file. -/
def file (environment : Environment) : String :=
  Path.join environment.folder "shadelive.toml"

end Environment

end LiveShader
