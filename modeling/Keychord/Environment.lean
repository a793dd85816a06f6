import Keychord.Files

/-!
# Where the program keeps its files

The program has a directory of its own inside the user's directory for configuration. The
latter is given by the environment, or else lies in the home directory. Paths are put
together as text and are not brought into any normal form.
-/
namespace Keychord

/-- What the environment says about directories; a variable may be set to nothing. -/
structure Environment where
  configHome : Option String := none
  home : Option String := none

namespace Environment

/-- A path and a name below it, with a slash between them unless there is one or the path is
empty. -/
def join (path name : String) : String :=
  if path.isEmpty || path.endsWith "/" then path ++ name else path ++ "/" ++ name

/-- The program's own directory. -/
def configDir? (env : Environment) : Option String :=
  (env.configHome <|> env.home.map (join · ".config")).map (join · "keymatch")

/-- The shortcut file that is used when none is named. -/
def shortcutsFile? (env : Environment) : Option String :=
  env.configDir?.map (join · "shortcuts.yaml")

/-- The directory for logs. -/
def logsDir? (env : Environment) : Option String := env.configDir?.map (join · "logs")

/-- The message if the environment gives no directory. -/
def noDirectory : String := "No config directory available"

/-- The message if a directory cannot be made. -/
def notMade (path reason : String) : String :=
  "Failed to create directory " ++ path ++ ": " ++ reason

/-- Makes sure that the directory for logs is there, and gives its path, or a message if it
cannot be had. -/
def ensureLogsDir (env : Environment) (files : Files) : Except String String × Files :=
  match env.logsDir? with
  | none => (.error noDirectory, files)
  | some path =>
    match files.makeDirectories path with
    | (none, files) => (.ok path, files)
    | (some problem, files) => (.error (notMade path problem.message), files)

end Environment
end Keychord
