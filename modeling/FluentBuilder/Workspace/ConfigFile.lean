import FluentBuilder.Workspace.EnvironmentFile
import FluentBuilder.Workspace.Failure
import FluentBuilder.Workspace.FileTree
import FluentBuilder.Workspace.Settings

/-!
# Configuration files

A configuration is looked for in a directory and the directories above it.  Variables for it may
stand in an environment file, which is looked for in the same way.

* `FileTree.findConfig`: the path of the configuration file.
* `FileTree.loadConfig`, `FileTree.loadSettings`: what a configuration file says.
* `FileTree.extendEnvironment`: the environment with the variables of the environment file.
-/

namespace FluentBuilder

namespace FileTree

/-- The path of the working directory. -/
def workingPath (t : FileTree) : String :=
  "/" ++ "/".intercalate t.working

/-- The configuration file in the first directory that has one, from a path upwards. -/
def findConfig (t : FileTree) (start : String) : Except WorkspaceError String :=
  match ((FilePath.ancestors start).map fun up => FilePath.join up configFileName).find?
    t.exists? with
  | some path => .ok path
  | none => .error (.configNotFound start)

/-- The configuration in a file. -/
def loadConfig (t : FileTree) (env : Environment) (path : String) : Except WorkspaceError Config :=
  match t.read? path with
  | some text => (Config.parse env text).mapError .config
  | none => .error .access

/-- The settings in a configuration file, whose paths start at the directory of the file. -/
def loadSettings (t : FileTree) (env : Environment) (path : String) :
    Except WorkspaceError Settings := do
  let config ← t.loadConfig env path
  return Settings.ofConfig config ((FilePath.parent? path).getD ".")

/-- The name of an environment file. -/
def environmentFileName : String :=
  ".env"

/-- The environment with the variables of the environment file in the first directory that has one,
from the working directory upwards. -/
def extendEnvironment (t : FileTree) (env : Environment) : Environment :=
  let paths := (FilePath.ancestors t.workingPath).map fun up => FilePath.join up environmentFileName
  match (paths.find? t.isFile).bind t.content? with
  | some (.text s) => env.load s
  | some (.bytes bs) => env.loadBytes bs
  | none => env

/-- The configuration for the working directory, with the path of its file. -/
def configAround (t : FileTree) (env : Environment) : Except WorkspaceError (Config × String) := do
  let path ← t.findConfig t.workingPath
  return (← t.loadConfig env path, path)

/-- The settings for the package that the environment names, or for the working directory. -/
def settingsAround (t : FileTree) (env : Environment) : Except WorkspaceError Settings := do
  let start := (env.get? "CARGO_MANIFEST_DIR").getD t.workingPath
  t.loadSettings env (← t.findConfig start)

end FileTree

end FluentBuilder
