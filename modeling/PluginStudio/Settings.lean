import PluginStudio.Path

/-
  Where the studio keeps its files.

  Key definitions include:
    * `PluginStudio.Environment`
    * `PluginStudio.Settings`
    * `PluginStudio.Settings.ofProgramDir`
    * `PluginStudio.Settings.withResourcesDir`
    * `PluginStudio.Settings.withWorkspace`

  Every place derives from the directory of the program, and
  each can be set by a variable of the environment.
-/

------------------------------------------------------------
-- Environment
------------------------------------------------------------

namespace PluginStudio

/- Variables that a process is started with, by name. -/
abbrev Environment :=
  List (String × Bytes)

namespace Environment

/- The value of a variable. -/
def get?
    (env : Environment)
    (name : String) : Option Bytes :=
  env.lookup name

/- Without a variable. -/
def unset
    (env : Environment)
    (name : String) : Environment :=
  env.filter fun entry => entry.1 ≠ name

/- With a value for a variable. -/
def set
    (env : Environment)
    (name : String)
    (value : Bytes) : Environment :=
  (name, value) :: env.unset name

/- Is the variable set, and not to nothing? -/
def isGiven
    (env : Environment)
    (name : String) : Bool :=
  match env.get? name with
  | some (_ :: _) => true
  | _ => false

/- The text of a variable, if it is one. -/
def text?
    (env : Environment)
    (name : String) : Option String :=
  (env.get? name).bind Utf8.decode?

/- The path that a variable gives, if it is set and not empty. -/
def path?
    (env : Environment)
    (name : String) : Option Path :=
  match env.get? name with
  | some (b :: bytes) => some (Octets.text (b :: bytes))
  | _ => none

end Environment

end PluginStudio

------------------------------------------------------------
-- Settings
------------------------------------------------------------

namespace PluginStudio

/- The places that the studio works with. -/
structure Settings where
  programDir : Path
  resourcesDir : Path
  staticDir : Path
  workspace : Path
  mavenHome : Path
deriving DecidableEq, Repr

namespace Settings

def resourcesVar : String := "REDSTONE_RESOURCES_DIR"
def workspaceVar : String := "REDSTONE_BUILD_DIR"
def mavenHomeVar : String := "REDSTONE_MAVEN_HOME"

/- The tool's home within the resources, or the one that is set. -/
def mavenHomeIn
    (env : Environment)
    (resources : Path) : Path :=
  (env.path? mavenHomeVar).getD (resources.join "maven")

/- The settings of a program in a directory. -/
def ofProgramDir
    (env : Environment)
    (programDir : Path) : Settings :=
  let resources :=
    (env.path? resourcesVar).getD (programDir.join "resources")
  { programDir := programDir
    resourcesDir := resources
    staticDir := resources
    workspace :=
      (env.path? workspaceVar).getD (programDir.join "builds")
    mavenHome := mavenHomeIn env resources }

/-
  With another resources directory.  The tool's home follows
  unless the environment sets it.
-/
def withResourcesDir
    (settings : Settings)
    (env : Environment)
    (dir : Path) : Settings :=
  { settings with
    resourcesDir := dir
    staticDir := dir
    mavenHome :=
      if (env.isGiven mavenHomeVar) then
        settings.mavenHome
      else
        dir.join "maven" }

/- With another workspace. -/
def withWorkspace
    (settings : Settings)
    (dir : Path) : Settings :=
  { settings with workspace := dir }

end Settings

end PluginStudio
