import PluginStudio.Settings

/-
  How the studio's page is shown once the server is up.

  Key definitions include:
    * `PluginStudio.Launcher`
    * `PluginStudio.Launcher.detect`
    * `PluginStudio.Launcher.opener`
-/

------------------------------------------------------------
-- Launchers
------------------------------------------------------------

namespace PluginStudio

/- Ways to show the page. -/
inductive Launcher where
  | browser
  | headless
deriving DecidableEq, Repr

namespace Launcher

def headlessVar : String := "REDSTONE_HEADLESS"

/- Variables that tell of a display. -/
def displayVars : List String :=
  ["DISPLAY", "WAYLAND_DISPLAY"]

/- Is there a display to open a browser on? -/
def hasDisplay (env : Environment) : Bool :=
  displayVars.any env.isGiven

/- Does the environment ask for no browser? -/
def isForcedHeadless (env : Environment) : Bool :=
  match env.text? headlessVar with
  | some value => value ≠ "" && value ≠ "0"
  | none => false

/- The way that fits a flag and the environment. -/
def detect
    (force : Bool)
    (env : Environment) : Launcher :=
  if force || isForcedHeadless env || !hasDisplay env then
    .headless
  else
    .browser

/- The program that opens a page, and its arguments. -/
def opener (url : String) : String × List String :=
  ("xdg-open", [url])

end Launcher

end PluginStudio
