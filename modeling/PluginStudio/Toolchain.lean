import PluginStudio.Path

/-
  The build tool and the command that runs it.

  Key definitions include:
    * `PluginStudio.Toolchain`
    * `PluginStudio.Toolchain.interpreted`
    * `PluginStudio.Command`
    * `PluginStudio.Toolchain.command`
-/

------------------------------------------------------------
-- Toolchains
------------------------------------------------------------

namespace PluginStudio

/- A build tool that was chosen. -/
structure Toolchain where
  program : Path
  leadingArgs : List String
  home : Path
deriving DecidableEq, Repr

/-
  A program to start, with what it is started with.  Arguments
  and values of variables hold bytes.
-/
structure Command where
  program : Path
  args : List String
  dir : Path
  vars : List (String × String)
deriving DecidableEq, Repr

namespace Toolchain

/- A clean and quiet package build without tests. -/
def buildArgs : List String :=
  ["clean", "package", "-DskipTests", "-q"]

/- Variable that tells the tool where its home is. -/
def homeVar : String := "MAVEN_HOME"

/- The tool's name where none is bundled. -/
def searchedProgram : String := "mvn"

/- A tool that is a program by itself. -/
def direct
    (program home : Path) : Toolchain where
  program := program
  leadingArgs := []
  home := home

/- A tool that an interpreter runs. -/
def interpreted
    (interpreter : Path)
    (args : List String)
    (program home : Path) : Toolchain where
  program := interpreter
  leadingArgs := args ++ [program]
  home := home

/- The command that builds a project. -/
def command
    (tool : Toolchain)
    (dir : Path) : Command where
  program := tool.program
  args := tool.leadingArgs ++ buildArgs
  dir := dir
  vars := [(homeVar, tool.home)]

end Toolchain

end PluginStudio
