import PluginStudio.Build.Failure
import PluginStudio.Console
import PluginStudio.Toolchain
import PluginStudio.World

/-
  Running the build tool.

  Key definitions include:
    * `PluginStudio.Tool.Outcome`
    * `PluginStudio.Tool.Runner`
    * `PluginStudio.Tool.invoke`
    * `PluginStudio.Tool.readConsole`

  How a command is run is left open: a runner is any way from a
  command to an exit status and an output, which may change the
  world as it runs.

  A runner has a fault only where the program was not started.
  The pipe for the output is taken to open, and the wait for a
  program that was started and the reading of its output are
  taken not to fail, so that no run comes to `Failure.capture`.
-/

------------------------------------------------------------
-- Runs
------------------------------------------------------------

namespace PluginStudio

namespace Tool

/- What a finished program leaves. -/
structure Outcome where
  status : ExitStatus
  output : Bytes
deriving DecidableEq, Repr

/- A way to run commands. -/
abbrev Runner :=
  Command → Studio (Except IoFault Outcome)

/- Run the build tool in a project until it ends. -/
def invoke
    (run : Runner)
    (tool : Toolchain)
    (project : Path) : ExceptT Failure Studio Outcome :=
  ExceptT.mk do
    Studio.report .invocation .debug "spawning build tool"
      [⟨"program", tool.program.display, false⟩,
        ⟨"dir", project.display, false⟩]
    match ← run (tool.command project) with
    | .error fault => return .error (.spawn tool.program fault)
    | .ok outcome =>
      Studio.pause
      Studio.report .invocation .info "build tool exited"
        [⟨"status", outcome.status.message, false⟩,
          ⟨"bytes", toString outcome.output.length, false⟩]
      return .ok outcome

/- The text on the console.  Bytes without meaning are reported. -/
def readConsole (output : Bytes) : Studio String := do
  let decoded := Console.decode output
  if decoded.faulty then
    Studio.report .console .debug
      "console output contained undecodable sequences"
      [⟨"len", toString output.length, false⟩]
  return decoded.text

end Tool

end PluginStudio
