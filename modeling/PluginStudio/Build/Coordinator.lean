import PluginStudio.Artifact
import PluginStudio.Project.Materialize
import PluginStudio.Settings
import PluginStudio.Tool.Invoke
import PluginStudio.Toolchain.Resolve

/-
  Builds from request to artifact.

  Key definitions include:
    * `PluginStudio.Coordinator`
    * `PluginStudio.Coordinator.ofSettings`
    * `PluginStudio.Coordinator.stages`
    * `PluginStudio.Coordinator.build`
    * `PluginStudio.Coordinator.buildAll`

  A build goes through four stages.  Each publishes its phase
  and does its work, and the first that fails is the last.
-/

------------------------------------------------------------
-- Coordinators
------------------------------------------------------------

namespace PluginStudio

/- Where builds take place, and with which tool. -/
structure Coordinator where
  workspace : Path
  tool : Toolchain
  run : Tool.Runner

namespace Settings

/- Create the directory that projects are laid out in. -/
def ensureWorkspace
    (settings : Settings) : Studio (Except IoFault Unit) :=
  Studio.onFiles fun fs dir => fs.makeDirs dir settings.workspace

end Settings

namespace Coordinator

/- Choose the tool as the settings say. -/
def ofSettings
    (run : Tool.Runner)
    (settings : Settings) : Studio Coordinator := do
  let tool ← Toolchain.resolve settings.mavenHome
  return ⟨settings.workspace, tool, run⟩

end Coordinator

end PluginStudio

------------------------------------------------------------
-- Stages
------------------------------------------------------------

namespace PluginStudio

namespace Coordinator

/- Lay the project out. -/
def materializeStage
    (coordinator : Coordinator)
    (request : Request) : ExceptT Build.Failure Studio Path := do
  Studio.publish .materializing
  Studio.pause
  let tree ← ExceptT.adapt Build.Failure.project
    (Project.materialize coordinator.workspace request)
  return tree.root

/- Run the tool in the project. -/
def invokeStage
    (coordinator : Coordinator)
    (request : Request)
    (root : Path) : ExceptT Build.Failure Studio Unit := do
  Studio.publish .building
  Studio.report .build .info "running build tool"
    [⟨"plugin", request.pluginName, false⟩]
  let outcome ← ExceptT.adapt Build.Failure.tool
    (Tool.invoke coordinator.run coordinator.tool root)
  if !outcome.status.success then
    let text ← Tool.readConsole outcome.output
    throw (.unsuccessful outcome.status text)

/- Take the artifact out of the project. -/
def loadStage
    (request : Request)
    (root : Path) : ExceptT Build.Failure Studio Artifact := do
  Studio.publish .selecting
  let path ← ExceptT.adapt Build.Failure.artifact
    (Artifact.select root)
  Studio.pause
  let artifact ← ExceptT.adapt Build.Failure.artifact
    (Artifact.readAt path)
  Studio.report .build .info "selected artifact"
    [⟨"plugin", request.pluginName, false⟩,
      ⟨"path", artifact.path.display, false⟩,
      ⟨"bytes", toString artifact.bytes.length, false⟩]
  return artifact

/- Clear the project away. -/
def cleanupStage (root : Path) : ExceptT Build.Failure Studio Unit := do
  Studio.publish .streaming
  Studio.pause
  Project.cleanup root

end Coordinator

end PluginStudio

------------------------------------------------------------
-- Builds
------------------------------------------------------------

namespace PluginStudio

namespace Build

/- What a build ends with. -/
abbrev Result :=
  Except Failure Artifact

end Build

namespace Coordinator

/- The stages, one after the other. -/
def stages
    (coordinator : Coordinator)
    (request : Request) : ExceptT Build.Failure Studio Artifact := do
  let root ← coordinator.materializeStage request
  coordinator.invokeStage request root
  let artifact ← loadStage request root
  cleanupStage root
  return artifact

/- Report a build that failed. -/
def reportFailure
    (request : Request)
    (result : Build.Result) : Studio Unit :=
  match result with
  | .ok _ => return
  | .error failure =>
    Studio.report .build .warn "build failed"
      [⟨"plugin", request.pluginName, false⟩,
        ⟨"error", failure.message, false⟩]

/- Build what a request asks for. -/
def build
    (coordinator : Coordinator)
    (request : Request) : Studio Build.Result := do
  let result ← (coordinator.stages request).run
  Studio.publish .idle
  reportFailure request result
  return result

/- Build several requests, each when the one before is done. -/
def buildAll
    (coordinator : Coordinator) :
    List Request → Studio (List Build.Result)
  | [] => return []
  | request :: requests => do
    let result ← coordinator.build request
    let results ← coordinator.buildAll requests
    return result :: results

end Coordinator

end PluginStudio
