import PluginStudio.Proofs.Build.Outcome
import PluginStudio.Proofs.Project.Workspace

/-
  Builds that fail stay in the workspace.

  Main declarations:
    * `Tool.Behaviour.Confined.node?_of_prefix`
    * `Coordinator.failed_outside`

  Where a build fails, nothing has been removed yet.  The project
  was laid out in the workspace, if at all, and a confined tool
  has worked in the project.
-/

------------------------------------------------------------
-- Failing Builds
------------------------------------------------------------

namespace PluginStudio

open FileSystem

/- A tool in a workspace changes nothing outside of it. -/
theorem Tool.Behaviour.Confined.node?_of_prefix
    {behave : Tool.Behaviour}
    (hTool : behave.Confined)
    {command : Command}
    {fs : FileSystem}
    {start root place : Place}
    {mode : Nat}
    (hStat :
      fs.stat start true command.dir = .ok (place, .directory mode))
    (hInside : root <+: place)
    {q : Place}
    (hOut : ¬ root <+: q) :
    (behave command fs start).2.node? q = fs.node? q := by
  apply hTool.outside hStat
  rw [← Bool.not_eq_true, Place.below_iff]
  exact fun hBelow => hOut (hInside.trans hBelow.1)

namespace Coordinator

open Project Build

/-
  A build that fails has changed nothing outside of the workspace,
  if that stays where it is while the project's place is cleared.
-/
theorem failed_outside
    {behave : Tool.Behaviour}
    (hTool : behave.Confined)
    {coordinator : Coordinator}
    (hRun : coordinator.run = Tool.behaving behave)
    {request : Request}
    (hSafe : request.Safe)
    {world : World}
    (hFiles : world.files.WellFormed)
    {root : Place}
    {links : Nat}
    (hReach :
      world.files.reach world.dir coordinator.workspace =
        .ok (root, links))
    (hWorkspace :
      ".." ∉ coordinator.workspace.parts ∨
        (reconcile .standard (dir coordinator.workspace request)
          world).2.files.names world.dir Node.isDirectory
            coordinator.workspace = true)
    {failure : Build.Failure}
    (hFailed :
      (coordinator.build request world).1 = .error failure)
    {q : Place}
    (hOut : ¬ root <+: q) :
    (coordinator.build request world).2.files.node? q =
      world.files.node? q := by
  rcases coordinator with ⟨workspace, tool, run⟩
  simp only at hRun hReach hWorkspace
  subst hRun
  rcases hLaid : materialize workspace request world with
    ⟨laid, after⟩
  rcases materialize_outside hSafe hFiles hReach hWorkspace hLaid with
    ⟨hOutside, hPlace⟩
  rcases ends_build tool behave hLaid with ⟨hEnds, -⟩
  have hLeft :
      ∀ tree, laid = .ok tree →
        (behave (tool.command (dir workspace request)) after.files
          world.dir).2.node? q = world.files.node? q := by
    intro tree hOk
    rcases hPlace tree hOk with ⟨place, mode, hStat, hInside⟩
    rw [← Toolchain.dir_command tool (dir workspace request)] at hStat
    rw [hTool.node?_of_prefix hStat hInside hOut, hOutside q hOut]
  rcases hBuilt :
      build ⟨workspace, tool, Tool.behaving behave⟩ request world with
    ⟨result, final⟩
  rw [hBuilt] at hEnds hFailed
  simp only at hEnds hFailed
  subst hFailed
  rcases final with ⟨files, start, clock, journal, moments⟩
  cases hEnds with
  | unlaid => exact hOutside q hOut
  | unstarted hOk | unsuccessful hOk | unselected hOk | unread hOk =>
      exact hLeft _ hOk

end Coordinator

end PluginStudio
