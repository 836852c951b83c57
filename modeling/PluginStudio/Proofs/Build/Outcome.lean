import PluginStudio.Proofs.Build.Isolation
import PluginStudio.Proofs.Build.Stages

/-
  How a build ends, and what it leaves.

  Key definitions include:
    * `PluginStudio.Tool.Behaviour.Confined`
    * `PluginStudio.Project.Remains`
    * `PluginStudio.Project.Finished`

  Main declarations:
    * `FileSystem.removeTree_of_entry`
    * `Project.Site.removeTree`
    * `Project.furnish_of_materialize`, `Project.site_of_materialize`
    * `Coordinator.build_outcome`
    * `Coordinator.build_leaves_strays`

  A build delivers exactly if all of its stages succeed, and then
  nothing is left of its project.  Where a stage fails, the files
  stay as that stage found or left them.
-/

------------------------------------------------------------
-- Removing A Project
------------------------------------------------------------

namespace PluginStudio

namespace FileSystem

variable {fs : FileSystem} {start place : Place}

/-
  A directory is removed with all that is in it, unless the way
  to it leads through there.
-/
theorem removeTree_of_entry
    {p : Path}
    {name : String}
    {mode : Nat}
    (hSlash : p.endsWithSlash = false)
    (hHere : fs.Occupied start p place name (.directory mode))
    (hWay :
      (fs.eraseBelow (place ++ [name])).Entry start p place name) :
    fs.removeTree start p =
      (.ok (),
        (fs.eraseBelow (place ++ [name])).erase
          (place ++ [name])) := by
  have hStays :
      (fs.eraseBelow (place ++ [name])).node? (place ++ [name]) =
        some (.directory mode) := by
    rw [node?_eraseBelow, if_neg (by simp), hHere.node]
  have hRemove :
      (fs.eraseBelow (place ++ [name])).removeDir start p =
        .ok ((fs.eraseBelow (place ++ [name])).erase
          (place ++ [name])) := by
    rw [removeDir_of_entry hWay, if_neg (Nat.not_lt.mpr hHere.long),
      hStays]
    simp [Node.isDirectory, hasChildren_eraseBelow]
  rw [removeTree, hHere.stat hSlash]
  simp only [hRemove]

/- Nothing is left at a place that was removed, or below it. -/
theorem node?_removed
    (fs : FileSystem)
    {place : Place}
    (hPlace : place ≠ [])
    (q : Place) :
    ((fs.eraseBelow place).erase place).node? q =
      if place <+: q then none else fs.node? q := by
  rw [node?_erase _ hPlace, node?_eraseBelow]
  by_cases hEq : q = place
  · subst hEq
    simp
  · simp [hEq]

end FileSystem

namespace Project

open FileSystem

variable {workspace : Path} {request : Request}
variable {contents clear files left : FileSystem}
variable {start place : Place}

namespace Site

theorem entry
    (hSite :
      Site workspace request contents files start clear place)
    (hNamed : request.Named) :
    clear.Entry start (dir workspace request) place
      (entryName request) := by
  rcases hSite.reach with ⟨links, hReach⟩
  exact entry_dir hNamed hSite.check hReach

/- Nothing stood in the project's place. -/
theorem node?_clear
    (hSite :
      Site workspace request contents files start clear place)
    {q : Place}
    (hWithin : place ++ [entryName request] <+: q) :
    clear.node? q = none :=
  hSite.wellFormed.node?_eq_none_of_prefix_absent hSite.free hWithin

/- What is done in the project changes nothing outside of it. -/
theorem outside
    (hSite :
      Site workspace request contents files start clear place)
    (hLeft :
      ∀ q, q.below (place ++ [entryName request]) = false →
        left.node? q = files.node? q)
    {q : Place}
    (hOut : ¬ place ++ [entryName request] <+: q) :
    left.node? q = clear.node? q := by
  rw [hLeft q, hSite.inner.outside q hOut]
  rw [← Bool.not_eq_true, Place.below_iff]
  exact fun hBelow => hOut hBelow.1

/- It leaves the project where it was. -/
theorem occupied
    (hSite :
      Site workspace request contents files start clear place)
    (hNamed : request.Named)
    (hLeft :
      ∀ q, q.below (place ++ [entryName request]) = false →
        left.node? q = files.node? q) :
    left.Occupied start (dir workspace request) place
      (entryName request) (.directory dirMode) := by
  have hInner :=
    inner_of_outside hSite.wellFormed hSite.free
      fun q hOut => hSite.outside hLeft hOut
  refine ⟨(hSite.entry hNamed).of_keeps hInner.keeps, hSite.long, ?_⟩
  rw [hLeft _ (by simp [Place.below]), hSite.holds.node]

/-
  Whatever has been done in the project, it can be removed, and
  then all is as if there had been no project.
-/
theorem removeTree
    (hSite :
      Site workspace request contents files start clear place)
    (hNamed : request.Named)
    (hLeft :
      ∀ q, q.below (place ++ [entryName request]) = false →
        left.node? q = files.node? q) :
    (left.removeTree start (dir workspace request)).1 = .ok () ∧
      ∀ q,
        (left.removeTree start (dir workspace request)).2.node? q =
          clear.node? q := by
  have hKeeps :
      (left.eraseBelow (place ++ [entryName request])).Keeps
        clear := by
    apply Inner.keeps
      (inner_of_outside hSite.wellFormed hSite.free ?_)
    intro q hOut
    rw [node?_eraseBelow, if_neg, hSite.outside hLeft hOut]
    rw [Place.below_iff]
    exact fun hBelow => hOut hBelow.1
  have hRemove :=
    removeTree_of_entry (endsInName_dir workspace hNamed).1
      (hSite.occupied hNamed hLeft)
      ((hSite.entry hNamed).of_keeps hKeeps)
  rw [hRemove]
  refine ⟨rfl, ?_⟩
  intro q
  rw [node?_removed _ (by simp)]
  split_ifs with hWithin
  · exact (hSite.node?_clear hWithin).symm
  · exact hSite.outside hLeft hWithin

end Site

/-
  Before a project that was laid out is furnished, its directory
  is new and empty.
-/
theorem furnish_of_materialize
    (hNamed : request.Named)
    {world after : World}
    (hFiles : world.files.WellFormed)
    (hWorkspace :
      ".." ∉ workspace.parts ∨
        (reconcile .standard (dir workspace request)
          world).2.files.names world.dir Node.isDirectory
            workspace = true)
    {tree : Tree}
    (hLaid :
      materialize workspace request world = (.ok tree, after)) :
    ∃ most place made,
      Grown world.dir (dir workspace request).ancestors
          (cleared world.files world.dir (dir workspace request)
            world.clock) most ∧
        Site workspace request empty made.files world.dir most
            place ∧
          made.dir = world.dir ∧
            ∃ done,
              furnish (Project.tree workspace request) request made =
                  (.ok (), done) ∧
                after.files = done.files ∧ after.dir = done.dir := by
  have hEnds := endsInName_dir workspace hNamed
  rcases reconcile_files (dir workspace request) world with
    ⟨hClear, hDir⟩
  have hClears :=
    clears_cleared world.files world.dir hEnds world.clock
  rcases hLayOut :
      layOut (Project.tree workspace request) request
        (reconcile .standard (Project.tree workspace request).root
          world).2 with
    ⟨outcome, done⟩
  rcases materialize_apply workspace request world hLayOut with
    ⟨hOutcome, hAfter⟩
  rw [hLaid] at hOutcome hAfter
  simp only at hOutcome hAfter
  cases outcome with
  | error failure => simp [Except.map] at hOutcome
  | ok u =>
      rw [layOut_apply, root_eq, hClear, hDir] at hLayOut
      rcases hMakeDirs :
          (cleared world.files world.dir (dir workspace request)
            world.clock).makeDirs world.dir
              (dir workspace request) with
        ⟨fault | _, made⟩
      · rw [hMakeDirs] at hLayOut
        cases hLayOut
      rw [hMakeDirs] at hLayOut
      rw [hClear] at hWorkspace
      rcases last_of_makeDirs_dir (wellFormed_cleared hFiles ..)
          hNamed (hClears.not_directory hFiles hEnds) hWorkspace
          hMakeDirs with
        ⟨most, hMost, hGrown, hMake⟩
      rcases create_ok hMake with
        ⟨place, name, hEntry, hLong, hFree, rfl⟩
      -- The names of the project lead through those of the workspace.
      rcases hEntry.way with ⟨ns, links, hNames, hReach⟩
      rw [names_dir workspace hNamed] at hNames
      rcases List.append_inj' hNames rfl with ⟨rfl, hName⟩
      rw [List.cons.injEq] at hName
      rw [← hName.1] at hLong hFree hLayOut
      rw [startOf, isAbsolute_dir workspace hNamed, ← startOf,
        ← reach] at hReach
      exact ⟨most, place,
        { (reconcile .standard (dir workspace request) world).2 with
          files :=
            most.put (place ++ [entryName request])
              (.directory dirMode)
          dir := world.dir },
        hGrown,
        site_put hNamed hEntry.check hLong hMost hReach hFree,
        rfl, done, hLayOut, hAfter⟩

/-
  A project that was laid out is all that is new, apart from the
  directories on the way to it.
-/
theorem site_of_materialize
    (hSafe : request.Safe)
    {world after : World}
    (hFiles : world.files.WellFormed)
    (hWorkspace :
      ".." ∉ workspace.parts ∨
        (reconcile .standard (dir workspace request)
          world).2.files.names world.dir Node.isDirectory
            workspace = true)
    {tree : Tree}
    (hLaid :
      materialize workspace request world = (.ok tree, after)) :
    ∃ most place contents,
      Grown world.dir (dir workspace request).ancestors
          (cleared world.files world.dir (dir workspace request)
            world.clock) most ∧
        Site workspace request contents after.files world.dir most
          place := by
  rcases furnish_of_materialize hSafe.named hFiles hWorkspace
      hLaid with
    ⟨most, place, made, hGrown, hSite, hDir, done, hDone, hAfter, -⟩
  rcases site_furnish workspace hSafe with ⟨result, contents, hRun⟩
  have hFurnish := hRun made most place (by rwa [hDir])
  rw [hDone, hDir] at hFurnish
  rw [hAfter]
  exact ⟨most, place, contents, hGrown, hFurnish.2.2⟩

end Project

end PluginStudio

------------------------------------------------------------
-- What A Finished Build Leaves
------------------------------------------------------------

namespace PluginStudio

namespace Project

open FileSystem

/-
  What is found at a place after a finished build: what was there
  before; nothing, if it belonged to what stood at the root; a
  directory that was made on the way to the root; or the previous
  occupant of the root, where it is kept.
-/
inductive Remains
    (before after : FileSystem)
    (start : Place)
    (root : Path)
    (aside : String)
    (q : Place) : Prop where
  | same
      (hAfter : after.node? q = before.node? q)
  | gone
      {place : Place} {node : Node}
      (hBefore : before.stat start false root = .ok (place, node))
      (hWithin : place <+: q)
      (hAfter : after.node? q = none)
  | made
      {p : Path}
      (hMem : p ∈ root.ancestors)
      (hBefore :
        before.node? q = none ∨
          ∃ place node,
            before.stat start false root = .ok (place, node) ∧
              place <+: q)
      (hAfter :
        after.stat start true p = .ok (q, .directory dirMode))
  | kept
      {place : Place} {name : String} {node : Node}
      (hBefore :
        before.stat start false root = .ok (place ++ [name], node))
      (hAside : q = place ++ [aside])
      (hFile : ∀ mode, before.node? q ≠ some (.directory mode))
      (hAfter : after.node? q = some node)

/-
  The workspace is there, nothing is at the project's place in it,
  and everything else is as it remains.
-/
def Finished
    (workspace : Path)
    (request : Request)
    (before after : World) : Prop :=
  ∃ place,
    (∃ links,
        after.files.reach before.dir workspace =
          .ok (place, links)) ∧
      (∀ q, place ++ [entryName request] <+: q →
          after.files.node? q = none) ∧
        ∀ q,
          Remains before.files after.files before.dir
            (dir workspace request)
            (asideName request before.clock) q

variable {workspace : Path} {request : Request}

/- Where the root was free, only the way to it is new. -/
theorem Remains.same_or_made
    {before after : FileSystem}
    {start q : Place}
    {root : Path}
    {aside : String}
    (hRemains : Remains before after start root aside q)
    (hFree : (before.stat start false root).isOk = false) :
    after.node? q = before.node? q ∨
      ∃ p ∈ root.ancestors,
        after.stat start true p =
          .ok (q, .directory dirMode) := by
  cases hRemains with
  | same hAfter => exact Or.inl hAfter
  | made hMem _ hAfter => exact Or.inr ⟨_, hMem, hAfter⟩
  | gone hBefore =>
      rw [hBefore] at hFree
      contradiction
  | kept hBefore =>
      rw [hBefore] at hFree
      contradiction

/- Clearing, and then making the way, leaves what remains. -/
theorem remains_of_grown
    (hNamed : request.Named)
    {before clear after : FileSystem}
    (hFs : before.WellFormed)
    {start : Place}
    {millis : Nat}
    (hClears :
      before.Clears start (dir workspace request)
        (asidePath (dir workspace request) millis) clear)
    (hGrown :
      Grown start (dir workspace request).ancestors clear after)
    (q : Place) :
    Remains before after start (dir workspace request)
      (asideName request millis) q := by
  have hSlash := (endsInName_dir workspace hNamed).1
  rcases hGrown q with
    hSame | ⟨hFree, hNode, p, hMem, hCheck, hReach⟩
  · rcases hClears.node? hFs q with
      hBefore | ⟨place, name, node, hHere, hWithin, hNone⟩ |
        ⟨place, name, node, place', name', hHere, -, -, hAside, hQ,
          hNode, hFile⟩
    · exact .same (hSame.trans hBefore)
    · exact .gone (hHere.stat hSlash) hWithin (hSame.trans hNone)
    · rcases entry_aside hNamed hHere.entry hAside with ⟨rfl, rfl⟩
      exact .kept (hHere.stat hSlash) hQ hFile (hSame.trans hNode)
  · rcases (stat_directory_iff hCheck q).mpr hReach with
      ⟨mode, hStat⟩
    have hMode := node?_of_stat hStat
    rw [hNode, Option.some.injEq, Node.directory.injEq] at hMode
    rw [← hMode] at hStat
    rcases hClears.node? hFs q with
      hBefore | ⟨place, name, node, hHere, hWithin, -⟩ |
        ⟨-, -, node, -, -, -, -, -, -, -, hKept, -⟩
    · exact .made hMem (Or.inl (hBefore ▸ hFree)) hStat
    · exact .made hMem
        (Or.inr ⟨place ++ [name], node, hHere.stat hSlash, hWithin⟩)
        hStat
    · simp [hFree] at hKept

end Project

namespace Tool

/-
  Commands that change nothing outside of the directory they are
  run in, and nothing at all if they are not started.
-/
structure Behaviour.Confined (behave : Behaviour) : Prop where
  unstarted :
    ∀ {command fs start fault},
      (behave command fs start).1 = .error fault →
        (behave command fs start).2 = fs
  outside :
    ∀ {command fs start place mode},
      fs.stat start true command.dir =
          .ok (place, .directory mode) →
        ∀ q, q.below place = false →
          (behave command fs start).2.node? q = fs.node? q

/- What commands that know only their directory do to the files. -/
def steps (act : Command → FileSystem → Deed) : Behaviour :=
  fun command fs start =>
    match fs.stat start true command.dir with
    | .ok (place, .directory _) =>
      let deed := act command (fs.inside place)
      (deed.outcome, fs.graft place deed.contents)
    | .ok _ => (FileSystem.refuse .notDirectory, fs)
    | .error fault => (.error fault, fs)

theorem within_eq_behaving
    (act : Command → FileSystem → Deed) :
    within act = behaving (steps act) := by
  funext command world
  rw [within, behaving, Studio.onFiles_apply, steps]
  rcases world.files.stat world.dir true command.dir with
    fault | ⟨place, node⟩
  · rfl
  · cases node with
    | directory mode => rfl
    | _ => rfl

/- They are confined, if they can be started. -/
theorem confined_steps
    {act : Command → FileSystem → Deed}
    (hStarts :
      ∀ command contents fault,
        (act command contents).outcome ≠ .error fault) :
    (steps act).Confined := by
  constructor
  · intro command fs start fault hFault
    rw [steps] at hFault ⊢
    rcases hStat : fs.stat start true command.dir with
      fault' | ⟨place, node⟩
    · rfl
    · cases node with
      | directory mode =>
          rw [hStat] at hFault
          exact absurd hFault (hStarts command _ fault)
      | _ => rfl
  · intro command fs start place mode hStat q hOut
    rw [steps, hStat]
    exact FileSystem.node?_graft_of_not_below _ _ _ hOut

end Tool

end PluginStudio

------------------------------------------------------------
-- Outcomes
------------------------------------------------------------

namespace PluginStudio

namespace Coordinator

open Project FileSystem Build

/- Once its tree is removed, a project has left no other trace. -/
theorem finished_of_left
    {behave : Tool.Behaviour}
    (hTool : behave.Confined)
    {workspace : Path}
    (tool : Toolchain)
    {request : Request}
    (hSafe : request.Safe)
    {world after final : World}
    (hFiles : world.files.WellFormed)
    (hWorkspace :
      ".." ∉ workspace.parts ∨
        (reconcile .standard (dir workspace request)
          world).2.files.names world.dir Node.isDirectory
            workspace = true)
    {tree : Tree}
    (hLaid :
      materialize workspace request world = (.ok tree, after))
    (hFinal :
      final.files =
        ((behave (tool.command (dir workspace request)) after.files
          world.dir).2.removeTree world.dir
            (dir workspace request)).2) :
    Finished workspace request world final := by
  have hNamed := hSafe.named
  rcases site_of_materialize hSafe hFiles hWorkspace hLaid with
    ⟨most, place, contents, hGrown, hSite⟩
  rcases (stat_directory_iff hSite.check _).mpr hSite.holds.reach with
    ⟨mode, hStat⟩
  have hLeft :
      ∀ q, q.below (place ++ [entryName request]) = false →
        (behave (tool.command (dir workspace request)) after.files
          world.dir).2.node? q = after.files.node? q := by
    apply hTool.outside
    rw [Toolchain.dir_command]
    exact hStat
  rcases hSite.removeTree hNamed hLeft with ⟨-, hSame⟩
  rw [← hFinal] at hSame
  have hKeeps : final.files.Keeps most := by
    intro q node hNode _
    rw [hSame, hNode]
  rcases hSite.reach with ⟨links, hReach⟩
  refine ⟨place, ⟨links, reach_of_keeps hKeeps hReach⟩, ?_, ?_⟩
  · intro q hWithin
    rw [hSame, hSite.node?_clear hWithin]
  · apply remains_of_grown hNamed hFiles
      (clears_cleared world.files world.dir
        (endsInName_dir workspace hNamed) world.clock)
    intro q
    rw [hSame]
    rcases hGrown q with
      hClear | ⟨hFree, hNode, p, hMem, hCheck, r, hPath⟩
    · exact Or.inl hClear
    · exact Or.inr ⟨hFree, hNode, p, hMem, hCheck, r,
        reach_of_keeps hKeeps hPath⟩

/-
  A build delivers an archive exactly if the project was laid out,
  the tool was started and succeeded, and the archive is the one
  chosen and can be read as the tool left it.  Then all that is
  left is the way to the workspace, and the previous occupant of
  the project's place if it was kept.

  It fails with its project exactly if that could not be laid out,
  and then whatever the tool is makes no difference.  Any other
  failure leaves the files as the tool has left them, or as they
  were laid out if it was not started.
-/
theorem build_outcome
    (workspace : Path)
    (tool : Toolchain)
    (behave : Tool.Behaviour)
    (hTool : behave.Confined)
    (request : Request)
    (hSafe : request.Safe)
    (world : World)
    (hFiles : world.files.WellFormed) :
    let root := dir workspace request
    let laid := materialize workspace request world
    let left := behave (tool.command root) laid.2.files world.dir
    let coordinator : Coordinator :=
      ⟨workspace, tool, Tool.behaving behave⟩
    let built := coordinator.build request world
    (∀ artifact,
        built.1 = .ok artifact ↔
          (∃ tree, laid.1 = .ok tree) ∧
            ∃ outcome,
              left.1 = .ok outcome ∧
                outcome.status.success = true ∧
                  Artifact.choose?
                      (Artifact.candidates left.2 world.dir
                        (root.join outputDir)) =
                    some artifact.path ∧
                    left.2.read world.dir artifact.path =
                      .ok artifact.bytes) ∧
      (∀ artifact,
        built.1 = .ok artifact →
          (".." ∉ workspace.parts ∨
            (reconcile .standard root world).2.files.names world.dir
              Node.isDirectory workspace = true) →
            Finished workspace request world built.2) ∧
      (∀ failure,
        built.1 = .error (.project failure) ↔
          laid.1 = .error failure) ∧
      (∀ failure,
        laid.1 = .error failure →
          built.2.files = laid.2.files ∧
            ∀ other : Coordinator,
              other.workspace = workspace →
                other.build request world = built) ∧
      (∀ failure,
        built.1 = .error (.tool failure) →
          (∃ fault,
            left.1 = .error fault ∧
              failure = .spawn tool.program fault) ∧
            built.2.files = laid.2.files) ∧
      (∀ status output,
        built.1 = .error (.unsuccessful status output) →
          built.2.files = left.2) ∧
      ∀ failure,
        built.1 = .error (.artifact failure) →
          built.2.files = left.2 := by
  dsimp only
  rcases hLaid : materialize workspace request world with
    ⟨laid, after⟩
  rcases ends_build tool behave hLaid with ⟨hEnds, -⟩
  have hNever :
      ∀ failure, laid = .error failure →
        ∀ other : Coordinator, other.workspace = workspace →
          other.build request world =
            build ⟨workspace, tool, Tool.behaving behave⟩ request
              world := by
    intro failure hFailure other hOther
    exact build_of_unlaid _ other hOther (by rw [hLaid, hFailure])
  rcases hBuilt :
      build ⟨workspace, tool, Tool.behaving behave⟩ request world with
    ⟨made, final⟩
  rw [hBuilt] at hEnds hNever
  dsimp only at hEnds hNever ⊢
  have hOk := hEnds.ok_iff
  have hProject := hEnds.project_iff
  have hLeft := hEnds.files_eq
  dsimp only at hOk hProject
  refine ⟨hOk, ?_, hProject, ?_, ?_, ?_, ?_⟩
  · rintro artifact rfl hWorkspace
    rcases (hOk artifact).mp rfl with ⟨⟨tree, rfl⟩, -⟩
    exact finished_of_left hTool tool hSafe hFiles hWorkspace hLaid
      hLeft
  · intro failure hFailure
    have hResult := (hProject failure).mpr hFailure
    subst hResult
    exact ⟨hLeft, hNever failure hFailure⟩
  · intro failure hResult
    rcases hEnds.unstarted_of_tool hResult with
      ⟨fault, hFault, hSpawn⟩
    subst hResult
    exact ⟨⟨fault, hFault, hSpawn⟩,
      hLeft.trans (hTool.unstarted hFault)⟩
  · rintro status output rfl
    exact hLeft
  · rintro failure rfl
    exact hLeft

/- A request for a plugin, with texts of its own. -/
def sample (name : String) : Request where
  pluginName := name
  mainClass := "M"
  pluginYml := "y"
  pomXml := "m"

/- A world in which nothing has happened yet. -/
def holding (nodes : List (Place × Node)) : World where
  files := ⟨nodes⟩
  dir := []
  clock := 0
  journal := []
  moments := []

/- Builds in a workspace, with a tool that does the same always. -/
def doing
    (workspace : Path)
    (deed : Tool.Deed) : Coordinator where
  workspace := workspace
  tool := .direct "mvn" ""
  run := Tool.behaving (Tool.steps fun _ _ => deed)

/- A workspace with a file in place of a project. -/
def blocked : World :=
  holding
    [(["b", "X"], .file fileMode [0]), (["b"], .directory dirMode)]

/- Where a file stood, it is kept beside the finished project. -/
theorem build_outcome_over_file :
    (Tool.steps fun _ _ => packing).Confined ∧
      (sample "X").Safe ∧ blocked.files.WellFormed ∧
        ((doing "/b" packing).build (sample "X") blocked).1 =
            .ok ⟨"/b/X/target/a.jar", [1]⟩ ∧
          Finished "/b" (sample "X") blocked
            ((doing "/b" packing).build (sample "X") blocked).2 := by
  have hTool : (Tool.steps fun _ _ => packing).Confined :=
    Tool.confined_steps (by simp [packing])
  have hSafe : (sample "X").Safe := ⟨by decide, by decide, by decide⟩
  have hFiles : blocked.files.WellFormed := .of_entries (by decide)
  have hBuilt :
      ((doing "/b" packing).build (sample "X") blocked).1 =
        .ok ⟨"/b/X/target/a.jar", [1]⟩ := by
    decide +kernel
  rcases build_outcome "/b" (.direct "mvn" "") _ hTool (sample "X")
      hSafe blocked hFiles with
    ⟨-, hFinished, -⟩
  exact ⟨hTool, hSafe, hFiles, hBuilt,
    hFinished _ hBuilt (Or.inl (by decide))⟩

/-
  The project's place was found clear, the archive was delivered
  and the project removed, but more than the project is changed.
-/
def Strays
    (workspace : Path)
    (request : Request)
    (deed : Tool.Deed)
    (world : World) : Prop :=
  let root := dir workspace request
  let coordinator := doing workspace deed
  let laid := materialize workspace request world
  let left :=
    Tool.steps (fun _ _ => deed) (coordinator.tool.command root)
      laid.2.files world.dir
  let built := coordinator.build request world
  ((reconcile .standard root world).2.files.stat world.dir false
      root).isOk = false ∧
    built.1.isOk = true ∧
      (left.2.removeTree world.dir root).1.isOk = true ∧
        ¬ Finished workspace request world built.2

/-
  So it is if the root was free and a place has changed that is
  not on the way to it.
-/
theorem strays_of_changed
    {workspace : Path}
    {request : Request}
    {deed : Tool.Deed}
    {world : World}
    (hFree :
      (world.files.stat world.dir false
        (dir workspace request)).isOk = false)
    {q : Place}
    (hBuilt :
      let root := dir workspace request
      let coordinator := doing workspace deed
      let laid := materialize workspace request world
      let left :=
        Tool.steps (fun _ _ => deed) (coordinator.tool.command root)
          laid.2.files world.dir
      let built := coordinator.build request world
      ((reconcile .standard root world).2.files.stat world.dir false
          root).isOk = false ∧
        built.1.isOk = true ∧
          (left.2.removeTree world.dir root).1.isOk = true ∧
            built.2.files.node? q ≠ world.files.node? q ∧
              ∀ p ∈ root.ancestors,
                built.2.files.stat world.dir true p ≠
                  .ok (q, .directory dirMode)) :
    Strays workspace request deed world := by
  rcases hBuilt with ⟨hClear, hOk, hRemoved, hChanged, hAway⟩
  refine ⟨hClear, hOk, hRemoved, ?_⟩
  rintro ⟨place, -, -, hRemains⟩
  rcases (hRemains q).same_or_made hFree with
    hSame | ⟨p, hMem, hMade⟩
  · exact hChanged hSame
  · exact hAway p hMem hMade

/- A tool that leaves a link instead of a directory. -/
def relinking : Tool.Deed where
  outcome := .ok ⟨.exited 0, []⟩
  contents := ⟨[(["sub"], .link "../../W/a/b")]⟩
  wellFormed := .of_entries (by decide)
  distinct := by decide

/- A link in a project leads to another directory. -/
def linkedOut : World :=
  holding
    [(["b", "X", "src"], .link "../../out"),
      (["b", "X"], .directory dirMode),
      (["b"], .directory dirMode),
      (["out"], .directory dirMode)]

/- A project of the same name stands elsewhere. -/
def doubled : World :=
  holding
    [(["b"], .directory dirMode),
      (["W", "X", "target", "a.jar"], .file fileMode [2]),
      (["W", "X", "target"], .directory dirMode),
      (["W", "X"], .directory dirMode),
      (["W", "a", "b"], .directory dirMode),
      (["W", "a"], .directory dirMode),
      (["W"], .directory dirMode)]

/-
  Where the way to the workspace leads through a directory that is
  yet to be made and up again, nothing is found to clear before it
  is made, and a link in the old project takes the new files
  elsewhere.  Where that directory is the project's own, the tool
  can turn the way, and then another archive is delivered and
  another directory removed.
-/
theorem build_leaves_strays :
    (sample "X").Safe ∧
      (linkedOut.files.WellFormed ∧
        (Tool.steps fun _ _ => packing).Confined ∧
          Strays "/M/../b" (sample "X") packing linkedOut) ∧
      doubled.files.WellFormed ∧
        (Tool.steps fun _ _ => relinking).Confined ∧
          Strays "/b/X/sub/../.." (sample "X") relinking doubled := by
  refine ⟨⟨by decide, by decide, by decide⟩, ⟨.of_entries (by decide),
    Tool.confined_steps (by simp [packing]), ?_⟩,
    .of_entries (by decide),
    Tool.confined_steps (by simp [relinking]), ?_⟩
  · exact strays_of_changed (q := ["out", "main"]) (by decide +kernel)
      (by decide +kernel)
  · exact strays_of_changed (q := ["W", "X"]) (by decide +kernel)
      (by decide +kernel)

end Coordinator

end PluginStudio
