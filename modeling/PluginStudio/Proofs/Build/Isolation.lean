import PluginStudio.Proofs.Build.Soundness

/-
  Builds that do not depend on what was there before.

  Key definitions include:
    * `PluginStudio.Tool.Deed`
    * `PluginStudio.Tool.within`
    * `PluginStudio.Studio.Uniform`
    * `PluginStudio.Project.Ready`

  Main declarations:
    * `Project.uniform_materialize`
    * `Coordinator.uniform_stages`
    * `Coordinator.build_isolated`
    * `Coordinator.build_not_isolated`

  A build starts from an empty directory and its tool sees only
  what is in there.  So wherever the place of the project can be
  cleared, the build ends in the same way, unless the tool leaves
  a link in place of its output.
-/

------------------------------------------------------------
-- Tools That Work In A Directory
------------------------------------------------------------

namespace PluginStudio

namespace Tool

/- How a program ends, and what it leaves in its directory. -/
structure Deed where
  outcome : Except IoFault Outcome
  contents : FileSystem
  wellFormed : contents.WellFormed
  distinct : (contents.nodes.map Prod.fst).Nodup

/-
  A runner of programs that know only the directory they are
  started in, and change only what is in it.
-/
def within
    (act : Command → FileSystem → Deed) : Runner :=
  fun command world =>
    match world.files.stat world.dir true command.dir with
    | .ok (place, .directory _) =>
      let deed := act command (world.files.inside place)
      (deed.outcome,
        { world with
          files := world.files.graft place deed.contents })
    | .ok _ => (FileSystem.refuse .notDirectory, world)
    | .error fault => (.error fault, world)

theorem sound_within
    (act : Command → FileSystem → Deed)
    (command : Command) :
    Studio.Sound (within act command) := by
  intro world hFiles
  rw [within]
  rcases hStat : world.files.stat world.dir true command.dir with
    fault | ⟨place, node⟩
  · exact hFiles
  · cases node with
    | directory mode =>
        exact hFiles.graft (FileSystem.node?_of_stat hStat)
          (act command (world.files.inside place)).wellFormed
    | _ => exact hFiles

end Tool

end PluginStudio

------------------------------------------------------------
-- Uniform Work
------------------------------------------------------------

namespace PluginStudio

namespace Studio

/-
  Work that ends in the same way in all worlds of a kind, and
  leads to worlds of another kind if it succeeds.
-/
def Uniform
    {ε α : Type}
    (before : World → Prop)
    (work : ExceptT ε Studio α)
    (after : α → World → Prop) : Prop :=
  ∃ result,
    ∀ world, before world →
      (work world).1 = result ∧
        ∀ a, result = .ok a → after a (work world).2

namespace Uniform

variable {ε α β : Type} {before : World → Prop}

theorem bind
    {first : ExceptT ε Studio α}
    {next : α → ExceptT ε Studio β}
    {between : α → World → Prop}
    {after : β → World → Prop}
    (hFirst : Uniform before first between)
    (hNext : ∀ a, Uniform (between a) (next a) after) :
    Uniform before (first >>= next) after := by
  obtain ⟨result, hRun⟩ := hFirst
  cases result with
  | error e =>
      refine ⟨.error e, fun world hBefore => ?_⟩
      obtain ⟨hResult, -⟩ := hRun world hBefore
      rw [except_bind_apply]
      rcases hEq : first world with ⟨made, world'⟩
      rw [hEq] at hResult
      simp only at hResult
      rw [hResult]
      exact ⟨rfl, by simp⟩
  | ok a =>
      obtain ⟨result, hLast⟩ := hNext a
      refine ⟨result, fun world hBefore => ?_⟩
      obtain ⟨hResult, hBetween⟩ := hRun world hBefore
      rw [except_bind_apply]
      rcases hEq : first world with ⟨made, world'⟩
      rw [hEq] at hResult hBetween
      simp only at hResult hBetween
      rw [hResult]
      exact hLast world' (hBetween a rfl)

/- Work with one result that leaves the kind of the world. -/
theorem of_same
    {work : ExceptT ε Studio α}
    (a : α)
    (hWork :
      ∀ world, before world →
        (work world).1 = .ok a ∧ before (work world).2) :
    Uniform before work fun _ => before := by
  refine ⟨.ok a, fun world hBefore => ?_⟩
  obtain ⟨hResult, hAfter⟩ := hWork world hBefore
  exact ⟨hResult, fun _ _ => hAfter⟩

/- Work that is uniform as long as something holds. -/
theorem of_imp
    {fact : Prop}
    {work : ExceptT ε Studio α}
    {after : α → World → Prop}
    (hWork : fact → Uniform before work after) :
    Uniform (fun world => fact ∧ before world) work after := by
  by_cases hFact : fact
  · obtain ⟨result, hRun⟩ := hWork hFact
    exact ⟨result, fun world hBefore => hRun world hBefore.2⟩
  · exact ⟨(work ⟨.empty, [], 0, [], []⟩).1,
      fun world hBefore => absurd hBefore.1 hFact⟩

/- Failures told in other words. -/
theorem adapt
    {ε' : Type}
    {work : ExceptT ε Studio α}
    {after : α → World → Prop}
    (tell : ε → ε')
    (hWork : Uniform before work after) :
    Uniform before (ExceptT.adapt tell work) after := by
  obtain ⟨result, hRun⟩ := hWork
  refine ⟨result.mapError tell, fun world hBefore => ?_⟩
  obtain ⟨hResult, hAfter⟩ := hRun world hBefore
  rw [except_adapt_apply]
  refine ⟨by rw [hResult], fun a hOk => hAfter a ?_⟩
  cases result with
  | ok b => simpa [Except.mapError] using hOk
  | error e => simp [Except.mapError] at hOk

end Uniform

end Studio

end PluginStudio

------------------------------------------------------------
-- New Projects
------------------------------------------------------------

namespace PluginStudio

namespace Project

open FileSystem Studio

variable {workspace : Path} {request : Request}

/-
  Once the place of a project is cleared, the workspace is a
  directory and nothing stands at the project's path.
-/
def Ready
    (workspace : Path)
    (request : Request)
    (world : World) : Prop :=
  let after := (reconcile .standard (dir workspace request) world).2
  after.files.names after.dir Node.isDirectory workspace = true ∧
    ∀ found,
      after.files.stat after.dir false (dir workspace request) ≠
        .ok found

instance
    (workspace : Path)
    (request : Request)
    (world : World) :
    Decidable (Ready workspace request world) :=
  let after := (reconcile .standard (dir workspace request) world).2
  decidable_of_iff
    (after.files.names after.dir Node.isDirectory workspace = true ∧
      (after.files.stat after.dir false
        (dir workspace request)).isOk = false) (by
    refine and_congr_right fun _ => ?_
    cases after.files.stat after.dir false
      (dir workspace request) <;> simp [Except.isOk, Except.toBool])

/- Whether a project is ready is a matter of files and time. -/
theorem ready_congr
    (world world' : World)
    (hFiles : world'.files = world.files)
    (hDir : world'.dir = world.dir)
    (hClock : world'.clock = world.clock)
    (hReady : Ready workspace request world) :
    Ready workspace request world' := by
  have hClear := reconcile_files (dir workspace request) world
  have hClear' := reconcile_files (dir workspace request) world'
  rw [hFiles, hDir, hClock] at hClear'
  rw [Ready, hClear.1, hClear.2] at hReady
  rw [Ready, hClear'.1, hClear'.2]
  exact hReady

/-
  The project's directory holds given contents, and all else is
  as it was when there was no such directory.
-/
structure Site
    (workspace : Path)
    (request : Request)
    (contents files : FileSystem)
    (start : Place)
    (clear : FileSystem)
    (place : Place) : Prop where
  check : (dir workspace request).check = .ok ()
  long : (entryName request).length ≤ Path.longestName
  wellFormed : clear.WellFormed
  reach : ∃ links, clear.reach start workspace = .ok (place, links)
  free : clear.node? (place ++ [entryName request]) = none
  inner : Inner (place ++ [entryName request]) clear files
  holds :
    files.Holds start (dir workspace request)
      (place ++ [entryName request]) contents

variable {contents clear files files' : FileSystem}
variable {start place : Place}

/- What is free in a well formed file system may be filled. -/
theorem inner_of_outside
    (hClear : clear.WellFormed)
    (hFree : clear.node? place = none)
    (hOutside :
      ∀ q, ¬ place <+: q → files.node? q = clear.node? q) :
    Inner place clear files := by
  refine ⟨?_, hOutside⟩
  intro q node hNode _
  by_cases hWithin : place <+: q
  · rw [hClear.node?_eq_none_of_prefix_absent hFree hWithin] at hNode
    contradiction
  · rw [hOutside q hWithin, hNode]

/- A new directory in the workspace is an empty site. -/
theorem site_put
    (hNamed : request.Named)
    (hCheck : (dir workspace request).check = .ok ())
    (hLong : (entryName request).length ≤ Path.longestName)
    (hClear : clear.WellFormed)
    {links : Nat}
    (hReach : clear.reach start workspace = .ok (place, links))
    (hFree : clear.node? (place ++ [entryName request]) = none) :
    Site workspace request empty
      (clear.put (place ++ [entryName request])
        (.directory dirMode))
      start clear place := by
  have hNode :=
    clear.node?_put_snoc place (entryName request)
      (.directory dirMode)
  have hInner :
      Inner (place ++ [entryName request]) clear
        (clear.put (place ++ [entryName request])
          (.directory dirMode)) := by
    apply inner_of_outside hClear hFree
    intro q hOut
    rw [hNode, if_neg]
    rintro rfl
    exact hOut (List.prefix_refl _)
  refine ⟨hCheck, hLong, hClear, ⟨links, hReach⟩, hFree, hInner,
    ?_, ?_, ?_⟩
  · exact ((entry_dir hNamed hCheck hReach).of_keeps
      hInner.keeps).reach hLong (by rw [hNode, if_pos rfl])
  · rw [hNode, if_pos rfl]
  · apply inside_eq_empty
    intro q hBelow
    obtain ⟨hPrefix, hNe⟩ := (Place.below_iff _ _).mp hBelow
    rw [hNode, if_neg hNe]
    exact hClear.node?_eq_none_of_prefix_absent hFree hPrefix

/- A workspace that is there, without the project in it. -/
structure Vacant
    (workspace : Path)
    (request : Request)
    (files : FileSystem)
    (start : Place) : Prop where
  wellFormed : files.WellFormed
  there : files.names start Node.isDirectory workspace = true
  notDirectory :
    files.names start Node.isDirectory (dir workspace request) =
      false
  nothing :
    ∀ found,
      files.stat start false (dir workspace request) ≠ .ok found

theorem vacant_of_ready
    (hNamed : request.Named)
    {world : World}
    (hFiles : world.files.WellFormed)
    (hReady : Ready workspace request world) :
    Vacant workspace request
      (reconcile .standard (dir workspace request) world).2.files
      (reconcile .standard (dir workspace request) world).2.dir := by
  obtain ⟨hClear, hDir⟩ :=
    reconcile_files (dir workspace request) world
  have hEnds := endsInName_dir workspace hNamed
  refine ⟨sound_reconcile _ world hFiles, hReady.1, ?_, hReady.2⟩
  rw [hClear, hDir]
  exact (clears_cleared world.files world.dir hEnds
    world.clock).not_directory hFiles hEnds

namespace Vacant

theorem reach
    (hVacant : Vacant workspace request files start) :
    ∃ place links,
      files.reach start workspace = .ok (place, links) := by
  obtain ⟨-, ⟨place, links⟩, hReach⟩ :=
    names_isDirectory_iff.mp hVacant.there
  exact ⟨place, links, hReach⟩

/- What stands at the project's path would have been found. -/
theorem node?
    (hVacant : Vacant workspace request files start)
    (hNamed : request.Named)
    (hCheck : (dir workspace request).check = .ok ())
    (hLong : (entryName request).length ≤ Path.longestName)
    {links : Nat}
    (hReach : files.reach start workspace = .ok (place, links)) :
    files.node? (place ++ [entryName request]) = none := by
  have hStat := (entry_dir hNamed hCheck hReach).stat
    (endsInName_dir workspace hNamed).1 (Or.inl rfl)
  rw [if_neg (Nat.not_lt.mpr hLong)] at hStat
  cases hNode : files.node? (place ++ [entryName request]) with
  | none => rfl
  | some node =>
      rw [hNode] at hStat
      exact absurd hStat (hVacant.nothing _)

/- Only the project's path can keep it from being laid out. -/
theorem layOut
    {world : World}
    (hVacant : Vacant workspace request world.files world.dir)
    (hNamed : request.Named)
    {links : Nat}
    (hReach :
      world.files.reach world.dir workspace = .ok (place, links)) :
    Project.layOut (tree workspace request) request world =
      match (dir workspace request).check with
      | .error fault =>
        (.error (.createDir (dir workspace request) fault), world)
      | .ok _ =>
        if Path.longestName < (entryName request).length then
          (.error (.createDir (dir workspace request)
            (.system .nameTooLong)), world)
        else
          furnish (tree workspace request) request
            { world with
              files :=
                world.files.put (place ++ [entryName request])
                  (.directory dirMode) } := by
  rw [layOut_apply, root_eq,
    makeDirs_dir hNamed hReach hVacant.notDirectory]
  cases hCheck : (dir workspace request).check with
  | error fault => rfl
  | ok u =>
      simp only
      by_cases hLong : Path.longestName < (entryName request).length
      · simp only [if_pos hLong, refuse]
      · have hFree := hVacant.node? hNamed hCheck
          (Nat.not_lt.mp hLong) hReach
        simp only [if_neg hLong, hFree, Option.isSome_none,
          Bool.false_eq_true, if_false]

end Vacant

/-
  A site is furnished in the same way wherever it is, to the end
  or to the first failure.
-/
theorem site_furnish
    (workspace : Path)
    (hSafe : request.Safe) :
    ∃ result contents,
      ∀ (world : World) (clear : FileSystem) (place : Place),
        Site workspace request empty world.files world.dir clear
            place →
          (furnish (tree workspace request) request world).1 =
              result ∧
            (furnish (tree workspace request) request world).2.dir =
                world.dir ∧
              Site workspace request contents
                (furnish (tree workspace request) request
                  world).2.files world.dir clear place := by
  obtain ⟨result, contents, -, hRun⟩ :=
    confined_furnish workspace (hSafe.sources workspace)
      (hSafe.sourceFile workspace) plain_empty
  rw [root_eq] at hRun
  refine ⟨result, contents, fun world clear place hSite => ?_⟩
  obtain ⟨hResult, hDir, hHolds, hInner⟩ :=
    hRun world _ hSite.holds
  exact ⟨hResult, hDir,
    { hSite with
      inner := hSite.inner.trans hInner
      holds := hHolds }⟩

/-
  A project is laid out in the same way wherever there is room
  for it.
-/
theorem uniform_layOut
    (workspace : Path)
    (hSafe : request.Safe) :
    ∃ contents,
      Uniform
        (fun world =>
          Vacant workspace request world.files world.dir)
        (layOut (tree workspace request) request)
        (fun _ world =>
          ∃ clear place,
            Site workspace request contents world.files world.dir
              clear place) := by
  have hNamed := hSafe.named
  cases hCheck : (dir workspace request).check with
  | error fault =>
      refine ⟨empty, .error (.createDir (dir workspace request) fault),
        fun world hVacant => ?_⟩
      obtain ⟨place, links, hReach⟩ := hVacant.reach
      rw [hVacant.layOut hNamed hReach, hCheck]
      exact ⟨rfl, by simp⟩
  | ok u =>
      by_cases hLong : Path.longestName < (entryName request).length
      · refine ⟨empty, .error (.createDir (dir workspace request)
          (.system .nameTooLong)), fun world hVacant => ?_⟩
        obtain ⟨place, links, hReach⟩ := hVacant.reach
        rw [hVacant.layOut hNamed hReach, hCheck]
        simp only [if_pos hLong]
        exact ⟨trivial, by simp⟩
      · obtain ⟨result, contents, hRun⟩ := site_furnish workspace hSafe
        refine ⟨contents, result, fun world hVacant => ?_⟩
        obtain ⟨place, links, hReach⟩ := hVacant.reach
        rw [hVacant.layOut hNamed hReach, hCheck]
        simp only [if_neg hLong]
        have hSite := site_put hNamed hCheck (Nat.not_lt.mp hLong)
          hVacant.wellFormed hReach
          (hVacant.node? hNamed hCheck (Nat.not_lt.mp hLong) hReach)
        obtain ⟨hResult, hDir, hSite'⟩ :=
          hRun
            { world with
              files :=
                world.files.put (place ++ [entryName request])
                  (.directory dirMode) }
            world.files place hSite
        refine ⟨hResult, fun _ _ => ⟨world.files, place, ?_⟩⟩
        rw [hDir]
        exact hSite'

/- A project is materialized in the same way wherever it is ready. -/
theorem uniform_materialize
    (workspace : Path)
    (hSafe : request.Safe) :
    ∃ contents,
      Uniform
        (fun world =>
          world.files.WellFormed ∧ Ready workspace request world)
        (materialize workspace request)
        (fun tree world =>
          tree = Project.tree workspace request ∧
            ∃ clear place,
              Site workspace request contents world.files world.dir
                clear place) := by
  obtain ⟨contents, result, hRun⟩ := uniform_layOut workspace hSafe
  refine ⟨contents,
    result.map (fun _ => tree workspace request),
    fun world hBefore => ?_⟩
  obtain ⟨hResult, hSite⟩ := hRun _
    (vacant_of_ready hSafe.named hBefore.1 hBefore.2)
  rcases hLaid :
      layOut (tree workspace request) request
        (reconcile .standard (tree workspace request).root world).2
    with ⟨outcome, world'⟩
  obtain ⟨hOutcome, hFiles, hDir⟩ :=
    materialize_apply workspace request world hLaid
  rw [root_eq] at hLaid
  rw [hLaid] at hResult hSite
  simp only at hResult hSite
  rw [hOutcome, hResult]
  refine ⟨rfl, fun a hOk => ?_⟩
  cases result with
  | error failure => simp [Except.map] at hOk
  | ok u =>
      refine ⟨(Except.ok.inj hOk).symm, ?_⟩
      rw [hFiles, hDir]
      exact hSite u rfl

end Project

end PluginStudio

------------------------------------------------------------
-- After The Tool
------------------------------------------------------------

namespace PluginStudio

namespace Project

open FileSystem Studio

variable {workspace : Path} {request : Request}
variable {contents clear : FileSystem} {place : Place}

/- A path leads to a directory with given contents. -/
structure Stocked
    (root : Path)
    (contents files : FileSystem)
    (start place : Place) : Prop where
  reach : ∃ links, files.reach start root = .ok (place, links)
  node? :
    ∀ {r}, r ≠ [] → files.node? (place ++ r) = contents.node? r
  children :
    ∀ r, files.children (place ++ r) = contents.children r

/- A tool in the project's directory knows only what is there. -/
theorem Site.within
    {world : World}
    (hSite :
      Site workspace request contents world.files world.dir clear
        place)
    (hNamed : request.Named)
    (act : Command → FileSystem → Tool.Deed)
    (command : Command)
    (hCommand : command.dir = dir workspace request) :
    Tool.within act command world =
        ((act command contents).outcome,
          { world with
            files :=
              world.files.graft (place ++ [entryName request])
                (act command contents).contents }) ∧
      Stocked (dir workspace request) (act command contents).contents
        (world.files.graft (place ++ [entryName request])
          (act command contents).contents)
        world.dir (place ++ [entryName request]) := by
  constructor
  · obtain ⟨mode, hStat⟩ :=
      (stat_directory_iff hSite.check _).mpr hSite.holds.reach
    rw [Tool.within, hCommand, hStat]
    simp only [hSite.holds.inside]
  refine ⟨?_, node?_graft _ _ _, children_graft _ _ _⟩
  -- The way to the project is the one to the workspace.
  obtain ⟨links, hReach⟩ := hSite.reach
  have hInner :
      Inner (place ++ [entryName request]) clear
        (world.files.graft (place ++ [entryName request])
          (act command contents).contents) := by
    apply inner_of_outside hSite.wellFormed hSite.free
    intro q hOut
    rw [node?_graft_of_not_below, hSite.inner.outside q hOut]
    rw [← Bool.not_eq_true, Place.below_iff]
    exact fun h => hOut h.1
  have hNode :
      (world.files.graft (place ++ [entryName request])
        (act command contents).contents).node?
          (place ++ [entryName request]) =
        some (.directory dirMode) := by
    rw [node?_graft_of_not_below _ _ _ (by simp [Place.below]),
      hSite.holds.node]
  exact ((entry_dir hNamed hSite.check hReach).of_keeps
    hInner.keeps).reach hSite.long hNode

end Project

end PluginStudio

namespace PluginStudio

namespace Coordinator

open Studio Project FileSystem

variable {workspace : Path} {request : Request}

/- The tool ends in the same way wherever the project is the same. -/
theorem uniform_invoke
    (hNamed : request.Named)
    (tool : Toolchain)
    (act : Command → FileSystem → Tool.Deed)
    (contents : FileSystem) :
    Uniform
      (fun world =>
        ∃ clear place,
          Site workspace request contents world.files world.dir
            clear place)
      (Tool.invoke (Tool.within act) tool (dir workspace request))
      (fun _ world =>
        ∃ place,
          Stocked (dir workspace request)
            (act (tool.command (dir workspace request))
              contents).contents world.files world.dir place) := by
  refine ⟨(act (tool.command (dir workspace request))
    contents).outcome.mapError (Tool.Failure.spawn tool.program), ?_⟩
  rintro world ⟨clear, place, hSite⟩
  obtain ⟨reported, hFiles, hDir, hResult, hAfter, hStart⟩ :=
    invoke_apply (Tool.within act) tool (dir workspace request) world
  rw [← hFiles, ← hDir] at hSite
  obtain ⟨hRun, hStocked⟩ := hSite.within hNamed act
    (tool.command (dir workspace request)) rfl
  rw [hRun] at hResult hAfter hStart
  refine ⟨hResult, fun _ _ => ⟨place ++ [entryName request], ?_⟩⟩
  rw [hAfter, hStart]
  exact hStocked

/- The tool ends in the same way wherever the project is the same. -/
theorem uniform_invokeStage
    (hNamed : request.Named)
    (tool : Toolchain)
    (act : Command → FileSystem → Tool.Deed)
    (contents : FileSystem) :
    Uniform
      (fun world =>
        ∃ clear place,
          Site workspace request contents world.files world.dir
            clear place)
      (invokeStage ⟨workspace, tool, Tool.within act⟩ request
        (dir workspace request))
      (fun _ world =>
        ∃ place,
          Stocked (dir workspace request)
            (act (tool.command (dir workspace request))
              contents).contents world.files world.dir place) := by
  refine .bind (.of_same () fun world hSite => ⟨rfl, hSite⟩)
    fun _ => ?_
  refine .bind (.of_same () fun world hSite => ⟨rfl, hSite⟩)
    fun _ => ?_
  refine .bind (.adapt _ (uniform_invoke hNamed tool act contents))
    fun outcome => ?_
  split_ifs
  · refine .bind (.of_same (Console.decode outcome.output).text ?_)
      fun text => ⟨.error (.unsuccessful outcome.status text), ?_⟩
    · rintro world ⟨place, hStocked⟩
      obtain ⟨hText, hFiles, hDir⟩ :=
        readConsole_apply outcome.output world
      rw [except_lift_apply]
      refine ⟨by rw [hText], place, ?_⟩
      simp only
      rw [hFiles, hDir]
      exact hStocked
    · intro world _
      exact ⟨rfl, by simp⟩
  · exact .of_same () fun world hStocked => ⟨rfl, hStocked⟩

end Coordinator

end PluginStudio

------------------------------------------------------------
-- Artifacts
------------------------------------------------------------

namespace PluginStudio

namespace Artifact

open Studio Project FileSystem

variable {root : Path} {contents files : FileSystem}
variable {start place : Place}

/- The archives of a project that holds given contents. -/
def offered
    (root : Path)
    (contents : FileSystem) : List Path :=
  match (root.join outputDir).check,
    contents.node? [outputDir] with
  | .ok _, some (.directory _) =>
    archives (root.join outputDir)
      ((contents.children [outputDir]).mergeSort
        fun a b => a.1 ≤ b.1)
  | _, _ => []

theorem candidates_of_stocked
    (hStocked : Stocked root contents files start place)
    (hLink :
      ∀ target, contents.node? [outputDir] ≠ some (.link target)) :
    candidates files start (root.join outputDir) =
      offered root contents := by
  have hName : Path.IsName outputDir := by decide
  rw [candidates, list, offered]
  cases hCheck : (root.join outputDir).check with
  | error fault =>
      simp [stat, resolve, hCheck, bind, Except.bind]
  | ok u =>
      obtain ⟨links, hReach⟩ := hStocked.reach
      have hNode := hStocked.node? (r := [outputDir]) (by simp)
      have hStat :
          files.stat start true (root.join outputDir) = _ :=
        (entry_join hName hCheck hReach).stat
          (Path.endsInName_join root hName).1
          (Or.inr (by rwa [hNode]))
      rw [if_neg (by decide), hNode] at hStat
      rw [hStat]
      cases hOut : contents.node? [outputDir] with
      | none => rfl
      | some node =>
          cases node with
          | directory mode =>
              simp only [bind, Except.bind, pure, Except.pure]
              rw [hStocked.children]
          | _ => rfl

/- A path is that of a file among the output. -/
def Chosen
    (root : Path)
    (contents : FileSystem)
    (p : Path) : Prop :=
  ∃ name mode bytes,
    p = (root.join outputDir).join name ∧
      (name, Node.file mode bytes) ∈ contents.children [outputDir] ∧
        ∃ bits,
          contents.node? [outputDir] = some (.directory bits) ∧
            (root.join outputDir).check = .ok ()

/- Only a file among the output is chosen. -/
theorem chosen_of_choose?
    {p : Path}
    (hChoose : choose? (offered root contents) = some p) :
    Chosen root contents p := by
  have hMem : p ∈ offered root contents := by
    rw [choose?] at hChoose
    split at hChoose
    · next q hFind =>
        rw [← Option.some.inj hChoose]
        exact List.mem_of_find?_eq_some hFind
    · exact List.mem_of_head? hChoose
  rw [offered] at hMem
  split at hMem
  · next hCheck hNode =>
      simp only [archives, List.mem_filter, List.mem_map,
        List.mem_mergeSort] at hMem
      obtain ⟨⟨⟨name, node⟩, ⟨hChild, hFile⟩, rfl⟩, -⟩ := hMem
      cases node with
      | file mode bytes =>
          exact ⟨name, mode, bytes, rfl, hChild, _, hNode, hCheck⟩
      | _ => simp [Node.isFile] at hFile
  · simp at hMem

/- An archive is chosen in the same way from the same contents. -/
theorem uniform_select
    (root : Path)
    {contents : FileSystem}
    (hLink :
      ∀ target, contents.node? [outputDir] ≠ some (.link target)) :
    Uniform
      (fun world =>
        ∃ place,
          Stocked root contents world.files world.dir place)
      (select root)
      (fun p world =>
        Chosen root contents p ∧
          ∃ place,
            Stocked root contents world.files world.dir place) := by
  cases hChoose : choose? (offered root contents) with
  | none =>
      refine ⟨.error (.none (root.join outputDir)), ?_⟩
      rintro world ⟨place, hStocked⟩
      obtain ⟨hResult, -⟩ := Coordinator.select_apply root world
      rw [candidates_of_stocked hStocked hLink, hChoose] at hResult
      exact ⟨hResult, by simp⟩
  | some p =>
      refine ⟨.ok p, ?_⟩
      rintro world ⟨place, hStocked⟩
      obtain ⟨hResult, hFiles, hDir⟩ :=
        Coordinator.select_apply root world
      rw [candidates_of_stocked hStocked hLink, hChoose] at hResult
      refine ⟨hResult, fun q hOk => ?_⟩
      cases hOk
      refine ⟨chosen_of_choose? hChoose, place, ?_⟩
      rw [hFiles, hDir]
      exact hStocked

/- What is read from a chosen file is told by the contents. -/
theorem read_of_chosen
    (hWellFormed : contents.WellFormed)
    (hDistinct : (contents.nodes.map Prod.fst).Nodup)
    {p : Path}
    (hChosen : Chosen root contents p) :
    ∃ result,
      ∀ {files start place},
        Stocked root contents files start place →
          files.read start p = result := by
  obtain ⟨name, mode, bytes, rfl, hChild, bits, hOut, hOutCheck⟩ :=
    hChosen
  have hHere := node?_of_mem_children hDistinct hChild
  have hName : Path.IsName name := hWellFormed.named hHere
  have hOutName : Path.IsName outputDir := by decide
  cases hCheck : ((root.join outputDir).join name).check with
  | error fault =>
      refine ⟨.error fault, fun hStocked => ?_⟩
      simp [FileSystem.read, stat, resolve, hCheck, bind,
        Except.bind]
  | ok u =>
      refine ⟨if Path.longestName < name.length then
          refuse .nameTooLong
        else
          .ok bytes, fun {files start place} hStocked => ?_⟩
      obtain ⟨links, hReach⟩ := hStocked.reach
      have hNode := hStocked.node? (r := [outputDir]) (by simp)
      rw [hOut] at hNode
      obtain ⟨links', hReach'⟩ :=
        (entry_join hOutName hOutCheck hReach).reach (by decide) hNode
      simp only at hReach'
      have hFile :
          files.node? (place ++ [outputDir] ++ [name]) =
            some (.file mode bytes) := by
        rw [List.append_assoc, hStocked.node? (by simp), hHere]
      have hStat :
          files.stat start true
            ((root.join outputDir).join name) = _ :=
        (entry_join hName hCheck hReach').stat
          (Path.endsInName_join _ hName).1
          (Or.inr fun target => by rw [hFile]; simp)
      rw [FileSystem.read, hStat]
      simp only [hFile]
      split_ifs <;> rfl

end Artifact

namespace Coordinator

open Studio Project FileSystem

/- An archive is taken in the same way from the same contents. -/
theorem uniform_loadStage
    (request : Request)
    (root : Path)
    {contents : FileSystem}
    (hWellFormed : contents.WellFormed)
    (hDistinct : (contents.nodes.map Prod.fst).Nodup)
    (hLink :
      ∀ target, contents.node? [outputDir] ≠ some (.link target)) :
    Uniform
      (fun world =>
        ∃ place,
          Stocked root contents world.files world.dir place)
      (loadStage request root)
      (fun _ _ => True) := by
  refine .bind (.of_same () fun world hStocked => ⟨rfl, hStocked⟩)
    fun _ => ?_
  refine .bind (.adapt _ (Artifact.uniform_select root hLink))
    fun path => ?_
  refine .bind (.of_same () fun world hBefore => ⟨rfl, hBefore⟩)
    fun _ => ?_
  have hRead :
      Artifact.Chosen root contents path →
        Uniform
          (fun world =>
            ∃ place,
              Stocked root contents world.files world.dir place)
          (Artifact.readAt path) (fun _ _ => True) := by
    intro hChosen
    obtain ⟨result, hRead⟩ :=
      Artifact.read_of_chosen hWellFormed hDistinct hChosen
    cases result with
    | ok bytes =>
        refine ⟨.ok ⟨path, bytes⟩, ?_⟩
        rintro world ⟨place, hStocked⟩
        rw [readAt_apply, hRead hStocked]
        exact ⟨rfl, fun _ _ => trivial⟩
    | error fault =>
        refine ⟨.error (.read path fault), ?_⟩
        rintro world ⟨place, hStocked⟩
        rw [readAt_apply, hRead hStocked]
        exact ⟨rfl, fun _ _ => trivial⟩
  refine .bind (.adapt _ (.of_imp hRead)) fun artifact => ?_
  refine .bind (.of_same () fun world _ => ⟨rfl, trivial⟩) fun _ => ?_
  exact .of_same artifact fun world _ => ⟨rfl, trivial⟩

end Coordinator

end PluginStudio

------------------------------------------------------------
-- Isolated Builds
------------------------------------------------------------

namespace PluginStudio

namespace Coordinator

open Studio Project FileSystem

variable {request : Request}

theorem uniform_materializeStage
    (workspace : Path)
    (tool : Toolchain)
    (run : Tool.Runner)
    (hSafe : request.Safe) :
    ∃ contents,
      Uniform
        (fun world =>
          world.files.WellFormed ∧ Ready workspace request world)
        (materializeStage ⟨workspace, tool, run⟩ request)
        (fun root world =>
          root = dir workspace request ∧
            ∃ clear place,
              Site workspace request contents world.files world.dir
                clear place) := by
  obtain ⟨contents, hMaterialize⟩ :=
    uniform_materialize workspace hSafe
  refine ⟨contents, ?_⟩
  refine .bind (.of_same () fun world hBefore =>
    ⟨rfl, hBefore.1, ready_congr world
      (publish .materializing world).2 rfl rfl rfl hBefore.2⟩)
    fun _ => ?_
  refine .bind (.of_same () fun world hBefore =>
    ⟨rfl, hBefore.1, ready_congr world (pause world).2 rfl rfl rfl
      hBefore.2⟩) fun _ => ?_
  refine .bind (.adapt _ hMaterialize) fun tree => .of_imp ?_
  rintro rfl
  refine ⟨.ok (dir workspace request), fun world hSite => ?_⟩
  rw [except_pure_apply, root_eq]
  refine ⟨rfl, fun root hRoot => ⟨?_, hSite⟩⟩
  exact (Except.ok.inj hRoot).symm

/- A build takes the same course wherever its project is ready. -/
theorem uniform_stages
    (workspace : Path)
    (tool : Toolchain)
    {act : Command → FileSystem → Tool.Deed}
    (hLink :
      ∀ command contents target,
        (act command contents).contents.node? [outputDir] ≠
          some (.link target))
    (hSafe : request.Safe) :
    Uniform
      (fun world =>
        world.files.WellFormed ∧ Ready workspace request world)
      (stages ⟨workspace, tool, Tool.within act⟩ request)
      (fun _ _ => True) := by
  obtain ⟨contents, hMaterialize⟩ :=
    uniform_materializeStage workspace tool (Tool.within act) hSafe
  refine .bind hMaterialize fun root => .of_imp ?_
  rintro rfl
  refine .bind (uniform_invokeStage hSafe.named tool act contents)
    fun _ => ?_
  refine .bind (uniform_loadStage request _
    (act _ contents).wellFormed (act _ contents).distinct
    (hLink _ contents)) fun artifact => ?_
  refine .bind (.of_same () fun world _ =>
    ⟨cleanupStage_apply _ world, trivial⟩) fun _ => ?_
  exact .of_same artifact fun world _ => ⟨rfl, trivial⟩

/-
  No build depends on what others have left.  Whatever was built
  before, in whatever world, a safe request is built with the
  same result wherever reconciliation makes its project ready,
  as long as its tool knows only the project's directory and does
  not leave a link in place of its output.
-/
theorem build_isolated
    (workspace : Path)
    (tool : Toolchain)
    (act : Command → FileSystem → Tool.Deed)
    (hLink :
      ∀ command contents target,
        (act command contents).contents.node? [outputDir] ≠
          some (.link target))
    (request : Request)
    (hSafe : request.Safe)
    (world₁ world₂ : World)
    (hFiles₁ : world₁.files.WellFormed)
    (hFiles₂ : world₂.files.WellFormed)
    (earlier₁ earlier₂ : List Request) :
    let coordinator : Coordinator :=
      ⟨workspace, tool, Tool.within act⟩
    let before₁ := (coordinator.buildAll earlier₁ world₁).2
    let before₂ := (coordinator.buildAll earlier₂ world₂).2
    Ready workspace request before₁ →
      Ready workspace request before₂ →
        (coordinator.build request before₁).1 =
          (coordinator.build request before₂).1 := by
  intro coordinator before₁ before₂ hReady₁ hReady₂
  have hSound :
      ∀ requests, Sound (coordinator.buildAll requests) :=
    sound_buildAll (Tool.sound_within act)
  obtain ⟨result, hRun⟩ :=
    uniform_stages workspace tool hLink hSafe
  rw [build_apply, build_apply,
    (hRun before₁ ⟨hSound earlier₁ world₁ hFiles₁, hReady₁⟩).1,
    (hRun before₂ ⟨hSound earlier₂ world₂ hFiles₂, hReady₂⟩).1]

/- A tool that leaves an archive. -/
def packing : Tool.Deed where
  outcome := .ok ⟨.exited 0, []⟩
  contents :=
    ⟨[(["target", "a.jar"], .file fileMode [1]),
      (["target"], .directory dirMode)]⟩
  wellFormed := .of_entries (by decide)
  distinct := by decide

/- A tool that leaves a link to archives elsewhere. -/
def linking : Tool.Deed where
  outcome := .ok ⟨.exited 0, []⟩
  contents := ⟨[(["target"], .link "/s")]⟩
  wellFormed := .of_entries (by decide)
  distinct := by decide

/-
  A build that follows another of the same name, whose project
  was in the place of a file, ends as one in an empty world.
-/
theorem build_isolated_after_build :
    let request : Request := { pluginName := "X", mainClass := "M" }
    let coordinator : Coordinator :=
      ⟨"/", .direct "mvn" "", Tool.within fun _ _ => packing⟩
    let world₁ : World :=
      ⟨⟨[(["X"], .file fileMode [0])]⟩, [], 0, [], []⟩
    let world₂ : World := ⟨.empty, [], 0, [], []⟩
    (coordinator.build request
        (coordinator.buildAll [request] world₁).2).1 =
      (coordinator.build request
        (coordinator.buildAll [] world₂).2).1 := by
  intro request coordinator world₁ world₂
  refine build_isolated "/" (.direct "mvn" "") (fun _ _ => packing)
    ?_ request ⟨by decide, by decide, by decide⟩ world₁ world₂
    (.of_entries (by decide)) .empty [request] [] ?_ ?_
  · intro command contents target
    rw [show packing.contents.node? [outputDir] =
      some (.directory dirMode) by decide]
    simp
  · decide +kernel
  · decide +kernel

/-
  Where the tool leaves a link, the archives of another directory
  are taken.  Where the way to the workspace leads through the
  project, the workspace is lost when that is removed.
-/
theorem build_not_isolated :
    let request : Request := { pluginName := "X", mainClass := "M" }
    let linked : Coordinator :=
      ⟨"/", .direct "mvn" "", Tool.within fun _ _ => linking⟩
    let full : World :=
      ⟨⟨[(["s", "a.jar"], .file fileMode [1]),
          (["s"], .directory dirMode)]⟩, [], 0, [], []⟩
    let bare : World := ⟨.empty, [], 0, [], []⟩
    let turned : Coordinator :=
      ⟨"/L/..", .direct "mvn" "", Tool.within fun _ _ => packing⟩
    let beside : World :=
      ⟨⟨[(["L"], .link "Y"), (["Y"], .directory dirMode)]⟩,
        [], 0, [], []⟩
    let through : World :=
      ⟨⟨[(["L"], .link "X"), (["X"], .directory dirMode)]⟩,
        [], 0, [], []⟩
    request.Safe ∧
      (full.files.WellFormed ∧ Ready "/" request full) ∧
      (bare.files.WellFormed ∧ Ready "/" request bare) ∧
      (linked.build request full).1 ≠
        (linked.build request bare).1 ∧
      (∀ world ∈ [beside, through],
        world.files.WellFormed ∧
          world.files.names world.dir Node.isDirectory "/L/.." =
            true ∧
            ((reconcile .standard (dir "/L/.." request)
              world).2.files.stat world.dir false
                (dir "/L/.." request)).isOk = false) ∧
      (turned.build request beside).1 ≠
        (turned.build request through).1 := by
  intro request linked full bare turned beside through
  refine ⟨⟨by decide, by decide, by decide⟩,
    ⟨.of_entries (by decide), by decide +kernel⟩,
    ⟨.empty, by decide +kernel⟩, by decide +kernel, ?_,
    by decide +kernel⟩
  intro world hMem
  rw [List.mem_pair] at hMem
  rcases hMem with rfl | rfl
  · exact ⟨.of_entries (by decide), by decide +kernel⟩
  · exact ⟨.of_entries (by decide), by decide +kernel⟩

end Coordinator

end PluginStudio
