import Mathlib.Data.List.Nodup
import PluginStudio.Proofs.Build.Outcome

/-
  Builds of different plugins in any order.

  Key definitions include:
    * `PluginStudio.FileSystem.overlay`
    * `PluginStudio.Project.Removable`
    * `PluginStudio.Project.Planted`
    * `PluginStudio.Coordinator.Settles`
    * `PluginStudio.Coordinator.Sweeping`

  Main declarations:
    * `FileSystem.overlay_comm`
    * `Project.Removable.swept`
    * `Coordinator.settles_build`, `Coordinator.settles_buildAll`
    * `Coordinator.builds_commute`
    * `Coordinator.builds_not_commute`

  A build replaces what is at the place of its project by what it
  leaves there, and that depends on its request alone.  Projects
  of different names are at different places, so it makes no
  difference which of them is built first.
-/

------------------------------------------------------------
-- Overlays
------------------------------------------------------------

namespace PluginStudio

namespace FileSystem

/-
  The nodes at all places, with other nodes at a place and below
  it if some are given.
-/
def overlay
    (place : Place)
    (tree? : Option (Place → Option Node))
    (view : Place → Option Node) : Place → Option Node :=
  match tree? with
  | none => view
  | some tree => fun q =>
    if place <+: q then tree (q.drop place.length) else view q

variable {place : Place} {view view' : Place → Option Node}

theorem overlay_outside
    (tree? : Option (Place → Option Node))
    {q : Place}
    (hOut : ¬ place <+: q) :
    overlay place tree? view q = view q := by
  cases tree? with
  | none => rfl
  | some tree => simp [overlay, hOut]

theorem eq_overlay
    {tree : Place → Option Node}
    (hInside : ∀ r, view' (place ++ r) = tree r)
    (hOutside : ∀ q, ¬ place <+: q → view' q = view q) :
    view' = overlay place (some tree) view := by
  funext q
  by_cases hWithin : place <+: q
  · rcases hWithin with ⟨r, rfl⟩
    simp [overlay, hInside]
  · rw [overlay_outside _ hWithin, hOutside q hWithin]

/- A place does not lie within two directories side by side. -/
theorem outside_of_within
    {a b : String}
    (hApart : a ≠ b)
    {q : Place}
    (hWithin : place ++ [a] <+: q) :
    ¬ place ++ [b] <+: q := by
  rintro hOther
  rcases hWithin with ⟨r, rfl⟩
  rcases hOther with ⟨r', hEq⟩
  simp only [List.append_assoc, List.append_cancel_left_eq,
    List.singleton_append, List.cons.injEq] at hEq
  exact hApart hEq.1.symm

/- Overlays side by side can be laid in any order. -/
theorem overlay_comm
    {a b : String}
    (hApart : a ≠ b)
    (s? t? : Option (Place → Option Node))
    (view : Place → Option Node) :
    overlay (place ++ [a]) s? (overlay (place ++ [b]) t? view) =
      overlay (place ++ [b]) t?
        (overlay (place ++ [a]) s? view) := by
  cases s? with
  | none => rfl
  | some s =>
      symm
      apply eq_overlay
      · intro r
        have hWithin : place ++ [a] <+: place ++ [a] ++ r :=
          List.prefix_append _ _
        rw [overlay_outside _
          (outside_of_within hApart hWithin)]
        simp [overlay]
      · intro q hOut
        cases t? with
        | none => simp [overlay, hOut]
        | some t => simp [overlay, hOut]

end FileSystem

end PluginStudio

------------------------------------------------------------
-- Removable Projects
------------------------------------------------------------

namespace PluginStudio

namespace Project

open FileSystem

/-
  What is found at the project's path can be removed, and then
  the project is ready.
-/
structure Removable
    (workspace : Path)
    (request : Request)
    (world : World) : Prop where
  removes :
    world.files.pathExists world.dir (dir workspace request) =
        true →
      (world.files.removeTree world.dir
        (dir workspace request)).1 = .ok ()
  ready : Ready workspace request world

instance
    (workspace : Path)
    (request : Request)
    (world : World) :
    Decidable (Removable workspace request world) :=
  decidable_of_iff
    ((world.files.pathExists world.dir (dir workspace request) =
          true →
        (world.files.removeTree world.dir
          (dir workspace request)).1 = .ok ()) ∧
      Ready workspace request world)
    ⟨fun h => ⟨h.1, h.2⟩, fun h => ⟨h.removes, h.ready⟩⟩

variable {workspace : Path} {request : Request} {world : World}
variable {place : Place}

/- A place that was cleared by removal, and what led to it. -/
structure Swept
    (workspace : Path)
    (request : Request)
    (before after : FileSystem)
    (start place : Place) : Prop where
  reach : ∃ links, after.reach start workspace = .ok (place, links)
  outside :
    ∀ q, ¬ place ++ [entryName request] <+: q →
      after.node? q = before.node? q
  same :
    ((dir workspace request).check = .ok () →
        Path.longestName < (entryName request).length) →
      after = before

/- What is neither a directory nor a link is not removed. -/
theorem not_removes_of_leaf
    {fs : FileSystem}
    {start : Place}
    {root : Path}
    {name : String}
    {node : Node}
    (hSlash : root.endsWithSlash = false)
    (hHere : fs.Occupied start root place name node)
    (hLeaf : node.isDirectory = false)
    (hLink : ∀ target, node ≠ .link target) :
    ¬ (fs.pathExists start root = true →
      (fs.removeTree start root).1 = .ok ()) := by
  intro hRemoves
  have hFollow :
      ∀ target,
        fs.node? (place ++ [name]) ≠ some (.link target) := by
    intro target hTarget
    rw [hHere.node, Option.some.injEq] at hTarget
    exact hLink target hTarget
  have hExists : fs.pathExists start root = true := by
    rw [pathExists, hHere.entry.stat hSlash (Or.inr hFollow),
      if_neg (Nat.not_lt.mpr hHere.long), hHere.node]
    rfl
  have hOk := hRemoves hExists
  rw [removeTree, hHere.stat hSlash] at hOk
  cases node with
  | file mode bytes => simp [refuse] at hOk
  | device kind => simp [refuse] at hOk
  | directory mode => simp [Node.isDirectory] at hLeaf
  | link target => exact hLink target rfl

/- Removing what is there touches only the project's place. -/
theorem Removable.swept
    (hRemovable : Removable workspace request world)
    (hNamed : request.Named)
    (hFiles : world.files.WellFormed)
    {links : Nat}
    (hReach :
      world.files.reach world.dir workspace = .ok (place, links)) :
    Swept workspace request world.files
      (reconcile .standard (dir workspace request) world).2.files
      world.dir place := by
  have hEnds := endsInName_dir workspace hNamed
  rcases reconcile_files (dir workspace request) world with
    ⟨hClear, hDir⟩
  have hClears :=
    clears_cleared world.files world.dir hEnds world.clock
  rw [← hClear] at hClears
  -- The workspace is where it was, as no way was opened.
  rcases hRemovable.ready with ⟨hThere, -⟩
  rw [hDir] at hThere
  rcases names_isDirectory_iff.mp hThere with
    ⟨-, ⟨place', links'⟩, hReach'⟩
  have hBefore := reach_of_keeps (hClears.keeps hFiles) hReach'
  rw [hReach, Except.ok.injEq, Prod.mk.injEq] at hBefore
  rcases hBefore with ⟨rfl, -⟩
  have hHere :
      ∀ {q name node},
        world.files.Occupied world.dir (dir workspace request) q name
            node →
          q = place ∧ name = entryName request := by
    intro q name node hOccupied
    exact (entry_dir hNamed hOccupied.entry.check hReach).unique
      hOccupied.entry
  clear hClear hThere
  generalize (reconcile .standard (dir workspace request)
    world).2.files = after at hClears hReach' ⊢
  refine ⟨⟨links', hReach'⟩, ?_, ?_⟩
  · intro q hOut
    cases hClears with
    | untouched => rfl
    | unlinked hOccupied =>
        rcases hHere hOccupied with ⟨rfl, rfl⟩
        rw [node?_erase _ (by simp), if_neg]
        rintro rfl
        exact hOut (List.prefix_refl _)
    | emptied hOccupied hLost =>
        exact absurd
          (entry_dir hNamed hOccupied.entry.check hReach')
          (hLost _ _)
    | removed hOccupied =>
        rcases hHere hOccupied with ⟨rfl, rfl⟩
        rw [node?_removed _ (by simp), if_neg hOut]
    | renamed hOccupied hLeaf hLink =>
        exact absurd hRemovable.removes
          (not_removes_of_leaf hEnds.1 hOccupied hLeaf hLink)
  · intro hRefused
    have hNone :
        ∀ {q name node},
          ¬ world.files.Occupied world.dir (dir workspace request) q
            name node := by
      intro q name node hOccupied
      have hLong := hOccupied.long
      rw [(hHere hOccupied).2] at hLong
      exact Nat.not_lt.mpr hLong (hRefused hOccupied.entry.check)
    cases hClears with
    | untouched => rfl
    | unlinked hOccupied => exact absurd hOccupied hNone
    | emptied hOccupied => exact absurd hOccupied hNone
    | removed hOccupied => exact absurd hOccupied hNone
    | renamed hOccupied => exact absurd hOccupied hNone

/- A path that cannot be made is all that keeps a project out. -/
theorem materialize_refused
    (hNamed : request.Named)
    (hFiles : world.files.WellFormed)
    (hReady : Ready workspace request world)
    (hRefused :
      (dir workspace request).check = .ok () →
        Path.longestName < (entryName request).length) :
    (∃ failure,
        (materialize workspace request world).1 = .error failure) ∧
      (materialize workspace request world).2.files =
        (reconcile .standard (dir workspace request)
          world).2.files := by
  have hVacant := vacant_of_ready hNamed hFiles hReady
  rcases hVacant.reach with ⟨place, links, hReach⟩
  have hLayOut := hVacant.layOut hNamed hReach
  rcases hLaid :
      layOut (tree workspace request) request
        (reconcile .standard (tree workspace request).root
          world).2 with
    ⟨outcome, after⟩
  rcases materialize_apply workspace request world hLaid with
    ⟨hOutcome, hAfter, -⟩
  rw [root_eq, hLayOut] at hLaid
  rw [hOutcome, hAfter]
  cases hCheck : (dir workspace request).check with
  | error fault =>
      rw [hCheck] at hLaid
      cases hLaid
      exact ⟨⟨_, rfl⟩, rfl⟩
  | ok u =>
      rw [hCheck] at hLaid
      simp only [if_pos (hRefused hCheck)] at hLaid
      cases hLaid
      exact ⟨⟨_, rfl⟩, rfl⟩

/-
  Where it can be made, a site is all that is new, however far
  it was furnished.
-/
theorem site_layOut
    (workspace : Path)
    (hSafe : request.Safe)
    (hCheck : (dir workspace request).check = .ok ())
    (hLong : (entryName request).length ≤ Path.longestName) :
    ∃ contents,
      ∀ (world : World) (place : Place) (links : Nat),
        Vacant workspace request world.files world.dir →
          world.files.reach world.dir workspace =
              .ok (place, links) →
            Site workspace request contents
              (layOut (tree workspace request) request
                world).2.files
              world.dir world.files place := by
  have hNamed := hSafe.named
  rcases site_furnish workspace hSafe with ⟨result, contents, hRun⟩
  refine ⟨contents, ?_⟩
  intro world place links hVacant hReach
  have hSite :=
    site_put hNamed hCheck hLong hVacant.wellFormed hReach
      (hVacant.node? hNamed hCheck hLong hReach)
  have hLayOut := hVacant.layOut hNamed hReach
  rw [hCheck] at hLayOut
  simp only [if_neg (Nat.not_lt.mpr hLong)] at hLayOut
  rw [hLayOut]
  exact (hRun _ world.files place hSite).2.2

/- So it is for a project that is ready. -/
theorem site_of_ready
    (workspace : Path)
    (hSafe : request.Safe)
    (hCheck : (dir workspace request).check = .ok ())
    (hLong : (entryName request).length ≤ Path.longestName) :
    ∃ contents,
      ∀ (world : World) (place : Place) (links : Nat),
        world.files.WellFormed →
          Ready workspace request world →
            (reconcile .standard (dir workspace request)
                world).2.files.reach world.dir workspace =
                .ok (place, links) →
              Site workspace request contents
                (materialize workspace request world).2.files
                world.dir
                (reconcile .standard (dir workspace request)
                  world).2.files place := by
  rcases site_layOut workspace hSafe hCheck hLong with
    ⟨contents, hSites⟩
  refine ⟨contents, ?_⟩
  intro world place links hFiles hReady hReach
  have hVacant := vacant_of_ready hSafe.named hFiles hReady
  rcases hLaid :
      layOut (tree workspace request) request
        (reconcile .standard (tree workspace request).root
          world).2 with
    ⟨outcome, after⟩
  rcases materialize_apply workspace request world hLaid with
    ⟨-, hAfter, -⟩
  rw [hAfter]
  rw [root_eq] at hLaid
  rcases reconcile_files (dir workspace request) world with
    ⟨-, hDir⟩
  generalize (reconcile .standard (dir workspace request) world).2 =
    swept at hVacant hReach hLaid hDir ⊢
  rw [← hDir] at hReach ⊢
  have hSite := hSites swept place links hVacant hReach
  rw [hLaid] at hSite
  exact hSite

/-
  A tree stands at a place where there was nothing, and nothing
  else has changed.
-/
structure Planted
    (place : Place)
    (clear files : FileSystem)
    (tree : Place → Option Node) : Prop where
  inside : ∀ r, files.node? (place ++ r) = tree r
  outside : ∀ q, ¬ place <+: q → files.node? q = clear.node? q

namespace Site

variable {contents files clear : FileSystem} {start : Place}

/- What was laid out is planted at the site. -/
theorem planted
    (hSite :
      Site workspace request contents files start clear place) :
    Planted (place ++ [entryName request]) clear files
      contents.node? :=
  ⟨hSite.holds.node?, hSite.inner.outside⟩

/- So is whatever takes its place. -/
theorem planted_graft
    (hSite :
      Site workspace request contents files start clear place)
    (contents' : FileSystem) :
    Planted (place ++ [entryName request]) clear
      (files.graft (place ++ [entryName request]) contents')
      contents'.node? := by
  constructor
  · intro r
    by_cases hNil : r = []
    · subst hNil
      rw [List.append_nil,
        node?_graft_of_not_below _ _ _ (by simp [Place.below]),
        hSite.holds.node]
      rfl
    · exact node?_graft _ _ _ hNil
  · intro q hOut
    rw [node?_graft_of_not_below, hSite.inner.outside q hOut]
    rw [← Bool.not_eq_true, Place.below_iff]
    exact fun hBelow => hOut hBelow.1

/- Nothing is left once the site is removed. -/
theorem planted_removeTree
    (hSite :
      Site workspace request contents files start clear place)
    (hNamed : request.Named)
    (contents' : FileSystem) :
    Planted (place ++ [entryName request]) clear
      ((files.graft (place ++ [entryName request])
        contents').removeTree start (dir workspace request)).2
      (fun _ => none) := by
  rcases hSite.removeTree hNamed fun q hOut =>
      files.node?_graft_of_not_below contents' _ hOut with
    ⟨-, hSame⟩
  constructor
  · intro r
    rw [hSame, hSite.node?_clear (List.prefix_append _ _)]
  · intro q _
    rw [hSame]

/- What a tool that knows only the site does to it. -/
theorem steps
    (hSite :
      Site workspace request contents files start clear place)
    (act : Command → FileSystem → Tool.Deed)
    (tool : Toolchain) :
    (Tool.steps act (tool.command (dir workspace request)) files
        start).2 =
      files.graft (place ++ [entryName request])
        (act (tool.command (dir workspace request))
          contents).contents := by
  rcases (stat_directory_iff hSite.check _).mpr hSite.holds.reach with
    ⟨mode, hStat⟩
  rw [Tool.steps, Toolchain.dir_command, hStat]
  simp only [hSite.holds.inside]

end Site

end Project

end PluginStudio

------------------------------------------------------------
-- What A Build Leaves At Its Place
------------------------------------------------------------

namespace PluginStudio

namespace Coordinator

open Project FileSystem Build

/-
  Wherever the project's place can be swept, the build ends with
  the result, and the tree is what it leaves at that place.
-/
def Settles
    (coordinator : Coordinator)
    (request : Request)
    (result : Result)
    (tree? : Option (Place → Option Node)) : Prop :=
  ∀ (world : World) (place : Place) (links : Nat),
    world.files.WellFormed →
      Removable coordinator.workspace request world →
        world.files.reach world.dir coordinator.workspace =
            .ok (place, links) →
          (coordinator.build request world).1 = result ∧
            (coordinator.build request world).2.dir = world.dir ∧
              (∃ links',
                (coordinator.build request world).2.files.reach
                    world.dir coordinator.workspace =
                  .ok (place, links')) ∧
                (coordinator.build request world).2.files.node? =
                  overlay (place ++ [entryName request]) tree?
                    world.files.node?

variable {act : Command → FileSystem → Tool.Deed}
variable {request : Request}

/- A build does the same wherever its place can be swept. -/
theorem settles_build
    (workspace : Path)
    (tool : Toolchain)
    (hLink :
      ∀ command contents target,
        (act command contents).contents.node? [outputDir] ≠
          some (.link target))
    (hSafe : request.Safe) :
    ∃ result tree?,
      Settles ⟨workspace, tool, Tool.within act⟩ request result
        tree? := by
  have hNamed := hSafe.named
  rcases uniform_stages workspace tool hLink hSafe with
    ⟨result, hResult⟩
  rw [Tool.within_eq_behaving] at hResult ⊢
  by_cases hRefused :
      (dir workspace request).check = .ok () →
        Path.longestName < (entryName request).length
  · -- The project cannot even be made, so nothing changes.
    refine ⟨result, none, ?_⟩
    intro world place links hFiles hRemovable hReach
    dsimp only at hRemovable hReach ⊢
    have hReady := hRemovable.ready
    have hSwept := hRemovable.swept hNamed hFiles hReach
    rcases materialize_refused hNamed hFiles hReady hRefused with
      ⟨⟨failure, hFailure⟩, hAfter⟩
    rw [hSwept.same hRefused] at hAfter
    rcases hLaid : materialize workspace request world with
      ⟨laid, after⟩
    simp only [hLaid] at hFailure hAfter
    rcases ends_build tool (Tool.steps act) hLaid with
      ⟨hEnds, hDir⟩
    have hMade := (hResult world ⟨hFiles, hReady⟩).1
    rw [← build_apply] at hMade
    rcases hBuilt :
        build ⟨workspace, tool, Tool.behaving (Tool.steps act)⟩
          request world with
      ⟨made, final⟩
    rw [hBuilt] at hEnds hDir hMade
    dsimp only at hEnds hDir hMade hFailure hAfter ⊢
    have hEnd := hEnds.files_eq
    rw [(hEnds.project_iff failure).mpr hFailure] at hEnd
    have hSame : final.files = world.files := hEnd.trans hAfter
    refine ⟨hMade, hDir, ⟨links, ?_⟩, ?_⟩
    · rw [hSame, hReach]
    · rw [hSame, overlay]
  · rw [Classical.not_imp, Nat.not_lt] at hRefused
    rcases hRefused with ⟨hCheck, hLong⟩
    rcases site_of_ready workspace hSafe hCheck hLong with
      ⟨contents, hSites⟩
    refine ⟨result,
      some (kept contents.node?
        (act (tool.command (dir workspace request))
          contents).contents.node? (fun _ => none) result), ?_⟩
    intro world place links hFiles hRemovable hReach
    dsimp only at hRemovable hReach ⊢
    have hReady := hRemovable.ready
    have hSwept := hRemovable.swept hNamed hFiles hReach
    rcases hSwept.reach with ⟨links', hReach'⟩
    have hSite := hSites world place links' hFiles hReady hReach'
    rcases hLaid : materialize workspace request world with
      ⟨laid, after⟩
    rw [hLaid] at hSite
    dsimp only at hSite
    rcases ends_build tool (Tool.steps act) hLaid with
      ⟨hEnds, hDir⟩
    have hMade := (hResult world ⟨hFiles, hReady⟩).1
    rw [← build_apply] at hMade
    rcases hBuilt :
        build ⟨workspace, tool, Tool.behaving (Tool.steps act)⟩
          request world with
      ⟨made, final⟩
    rw [hBuilt] at hEnds hDir hMade
    dsimp only at hEnds hDir hMade ⊢
    have hEnd := hEnds.files_eq
    rw [hMade, hSite.steps act tool] at hEnd
    generalize
      (act (tool.command (dir workspace request)) contents).contents =
        left at hEnd ⊢
    have hPlanted :=
      kept_rel hSite.planted (hSite.planted_graft left)
        (hSite.planted_removeTree hNamed left) result
    rw [← hEnd] at hPlanted
    have hKeeps :=
      (inner_of_outside hSite.wellFormed hSite.free
        hPlanted.outside).keeps
    refine ⟨hMade, hDir,
      ⟨links', reach_of_keeps hKeeps hReach'⟩, ?_⟩
    apply eq_overlay hPlanted.inside
    intro q hOut
    rw [hPlanted.outside q hOut, hSwept.outside q hOut]

end Coordinator

end PluginStudio

------------------------------------------------------------
-- Builds In Any Order
------------------------------------------------------------

namespace PluginStudio

namespace Coordinator

open Project FileSystem Build Studio

/- Each build in turn can sweep the place of its project. -/
def Sweeping
    (coordinator : Coordinator) :
    List Request → World → Prop
  | [], _ => True
  | request :: requests, world =>
    Removable coordinator.workspace request world ∧
      coordinator.Sweeping requests
        (coordinator.build request world).2

instance decidableSweeping
    (coordinator : Coordinator) :
    (requests : List Request) → (world : World) →
      Decidable (coordinator.Sweeping requests world)
  | [], _ => inferInstanceAs (Decidable True)
  | request :: requests, world =>
    have := coordinator.decidableSweeping requests
      (coordinator.build request world).2
    inferInstanceAs (Decidable (_ ∧ _))

/- Builds one after the other lay one tree over the other. -/
theorem settles_buildAll
    {coordinator : Coordinator}
    (hRun : ∀ command, Sound (coordinator.run command))
    {result : Request → Result}
    {tree? : Request → Option (Place → Option Node)}
    {requests : List Request}
    (hSettles :
      ∀ request ∈ requests,
        coordinator.Settles request (result request)
          (tree? request))
    {world : World}
    {place : Place}
    {links : Nat}
    (hFiles : world.files.WellFormed)
    (hReach :
      world.files.reach world.dir coordinator.workspace =
        .ok (place, links))
    (hSweeping : coordinator.Sweeping requests world) :
    (coordinator.buildAll requests world).1 =
        requests.map result ∧
      (coordinator.buildAll requests world).2.files.node? =
        requests.foldl
          (fun view request =>
            overlay (place ++ [entryName request]) (tree? request)
              view)
          world.files.node? := by
  induction requests generalizing world links with
  | nil => exact ⟨rfl, rfl⟩
  | cons request requests ih =>
      rcases hSweeping with ⟨hRemovable, hRest⟩
      rcases hSettles request List.mem_cons_self world place links
          hFiles hRemovable hReach with
        ⟨hResult, hDir, ⟨links', hReach'⟩, hView⟩
      rw [← hDir] at hReach'
      rcases ih
          (fun other hOther =>
            hSettles other (List.mem_cons_of_mem _ hOther))
          (sound_build hRun request world hFiles) hReach' hRest with
        ⟨hResults, hViews⟩
      rw [buildAll, bind_apply, bind_apply, pure_apply, hResult,
        hResults, hViews, hView]
      exact ⟨rfl, rfl⟩

/- Different plugins have different names in the workspace. -/
theorem entryName_ne
    {request other : Request}
    (hNe : request.pluginName ≠ other.pluginName) :
    entryName request ≠ entryName other := by
  intro hEq
  exact hNe (Octets.ofString_injective hEq)

/-
  Builds of different plugins commute.  In whatever order safe
  requests of different names are built, each ends in the same
  way and all places hold the same in the end, as long as each
  build in either order can sweep the place of its project, and
  the tool knows only the project's directory and does not leave
  a link in place of its output.  No build changes the tree of
  another plugin.
-/
theorem builds_commute
    (workspace : Path)
    (tool : Toolchain)
    (act : Command → FileSystem → Tool.Deed)
    (hLink :
      ∀ command contents target,
        (act command contents).contents.node? [outputDir] ≠
          some (.link target))
    (requests requests' : List Request)
    (hPerm : requests.Perm requests')
    (hSafe : ∀ request ∈ requests, request.Safe)
    (hDistinct : (requests.map Request.pluginName).Nodup)
    (world : World)
    (hFiles : world.files.WellFormed)
    (hWorkspace :
      world.files.names world.dir Node.isDirectory workspace = true) :
    let coordinator : Coordinator :=
      ⟨workspace, tool, Tool.within act⟩
    let done := coordinator.buildAll requests world
    let done' := coordinator.buildAll requests' world
    (coordinator.Sweeping requests world →
        coordinator.Sweeping requests' world →
          (requests.zip done.1).Perm (requests'.zip done'.1) ∧
            ∀ q, done.2.files.node? q = done'.2.files.node? q) ∧
      ∀ request ∈ requests, ∀ other : Request,
        request.pluginName ≠ other.pluginName →
          ∀ (before : World) (place : Place) (links : Nat),
            before.files.WellFormed →
              Removable workspace request before →
                before.files.reach before.dir workspace =
                    .ok (place, links) →
                  ∀ q, place ++ [entryName other] <+: q →
                    (coordinator.build request
                      before).2.files.node? q =
                        before.files.node? q := by
  intro coordinator done done'
  have hEach :
      ∀ request : Request, ∃ result tree?,
        request.Safe →
          coordinator.Settles request result tree? := by
    intro request
    by_cases hRequest : request.Safe
    · rcases settles_build workspace tool hLink hRequest with
        ⟨result, tree?, hSettles⟩
      exact ⟨result, tree?, fun _ => hSettles⟩
    · exact ⟨.error (.invalidRequest ""), none,
        fun hSafe => absurd hSafe hRequest⟩
  choose result tree? hSettles using hEach
  rcases names_isDirectory_iff.mp hWorkspace with
    ⟨-, ⟨place, links⟩, hReach⟩
  have hRun : ∀ command, Sound (coordinator.run command) :=
    Tool.sound_within act
  constructor
  · intro hSweeping hSweeping'
    rcases settles_buildAll hRun
        (fun request hMem => hSettles request (hSafe request hMem))
        hFiles hReach hSweeping with
      ⟨hResults, hView⟩
    rcases settles_buildAll hRun
        (fun request hMem =>
          hSettles request
            (hSafe request (hPerm.mem_iff.mpr hMem)))
        hFiles hReach hSweeping' with
      ⟨hResults', hView'⟩
    constructor
    · simp only [done, done']
      rw [hResults, hResults', ← List.map_prod_left_eq_zip,
        ← List.map_prod_left_eq_zip]
      exact hPerm.map _
    · intro q
      simp only [done, done']
      rw [hView, hView']
      apply congrFun
      apply hPerm.foldl_eq'
      intro request hMem other hOther view
      by_cases hEq : request = other
      · rw [hEq]
      · have hApart : request.pluginName ≠ other.pluginName := by
          intro hName
          exact hEq
            (List.inj_on_of_nodup_map hDistinct hMem hOther hName)
        exact (overlay_comm (entryName_ne hApart) _ _ view).symm
  · intro request hMem other hApart before place links hBefore
      hRemovable hReach q hWithin
    rcases hSettles request (hSafe request hMem) before place links
        hBefore hRemovable hReach with
      ⟨-, -, -, hView⟩
    rw [hView, overlay_outside]
    exact outside_of_within (entryName_ne hApart.symm) hWithin

/- A tool that fails and leaves a file. -/
def failing : Tool.Deed where
  outcome := .ok ⟨.exited 1, []⟩
  contents := ⟨[(["log"], .file fileMode [])]⟩
  wellFormed := .of_entries (by decide)
  distinct := by decide

/- A tool that builds one plugin and fails at all others. -/
def choosy
    (command : Command)
    (_ : FileSystem) : Tool.Deed :=
  if command.dir = "/b/X" then packing else failing

/- A workspace with an old project in it. -/
def stale : World :=
  holding
    [(["b", "X", "old"], .file fileMode [0]),
      (["b", "X"], .directory dirMode),
      (["b"], .directory dirMode)]

/- One plugin is built over an old project, and another fails. -/
theorem builds_commute_of_two :
    let coordinator : Coordinator :=
      ⟨"/b", .direct "mvn" "", Tool.within choosy⟩
    let done :=
      coordinator.buildAll [sample "X", sample "Y"] stale
    let done' :=
      coordinator.buildAll [sample "Y", sample "X"] stale
    ([sample "X", sample "Y"].zip done.1).Perm
        ([sample "Y", sample "X"].zip done'.1) ∧
      ∀ q, done.2.files.node? q = done'.2.files.node? q := by
  have hLink :
      ∀ command contents target,
        (choosy command contents).contents.node? [outputDir] ≠
          some (.link target) := by
    intro command contents target
    rw [choosy]
    split_ifs
    · rw [show packing.contents.node? [outputDir] =
        some (.directory dirMode) by decide]
      simp
    · rw [show failing.contents.node? [outputDir] = none by decide]
      simp
  have hSafe :
      ∀ request ∈ [sample "X", sample "Y"], request.Safe := by
    intro request hMem
    rw [List.mem_pair] at hMem
    rcases hMem with rfl | rfl
    · exact ⟨by decide, by decide, by decide⟩
    · exact ⟨by decide, by decide, by decide⟩
  exact (builds_commute "/b" (.direct "mvn" "") choosy hLink
    [sample "X", sample "Y"] [sample "Y", sample "X"]
    (List.Perm.swap _ _ _) hSafe (by decide) stale
    (.of_entries (by decide)) (by decide +kernel)).1
    (by decide +kernel) (by decide +kernel)

/- A tool that fails at one plugin and peers at what is left. -/
def peering
    (command : Command)
    (_ : FileSystem) : Tool.Deed :=
  if command.dir = "/b/X" then
    { packing with outcome := .ok ⟨.exited 1, []⟩ }
  else
    { outcome := .ok ⟨.exited 0, []⟩
      contents := ⟨[(["target"], .link "../X/target")]⟩
      wellFormed := .of_entries (by decide)
      distinct := by decide }

/- No tree was found that could not be removed. -/
def Smooth (world : World) : Prop :=
  ∀ event ∈ world.journal,
    event.message ≠
        "failed to remove previous project tree, renaming aside" ∧
      event.message ≠ "failed to remove project tree"

instance (world : World) : Decidable (Smooth world) :=
  inferInstanceAs (Decidable (∀ event ∈ world.journal, _))

/-
  In a workspace that is there, two plugins are built in both
  orders and all trees are removed, but the results or the files
  are not the same.
-/
def Disagree
    (coordinator : Coordinator)
    (world : World) : Prop :=
  let done :=
    coordinator.buildAll [sample "X", sample "Y"] world
  let done' :=
    coordinator.buildAll [sample "Y", sample "X"] world
  world.files.names world.dir Node.isDirectory
      coordinator.workspace = true ∧
    Smooth done.2 ∧ Smooth done'.2 ∧
      (done.1 ≠ done'.1.reverse ∨
        ∃ q ∈ [["b", "X"], ["b", "Y"]],
          done.2.files.node? q ≠ done'.2.files.node? q)

instance
    (coordinator : Coordinator)
    (world : World) :
    Decidable (coordinator.Disagree world) :=
  inferInstanceAs (Decidable (_ ∧ _))

/- A workspace with an empty project in it. -/
def hollow : World :=
  holding
    [(["b", "X"], .directory dirMode), (["b"], .directory dirMode)]

/- A workspace in which one project is a link to another. -/
def linkedAcross : World :=
  holding
    [(["b", "X"], .link "Y"), (["b"], .directory dirMode)]

/-
  A tool that leaves a link in place of its output takes what
  another plugin has left.  A workspace that is reached through a
  project is lost with it, and its directory made anew.  A link to
  another project is found to be cleared only if that is there.
-/
theorem builds_not_commute :
    ((sample "X").Safe ∧ (sample "Y").Safe) ∧
      (hollow.files.WellFormed ∧ linkedAcross.files.WellFormed) ∧
        Disagree ⟨"/b", .direct "mvn" "", Tool.within peering⟩
            hollow ∧
          Disagree
              ⟨"/b/X/..", .direct "mvn" "",
                Tool.within fun _ _ => packing⟩ hollow ∧
            Disagree
              ⟨"/b", .direct "mvn" "",
                Tool.within fun _ _ => failing⟩ linkedAcross := by
  refine ⟨⟨⟨by decide, by decide, by decide⟩,
    ⟨by decide, by decide, by decide⟩⟩,
    ⟨.of_entries (by decide), .of_entries (by decide)⟩,
    ?_, ?_, ?_⟩
  · decide +kernel
  · decide +kernel
  · decide +kernel

end Coordinator

end PluginStudio
