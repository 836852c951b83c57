import PluginStudio.Proofs.Project.Materialization

/-
  What a project changes in the file system.

  Key definitions include:
    * `PluginStudio.Project.Touched`

  Main declarations:
    * `Project.materialize_touches`
    * `Project.materialize_escapes`

  A project whose sources and main class are written beneath its
  directory changes nothing else, apart from the directories on
  the way there and the name under which its previous occupant
  is kept.  The main class alone can lead it elsewhere.
-/

------------------------------------------------------------
-- Places That May Change
------------------------------------------------------------

namespace PluginStudio

namespace Project

open FileSystem

/-
  A place is in what stood at the root, is in the directory that
  the root leads to, is a new directory on the way there, or is
  where the occupant is kept.
-/
inductive Touched
    (before after : FileSystem)
    (start : Place)
    (root : Path)
    (aside : String)
    (q : Place) : Prop where
  | occupant
      {place : Place} {node : Node}
      (hBefore : before.stat start false root = .ok (place, node))
      (hWithin : place <+: q)
  | project
      {place : Place} {mode : Nat}
      (hAfter :
        after.stat start true root = .ok (place, .directory mode))
      (hWithin : place <+: q)
  | ancestor
      {p : Path} {mode : Nat}
      (hMem : p ∈ root.ancestors)
      (hBefore : before.node? q = none)
      (hAfter : after.stat start true p = .ok (q, .directory mode))
  | kept
      {place : Place} {name : String} {node : Node}
      (hBefore :
        before.stat start false root = .ok (place ++ [name], node))
      (hAside : q = place ++ [aside])
      (hFile : ∀ mode, before.node? q ≠ some (.directory mode))
      (hAfter : after.node? q = some node)

variable {before clear after : FileSystem} {start : Place}
variable {workspace : Path} {request : Request} {millis : Nat}

/- What clearing changed is touched, if it is left like that. -/
theorem touched_of_cleared
    (hClears :
      before.Clears start (dir workspace request)
        (asidePath (dir workspace request) millis) clear)
    (hFs : before.WellFormed)
    (hNamed : request.Named)
    {q : Place}
    (hSame : after.node? q = clear.node? q)
    (hNe : after.node? q ≠ before.node? q) :
    Touched before after start (dir workspace request)
      (asideName request millis) q := by
  have hEnds := endsInName_dir workspace hNamed
  rcases hClears.node? hFs q with
    hSame' | ⟨place, name, node, hHere, hWithin, -⟩ |
      ⟨place, name, node, place', name', hHere, -, -, hAside, hQ,
        hNode, hFile⟩
  · exact absurd (hSame.trans hSame') hNe
  · exact .occupant (hHere.stat hEnds.1) hWithin
  · obtain ⟨rfl, rfl⟩ := entry_aside hNamed hHere.entry hAside
    exact .kept (hHere.stat hEnds.1) hQ hFile (by rw [hSame, hNode])

/- A directory made after clearing is touched. -/
theorem touched_of_made
    (hClears :
      before.Clears start (dir workspace request)
        (asidePath (dir workspace request) millis) clear)
    (hFs : before.WellFormed)
    (hNamed : request.Named)
    {q : Place}
    (hFree : clear.node? q = none)
    {p : Path}
    (hMem : p ∈ (dir workspace request).ancestors)
    (hCheck : p.check = .ok ())
    {links : Nat}
    (hReach : after.reach start p = .ok (q, links)) :
    Touched before after start (dir workspace request)
      (asideName request millis) q := by
  have hEnds := endsInName_dir workspace hNamed
  rcases hClears.node? hFs q with
    hSame | ⟨place, name, node, hHere, hWithin, -⟩ |
      ⟨-, -, node, -, -, -, -, -, -, -, hNode, -⟩
  · obtain ⟨mode, hStat⟩ :=
      (stat_directory_iff hCheck q).mpr ⟨links, hReach⟩
    exact .ancestor hMem (by rw [← hSame, hFree]) hStat
  · exact .occupant (hHere.stat hEnds.1) hWithin
  · simp [hFree] at hNode

/-
  Materializing a project changes a place only if it is touched,
  as long as its sources and its main class are written beneath
  its directory and the way to the workspace does not lead
  through directories that are yet to be made and up again.
-/
theorem materialize_touches
    (workspace : Path)
    (request : Request)
    (world : World)
    (hFiles : world.files.WellFormed)
    (hNamed : request.Named)
    (hSources :
      (tree workspace request).sources.Beneath
        (dir workspace request))
    (hSource :
      (tree workspace request).sourceFile.Beneath
        (dir workspace request))
    (hWorkspace :
      ".." ∉ workspace.parts ∨
        (reconcile .standard (dir workspace request)
          world).2.files.names world.dir Node.isDirectory
            workspace = true)
    (q : Place)
    (hChanged :
      (materialize workspace request world).2.files.node? q ≠
        world.files.node? q) :
    Touched world.files
      (materialize workspace request world).2.files world.dir
      (dir workspace request) (asideName request world.clock) q := by
  have hEnds := endsInName_dir workspace hNamed
  have hClears :=
    clears_cleared world.files world.dir hEnds world.clock
  obtain ⟨hClear, hDir⟩ :=
    reconcile_files (dir workspace request) world
  rcases hLaid :
      layOut (tree workspace request) request
        (reconcile .standard (tree workspace request).root world).2
    with ⟨outcome, world'⟩
  obtain ⟨-, hAfter, -⟩ :=
    materialize_apply workspace request world hLaid
  rw [root_eq] at hLaid
  obtain ⟨made, hGrown, hMade⟩ :=
    layOut_frame workspace
      (by rw [hClear]; exact wellFormed_cleared hFiles ..) hNamed
      hSources hSource
      (by
        rw [hClear, hDir]
        exact hClears.not_directory hFiles hEnds)
      (by rwa [hDir])
  rw [hLaid, hDir] at hMade
  rw [hDir, hClear] at hGrown
  rw [hAfter] at hChanged ⊢
  -- Outside of the project, the files are those made on the way.
  obtain ⟨hKeeps, hOut⟩ :
      world'.files.Keeps made ∧
        (world'.files.node? q = made.node? q ∨
          Touched world.files world'.files world.dir
            (dir workspace request)
            (asideName request world.clock) q) := by
    rcases hMade with rfl | ⟨hCheck, place, contents, hHolds, hInner⟩
    · exact ⟨Keeps.refl _, Or.inl rfl⟩
    · refine ⟨hInner.keeps, ?_⟩
      by_cases hWithin : place <+: q
      · obtain ⟨mode, hStat⟩ :=
          (stat_directory_iff hCheck place).mpr hHolds.reach
        exact Or.inr (.project hStat hWithin)
      · exact Or.inl (hInner.outside q hWithin)
  rcases hOut with hSame | hTouched
  · rcases hGrown q with
      hSame' | ⟨hFree, -, p, hMem, hCheck, links, hReach⟩
    · exact touched_of_cleared hClears hFiles hNamed
        (hSame.trans hSame') hChanged
    · exact touched_of_made hClears hFiles hNamed hFree hMem hCheck
        (reach_of_keeps hKeeps hReach)
  · exact hTouched

/-
  Where the project's directory was, a link in it led to other
  files.
-/
theorem materialize_touches_over_link :
    let request : Request :=
      { pluginName := "X", packageName := "p", mainClass := "Main" }
    let world : World :=
      ⟨⟨[(["builds", "X", "src"], .link "/etc"),
          (["builds", "X"], .directory dirMode),
          (["builds"], .directory dirMode),
          (["etc"], .directory dirMode)]⟩, [], 0, [], []⟩
    let after := (materialize "/builds" request world).2.files
    after.node? ["builds", "X", "src"] ≠
        world.files.node? ["builds", "X", "src"] ∧
      Touched world.files after world.dir (dir "/builds" request)
        (asideName request world.clock) ["builds", "X", "src"] := by
  intro request world after
  have hSafe : request.Safe :=
    ⟨by decide, by decide, by decide⟩
  have hChanged :
      after.node? ["builds", "X", "src"] ≠
        world.files.node? ["builds", "X", "src"] := by
    decide +kernel
  refine ⟨hChanged, ?_⟩
  refine materialize_touches "/builds" request world
    (.of_entries (by decide)) hSafe.named ?_ ?_
    (Or.inl (by decide)) _ hChanged
  · rw [← root_eq]
    exact hSafe.sources "/builds"
  · rw [← root_eq]
    exact hSafe.sourceFile "/builds"

/-
  A main class that climbs out of the sources takes its file out
  of the project, to a place that may not change.
-/
theorem materialize_escapes :
    let request : Request :=
      { pluginName := "X", packageName := "p",
        mainClass := "../../../../../evil", javaCode := "code" }
    let world : World := ⟨.empty, [], 0, [], []⟩
    let after := (materialize "/builds" request world).2.files
    request.Named ∧ world.files.WellFormed ∧
      after.node? ["builds", "evil.java"] ≠
          world.files.node? ["builds", "evil.java"] ∧
        ¬ Touched world.files after world.dir
          (dir "/builds" request) (asideName request world.clock)
          ["builds", "evil.java"] := by
  intro request world after
  have hBefore :
      world.files.stat world.dir false (dir "/builds" request) =
        refuse .noEntry := by
    decide +kernel
  obtain ⟨hChanged, hRoot, hOther⟩ :
      after.node? ["builds", "evil.java"] ≠
          world.files.node? ["builds", "evil.java"] ∧
        after.stat world.dir true (dir "/builds" request) =
            .ok (["builds", "X"], .directory dirMode) ∧
          ∀ p ∈ (dir "/builds" request).ancestors,
            (after.stat world.dir true p).map Prod.fst ≠
              .ok ["builds", "evil.java"] := by
    decide +kernel
  refine ⟨by decide, .empty, hChanged, ?_⟩
  intro hTouched
  cases hTouched with
  | occupant hStat => simp [hBefore, refuse] at hStat
  | kept hStat => simp [hBefore, refuse] at hStat
  | project hAfter hWithin =>
      rw [hRoot, Except.ok.injEq, Prod.mk.injEq] at hAfter
      rw [← hAfter.1] at hWithin
      exact absurd hWithin (by decide)
  | @ancestor p mode hMem _ hAfter =>
      exact hOther p hMem (by rw [hAfter]; rfl)

end Project

end PluginStudio
