import PluginStudio.Proofs.Project.Materialization

/-
  Projects do not leave their workspace.

  Main declarations:
    * `Project.clears_outside`
    * `Project.enters_makeDirs_dir`
    * `Project.materialize_outside`

  Where the workspace is a directory, clearing the place of a
  project and laying it out changes nothing outside of that
  directory.  What has to be made again on the way was in there
  before it was cleared.
-/

------------------------------------------------------------
-- Clearing In A Workspace
------------------------------------------------------------

namespace PluginStudio

namespace Path

/- The ancestors of a path are written with its first parts. -/
theorem prefix_of_mem_ancestorsWithin
    {more : Nat}
    {p a : Path}
    (hMem : a ∈ p.ancestorsWithin more) :
    a = p ∨
      a.isAbsolute = p.isAbsolute ∧
        a.parts <+: p.parts.dropLast := by
  induction more generalizing p with
  | zero => simp [ancestorsWithin] at hMem
  | succ more ih =>
      rcases ancestorsWithin_succ more p with
        hNil | ⟨rest, hRest, hTail⟩
      · simp [hNil] at hMem
      rw [hRest, List.mem_cons] at hMem
      rcases hMem with rfl | hMem
      · exact Or.inl rfl
      right
      rcases hTail with rfl | ⟨parent, hParent, hNe, rfl⟩
      · simp at hMem
      have hLast := parts_of_parent? hParent
      simp only [hNe, and_false, or_false] at hLast
      rcases hLast with ⟨last, hParts⟩
      rw [← isAbsolute_of_parent? hParent, hParts,
        List.dropLast_concat]
      rcases ih hMem with rfl | ⟨hStart, hPrefix⟩
      · exact ⟨rfl, List.prefix_refl _⟩
      · exact ⟨hStart, hPrefix.trans (List.dropLast_prefix _)⟩

end Path

namespace FileSystem

/- The way to a directory leads through its ancestors. -/
theorem reach_of_prefix
    {fs : FileSystem}
    {start : Place}
    {p a : Path}
    {r : Place × Nat}
    (hReach : fs.reach start p = .ok r)
    (hStart : a.isAbsolute = p.isAbsolute)
    (hPrefix : a.parts <+: p.parts) :
    ∃ r', fs.reach start a = .ok r' := by
  rcases hPrefix with ⟨rest, hRest⟩
  rw [reach_eq_parts, ← hRest, advance_append, startOf, ← hStart,
    ← startOf, ← reach_eq_parts] at hReach
  cases hOk : fs.reach start a with
  | ok r' => exact ⟨r', rfl⟩
  | error errno =>
      rw [hOk] at hReach
      contradiction

end FileSystem

namespace Project

open FileSystem

variable {before clear : FileSystem} {start root : Place} {links : Nat}
variable {workspace : Path} {request : Request} {millis : Nat}

/- The project's entry is in the workspace. -/
theorem place_of_entry
    (hNamed : request.Named)
    (hReach : before.reach start workspace = .ok (root, links))
    {place : Place}
    {name : String}
    (hEntry : before.Entry start (dir workspace request) place name) :
    place = root :=
  (hEntry.unique (entry_dir hNamed hEntry.check hReach)).1.symm

/- Only what is in the workspace is cleared. -/
theorem clears_outside
    (hNamed : request.Named)
    (hFs : before.WellFormed)
    (hReach : before.reach start workspace = .ok (root, links))
    (hClears :
      before.Clears start (dir workspace request)
        (asidePath (dir workspace request) millis) clear)
    {q : Place}
    (hOut : ¬ root <+: q) :
    clear.node? q = before.node? q := by
  rcases hClears.node? hFs q with
    hSame | ⟨place, name, node, hHere, hWithin, -⟩ |
      ⟨place, name, node, place', name', hHere, -, -, hAside, hQ, -⟩
  · exact hSame
  · rw [place_of_entry hNamed hReach hHere.entry] at hWithin
    exact absurd ((List.prefix_append _ _).trans hWithin) hOut
  · rw [hQ, (entry_aside hNamed hHere.entry hAside).1,
      place_of_entry hNamed hReach hHere.entry] at hOut
    exact absurd (List.prefix_append _ _) hOut

/- The names that clearing frees on the way are in the workspace. -/
theorem root_prefix_of_free
    (hNamed : request.Named)
    (hFs : before.WellFormed)
    (hReach : before.reach start workspace = .ok (root, links))
    (hClears :
      before.Clears start (dir workspace request)
        (asidePath (dir workspace request) millis) clear)
    {a : Path}
    (hMem : a ∈ (dir workspace request).ancestors)
    {place : Place}
    {name : String}
    (hEntry : clear.Entry start a place name)
    (hFree : clear.node? (place ++ [name]) = none) :
    root <+: place ++ [name] := by
  have hBefore := hEntry.of_keeps (hClears.keeps hFs)
  rcases Path.prefix_of_mem_ancestorsWithin hMem with
    rfl | ⟨hStart, hPrefix⟩
  · rw [place_of_entry hNamed hReach hBefore]
    exact List.prefix_append _ _
  · -- The ancestor led somewhere, so its entry has been cleared.
    rw [isAbsolute_dir workspace hNamed] at hStart
    rw [parts_dir workspace hNamed, List.dropLast_concat] at hPrefix
    rcases reach_of_prefix hReach hStart hPrefix with ⟨r, hAncestor⟩
    rcases hBefore.node?_of_reach hAncestor with ⟨-, node, hNode, -⟩
    by_contra hOut
    rw [clears_outside hNamed hFs hReach hClears hOut, hNode] at hFree
    exact Option.some_ne_none node hFree

/-
  What is made on the way to the project is in the workspace, if
  that is still there or its path does not climb.
-/
theorem enters_makeDirs_dir
    (hNamed : request.Named)
    (hFs : before.WellFormed)
    (hClear : clear.WellFormed)
    (hReach : before.reach start workspace = .ok (root, links))
    (hClears :
      before.Clears start (dir workspace request)
        (asidePath (dir workspace request) millis) clear)
    (hWorkspace :
      ".." ∉ workspace.parts ∨
        clear.names start Node.isDirectory workspace = true) :
    Enters (fun q => root <+: q) start (dir workspace request) clear
      (clear.makeDirs start (dir workspace request)) := by
  rcases hWorkspace with hUp | hThere
  · have hUp : ".." ∉ (dir workspace request).parts := by
      rw [parts_dir workspace hNamed]
      simp [hUp, (isName_entryName hNamed).2.2.1.symm]
    apply enters_makeDirsOn _ hClear hUp
    · intro a hMem place name hEntry hFree
      exact root_prefix_of_free hNamed hFs hReach hClears hMem hEntry
        hFree
    · intro place name hInside
      exact hInside.trans (List.prefix_append _ _)
  · rcases names_isDirectory_iff.mp hThere with
      ⟨-, ⟨place, links'⟩, hStill⟩
    have hNone :=
      hClears.not_directory hFs (endsInName_dir workspace hNamed)
    rw [makeDirs_dir hNamed hStill hNone]
    cases hCheck : (dir workspace request).check with
    | error fault => exact .refl _
    | ok u =>
        simp only
        split_ifs with hLong hSome
        · exact .refl _
        · exact .refl _
        · have hEntry := entry_dir hNamed hCheck hStill
          apply enters_of_makeDir (fun _ _ => rfl)
          · intro q name hEntry _
            rw [place_of_entry hNamed hReach
              (hEntry.of_keeps (hClears.keeps hFs))]
            exact List.prefix_append _ _
          · rw [makeDir, create_of_entry hEntry, if_neg hLong,
              if_neg hSome, if_neg (by simp [Node.isDirectory])]

end Project

end PluginStudio

------------------------------------------------------------
-- Laying Out In A Workspace
------------------------------------------------------------

namespace PluginStudio

namespace Project

open FileSystem

variable {workspace : Path} {request : Request}

/- Work in a project does not leave the workspace. -/
theorem layOut_outside
    (hSafe : request.Safe)
    {world : World}
    (hFs : world.files.WellFormed)
    (hNone :
      world.files.names world.dir Node.isDirectory
        (dir workspace request) = false)
    (hWorkspace :
      ".." ∉ workspace.parts ∨
        world.files.names world.dir Node.isDirectory workspace =
          true)
    {root : Place}
    (hEnters :
      Enters (fun q => root <+: q) world.dir (dir workspace request)
        world.files
        (world.files.makeDirs world.dir (dir workspace request)))
    {outcome : Except Failure Unit}
    {after : World}
    (hLaid :
      layOut (tree workspace request) request world =
        (outcome, after)) :
    (∀ q, ¬ root <+: q →
        after.files.node? q = world.files.node? q) ∧
      (outcome = .ok () →
        ∃ place mode,
          after.files.stat world.dir true (dir workspace request) =
              .ok (place, .directory mode) ∧
            root <+: place) := by
  rcases hMade :
      world.files.makeDirs world.dir (dir workspace request) with
    ⟨fault | _, made⟩
  · rw [hMade] at hEnters
    rw [layOut_apply, root_eq, hMade] at hLaid
    cases hLaid
    exact ⟨hEnters.outside, by simp⟩
  · rw [hMade] at hEnters
    have hSources := hSafe.sources workspace
    have hSource := hSafe.sourceFile workspace
    rw [root_eq] at hSources hSource
    rcases layOut_inner workspace hFs hSafe.named hSources hSource
        hNone hWorkspace hMade with
      ⟨hFresh, place, contents, hHolds, hInner⟩
    rw [hLaid] at hHolds hInner
    have hInside : root <+: place := by
      rcases hEnters.leads rfl with
        hSame | ⟨place', links, hReach, hInside⟩
      · exact absurd hSame hFresh.ne
      rcases hHolds.reach with ⟨links', hReach'⟩
      rw [reach_of_keeps hInner.keeps hReach, Except.ok.injEq,
        Prod.mk.injEq] at hReach'
      rw [← hReach'.1]
      exact hInside
    constructor
    · intro q hOut
      have hApart : ¬ place <+: q :=
        fun hWithin => hOut (hInside.trans hWithin)
      rw [hInner.outside q hApart]
      exact hEnters.outside q hOut
    · intro _
      rcases (stat_directory_iff hFresh.1 place).mpr hHolds.reach with
        ⟨mode, hStat⟩
      exact ⟨place, mode, hStat, hInside⟩

/-
  Materializing a project changes nothing outside of the workspace,
  and the project is in there once it is laid out.
-/
theorem materialize_outside
    (hSafe : request.Safe)
    {world after : World}
    (hFs : world.files.WellFormed)
    {root : Place}
    {links : Nat}
    (hReach :
      world.files.reach world.dir workspace = .ok (root, links))
    (hWorkspace :
      ".." ∉ workspace.parts ∨
        (reconcile .standard (dir workspace request)
          world).2.files.names world.dir Node.isDirectory
            workspace = true)
    {laid : Except Failure Tree}
    (hLaid : materialize workspace request world = (laid, after)) :
    (∀ q, ¬ root <+: q →
        after.files.node? q = world.files.node? q) ∧
      ∀ tree, laid = .ok tree →
        ∃ place mode,
          after.files.stat world.dir true (dir workspace request) =
              .ok (place, .directory mode) ∧
            root <+: place := by
  have hNamed := hSafe.named
  have hEnds := endsInName_dir workspace hNamed
  have hClears :=
    clears_cleared world.files world.dir hEnds world.clock
  rcases reconcile_files (dir workspace request) world with
    ⟨hClear, hDir⟩
  rcases hEq :
      reconcile .standard (dir workspace request) world with
    ⟨u, clear⟩
  rw [hEq] at hClear hDir hWorkspace
  simp only at hClear hDir hWorkspace
  rw [← hClear] at hClears
  have hWellFormed : clear.files.WellFormed := by
    rw [hClear]
    exact wellFormed_cleared hFs ..
  rcases hLayOut :
      layOut (tree workspace request) request clear with
    ⟨outcome, world'⟩
  have hSteps :
      layOut (tree workspace request) request
          (reconcile .standard (tree workspace request).root
            world).2 =
        (outcome, world') := by
    rw [root_eq, hEq]
    exact hLayOut
  rcases materialize_apply workspace request world hSteps with
    ⟨hOutcome, hAfter, -⟩
  rw [hLaid] at hOutcome hAfter
  simp only at hOutcome hAfter
  have hEnters :=
    enters_makeDirs_dir hNamed hFs hWellFormed hReach hClears
      hWorkspace
  rw [← hDir] at hWorkspace hEnters hClears
  rcases layOut_outside hSafe hWellFormed
      (hClears.not_directory hFs hEnds) hWorkspace hEnters hLayOut with
    ⟨hOutside, hPlace⟩
  rw [hAfter, ← hDir]
  constructor
  · intro q hOut
    rw [hOutside q hOut]
    rw [hDir] at hClears
    exact clears_outside hNamed hFs hReach hClears hOut
  · intro tree hOk
    apply hPlace
    subst hOk
    cases outcome with
    | ok u => rfl
    | error failure => simp [Except.map] at hOutcome

end Project

end PluginStudio
