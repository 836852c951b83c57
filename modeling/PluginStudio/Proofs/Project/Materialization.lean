import PluginStudio.Proofs.Project.Reconciliation

/-
  How a project is laid out once its place is clear.

  Key definitions include:
    * `PluginStudio.Studio.Confined`
    * `PluginStudio.Project.furnish`

  Main declarations:
    * `Studio.Confined.bind`, `Studio.Confined.forM`
    * `Project.confined_furnish`
    * `Project.materialize_apply`
    * `Project.last_of_makeDirs_dir`
    * `Project.layOut_inner`

  The directory of the project comes first.  It is new and empty,
  so what follows depends on nothing that was there before.
-/

------------------------------------------------------------
-- Confined Work In The Studio
------------------------------------------------------------

namespace PluginStudio

namespace Studio

open FileSystem

/-
  Work whose outcome and whose effect inside a directory depend
  on what is inside, and which has no effect elsewhere.
-/
def Confined
    {ε α : Type}
    (root : Path)
    (contents : FileSystem)
    (work : ExceptT ε Studio α) : Prop :=
  ∃ result contents',
    contents'.Plain ∧
      ∀ (world : World) (place : Place),
        world.files.Holds world.dir root place contents →
          (work world).1 = result ∧
            (work world).2.dir = world.dir ∧
              (work world).2.files.Holds world.dir root place
                  contents' ∧
                Inner place world.files (work world).2.files

namespace Confined

variable {ε α β : Type} {root : Path} {contents : FileSystem}

theorem pure
    (hPlain : contents.Plain)
    (a : α) :
    Confined root contents (Pure.pure a : ExceptT ε Studio α) :=
  ⟨.ok a, contents, hPlain, fun _ _ hHolds =>
    ⟨rfl, rfl, hHolds, Inner.refl _ _⟩⟩

theorem bind
    {first : ExceptT ε Studio α}
    {next : α → ExceptT ε Studio β}
    (hFirst : Confined root contents first)
    (hNext :
      ∀ a contents',
        contents'.Plain → Confined root contents' (next a)) :
    Confined root contents (first >>= next) := by
  obtain ⟨result, contents', hPlain, hRun⟩ := hFirst
  cases result with
  | error e =>
      refine ⟨.error e, contents', hPlain,
        fun world place hHolds => ?_⟩
      have hMade := hRun world place hHolds
      rw [except_bind_apply]
      rcases hEq : first world with ⟨made, world'⟩
      rw [hEq] at hMade
      obtain ⟨rfl, hRest⟩ := hMade
      exact ⟨rfl, hRest⟩
  | ok a =>
      obtain ⟨result, contents'', hPlain', hLast⟩ :=
        hNext a contents' hPlain
      refine ⟨result, contents'', hPlain',
        fun world place hHolds => ?_⟩
      have hMade := hRun world place hHolds
      rw [except_bind_apply]
      rcases hEq : first world with ⟨made, world'⟩
      rw [hEq] at hMade
      obtain ⟨rfl, hDir, hHolds', hInner⟩ := hMade
      simp only at hDir hHolds' hInner ⊢
      obtain ⟨hResult, hDir', hHolds'', hInner'⟩ :=
        hLast world' place (by rwa [hDir])
      rw [hDir] at hDir' hHolds''
      exact ⟨hResult, hDir', hHolds'', hInner.trans hInner'⟩

/- A sequence of works, each on what the ones before it left. -/
theorem forM
    {items : List α}
    {work : α → ExceptT ε Studio PUnit}
    (hPlain : contents.Plain)
    (hWork :
      ∀ item ∈ items, ∀ contents',
        contents'.Plain → Confined root contents' (work item)) :
    Confined root contents (items.forM work) := by
  induction items generalizing contents with
  | nil => exact pure hPlain _
  | cons item items ih =>
      change Confined root contents
        (work item >>= fun _ => items.forM work)
      refine bind (hWork item (by simp) _ hPlain)
        fun _ contents' hPlain' => ?_
      exact ih hPlain' fun item' hMem =>
        hWork item' (List.mem_cons_of_mem _ hMem)

/- Work on the files whose faults are told as failures. -/
theorem of_steps
    {work : ExceptT ε Studio α}
    {steps : FileSystem → Place → Steps α}
    {failure : IoFault → ε}
    (hWork :
      ∀ world,
        work world =
          ((steps world.files world.dir).1.mapError failure,
            { world with
              files := (steps world.files world.dir).2 }))
    (hSteps : FileSystem.Confined root contents steps) :
    Confined root contents work := by
  obtain ⟨result, contents', hPlain, hRun⟩ := hSteps
  refine ⟨result.mapError failure, contents', hPlain,
    fun world place hHolds => ?_⟩
  obtain ⟨hResult, hHolds', hInner⟩ :=
    hRun ⟨world.files, world.dir, place, hHolds⟩
  rw [hWork]
  simp only at hResult hHolds' hInner ⊢
  exact ⟨by rw [hResult], trivial, hHolds', hInner⟩

end Confined

end Studio

end PluginStudio

------------------------------------------------------------
-- Steps Of The Layout
------------------------------------------------------------

namespace PluginStudio

namespace Project

open FileSystem

theorem createDir_apply
    (p : Path)
    (world : World) :
    createDir p world =
      ((world.files.makeDirs world.dir p).1.mapError
          (Failure.createDir p),
        { world with
          files := (world.files.makeDirs world.dir p).2 }) := by
  change ((Studio.onFiles fun fs dir => fs.makeDirs dir p) >>= _ :
    Studio (Except Failure Unit)) world = _
  rw [Studio.bind_apply, Studio.onFiles_apply]
  rcases world.files.makeDirs world.dir p with ⟨fault | _, files⟩ <;>
    rfl

theorem writeFile_apply
    (p : Path)
    (text : String)
    (world : World) :
    writeFile p text world =
      ((world.files.step
          (world.files.write world.dir p (Utf8.encode text))).1.mapError
          (Failure.writeFile p),
        { world with
          files :=
            (world.files.step
              (world.files.write world.dir p
                (Utf8.encode text))).2 }) := by
  change ((Studio.onFile fun fs dir =>
      fs.write dir p (Utf8.encode text)) >>= _ :
    Studio (Except Failure Unit)) world = _
  rw [Studio.bind_apply, Studio.onFile, Studio.onFiles_apply]
  rcases world.files.step
    (world.files.write world.dir p (Utf8.encode text)) with
      ⟨fault | _, files⟩ <;> rfl

/- All that comes after the project's directory. -/
def furnish
    (tree : Tree)
    (request : Request) : ExceptT Failure Studio Unit := do
  [tree.sources, tree.resources].forM createDir
  (contents tree request).forM fun file => writeFile file.1 file.2

/- The project's directory comes first. -/
theorem layOut_apply
    (tree : Tree)
    (request : Request)
    (world : World) :
    layOut tree request world =
      match world.files.makeDirs world.dir tree.root with
      | (.ok _, files) =>
        furnish tree request { world with files := files }
      | (.error fault, files) =>
        (.error (.createDir tree.root fault),
          { world with files := files }) := by
  have hFirst :
      layOut tree request =
        (createDir tree.root >>= fun _ => furnish tree request) := by
    change
      ((createDir tree.root >>= fun _ =>
          [tree.sources, tree.resources].forM createDir) >>= fun _ =>
        (contents tree request).forM fun file =>
          writeFile file.1 file.2) = _
    rw [bind_assoc, furnish]
  rw [hFirst, Studio.except_bind_apply, createDir_apply]
  rcases world.files.makeDirs world.dir tree.root with
    ⟨fault | _, files⟩ <;> rfl

/- A project is furnished inside its directory. -/
theorem confined_furnish
    (workspace : Path)
    {request : Request}
    (hSources :
      (tree workspace request).sources.Beneath
        (tree workspace request).root)
    (hSource :
      (tree workspace request).sourceFile.Beneath
        (tree workspace request).root)
    {contents : FileSystem}
    (hPlain : contents.Plain) :
    Studio.Confined (tree workspace request).root contents
      (furnish (tree workspace request) request) := by
  refine Studio.Confined.bind ?_ fun _ _ hPlain' => ?_
  · refine Studio.Confined.forM hPlain fun p hMem _ hPlain' => ?_
    have hBeneath : p.Beneath (tree workspace request).root := by
      rw [List.mem_cons, List.mem_singleton] at hMem
      rcases hMem with rfl | rfl
      · exact hSources
      · exact beneath_resources workspace request
    exact .of_steps (createDir_apply p)
      (confined_makeDirsOn hPlain' hBeneath _)
  · refine Studio.Confined.forM hPlain'
      fun file hMem _ hPlain'' => ?_
    exact .of_steps (writeFile_apply file.1 file.2)
      (confined_write hPlain''
        (beneath_of_mem_contents workspace request hSource hMem)
        (endsInName_of_mem_contents workspace request hMem) _)

/-
  A project is materialized by laying it out where its place has
  been cleared, in whatever way.
-/
theorem materializeWith_apply
    (clearing : Clearing)
    (workspace : Path)
    (request : Request)
    (world : World)
    {outcome : Except Failure Unit}
    {world' : World}
    (hLaid :
      layOut (tree workspace request) request
          (reconcile clearing (tree workspace request).root
            world).2 =
        (outcome, world')) :
    (materializeWith clearing workspace request world).1 =
        outcome.map (fun _ => tree workspace request) ∧
      (materializeWith clearing workspace request world).2.files =
          world'.files ∧
        (materializeWith clearing workspace request world).2.dir =
          world'.dir := by
  rw [materializeWith]
  generalize tree workspace request = tree at hLaid ⊢
  rw [Studio.except_bind_apply, Studio.except_lift_apply]
  simp only
  rw [Studio.except_bind_apply, hLaid]
  cases outcome <;> exact ⟨rfl, rfl, rfl⟩

theorem materialize_apply
    (workspace : Path)
    (request : Request)
    (world : World)
    {outcome : Except Failure Unit}
    {world' : World}
    (hLaid :
      layOut (tree workspace request) request
          (reconcile .standard (tree workspace request).root
            world).2 =
        (outcome, world')) :
    (materialize workspace request world).1 =
        outcome.map (fun _ => tree workspace request) ∧
      (materialize workspace request world).2.files =
          world'.files ∧
        (materialize workspace request world).2.dir =
          world'.dir := by
  rw [materialize]
  exact materializeWith_apply .standard workspace request world hLaid

end Project

end PluginStudio

------------------------------------------------------------
-- The Project's Directory
------------------------------------------------------------

namespace PluginStudio

namespace Project

open FileSystem

variable {fs fs' : FileSystem} {start : Place}
variable {workspace : Path} {request : Request}

theorem dir_ne_empty
    (workspace : Path)
    (hNamed : request.Named) :
    dir workspace request ≠ "" :=
  (endsInName_dir workspace hNamed).ne_empty

/- A project's directory is the first of its ancestors. -/
theorem ancestors_dir
    (workspace : Path)
    (hNamed : request.Named) :
    ∃ rest,
      (dir workspace request).ancestors =
        dir workspace request :: rest := by
  apply Path.ancestors_of_parts
  rw [parts_dir workspace hNamed]
  simp

/- A project in a workspace that is there is an entry of it. -/
theorem entry_dir
    (hNamed : request.Named)
    (hCheck : (dir workspace request).check = .ok ())
    {r : Place × Nat}
    (hReach : fs.reach start workspace = .ok r) :
    fs.Entry start (dir workspace request) r.1
      (entryName request) :=
  entry_join (isName_entryName hNamed) hCheck hReach

/-
  In a workspace that is there no parent is missing, so nothing
  is made but the directory itself.
-/
theorem makeDirs_dir
    (hNamed : request.Named)
    {place : Place}
    {links : Nat}
    (hReach : fs.reach start workspace = .ok (place, links))
    (hNone :
      fs.names start Node.isDirectory (dir workspace request) =
        false) :
    fs.makeDirs start (dir workspace request) =
      match (dir workspace request).check with
      | .error fault => (.error fault, fs)
      | .ok _ =>
        if Path.longestName < (entryName request).length then
          (refuse .nameTooLong, fs)
        else if
            (fs.node? (place ++ [entryName request])).isSome then
          (refuse .alreadyExists, fs)
        else
          (.ok (),
            fs.put (place ++ [entryName request])
              (.directory dirMode)) := by
  obtain ⟨rest, hAncestors⟩ := ancestors_dir workspace hNamed
  -- Only a missing parent or a directory that is there would help.
  have hFail :
      ∀ {fault : IoFault},
        fs.makeDir start (dir workspace request) = .error fault →
          fault.isNotFound = false →
            fs.makeDirs start (dir workspace request) =
              (.error fault, fs) := by
    intro fault hMake hFound
    rw [makeDirs, hAncestors, makeDirsOn, hMake]
    simp [hFound, isThere, hNone]
  cases hCheck : (dir workspace request).check with
  | error fault =>
      refine hFail ?_
        (isNotFound_of_check (dir_ne_empty workspace hNamed)
          hCheck).1
      simp [makeDir, create, locate, hCheck, bind, Except.bind]
  | ok u =>
      have hMake :=
        create_of_entry (entry_dir hNamed hCheck hReach)
          (.directory dirMode)
      rw [← makeDir] at hMake
      simp only
      split_ifs at hMake ⊢ with hLong hSome hSlash
      · exact hFail hMake rfl
      · exact hFail hMake rfl
      · simp [Node.isDirectory] at hSlash
      · rw [makeDirs, hAncestors, makeDirsOn, hMake]

/-
  The directory of a project is the last that is made, if it was
  not there and its parents are there or are plainly written.
-/
theorem last_of_makeDirs_dir
    (hFs : fs.WellFormed)
    (hNamed : request.Named)
    (hNone :
      fs.names start Node.isDirectory (dir workspace request) =
        false)
    (hWorkspace :
      ".." ∉ workspace.parts ∨
        fs.names start Node.isDirectory workspace = true)
    (hOk :
      fs.makeDirs start (dir workspace request) = (.ok (), fs')) :
    ∃ most,
      most.WellFormed ∧
        Grown start (dir workspace request).ancestors fs most ∧
          most.makeDir start (dir workspace request) = .ok fs' := by
  obtain ⟨rest, hAncestors⟩ := ancestors_dir workspace hNamed
  rcases hWorkspace with hUp | hThere
  · have hUp : ".." ∉ (dir workspace request).parts := by
      rw [parts_dir workspace hNamed]
      simp [hUp, (isName_entryName hNamed).2.2.1.symm]
    rw [makeDirs, Path.ancestors] at hOk
    rw [Path.ancestors] at hAncestors ⊢
    rcases last_of_makeDirsOn hFs hUp
        (dir workspace request).segments.length
        (by simp [hAncestors]) hOk with
      ⟨-, hDir⟩ | hLast
    · simp [hNone] at hDir
    · exact hLast
  · obtain ⟨-, ⟨place, links⟩, hReach⟩ :=
      names_isDirectory_iff.mp hThere
    have hMade := makeDirs_dir hNamed hReach hNone
    rw [hOk] at hMade
    cases hCheck : (dir workspace request).check with
    | error fault => simp [hCheck] at hMade
    | ok u =>
        simp only [hCheck] at hMade
        split_ifs at hMade with hLong hSome
        · simp [refuse] at hMade
        · simp [refuse] at hMade
        · refine ⟨fs, hFs, Grown.refl start _ fs, ?_⟩
          rw [makeDir,
            create_of_entry (entry_dir hNamed hCheck hReach),
            if_neg hLong, if_neg hSome,
            if_neg (by simp [Node.isDirectory]),
            (Prod.mk.inj hMade).2]

/- A new directory holds nothing. -/
theorem holds_of_fresh
    {p : Path}
    (hFresh : Fresh start p fs fs') :
    ∃ place, fs'.Holds start p place empty := by
  obtain ⟨-, place, links, hReach, -, hNode, hEmpty⟩ := hFresh
  exact ⟨place, ⟨links, hReach⟩, hNode, inside_eq_empty hEmpty⟩

/- Once the project's directory is there, all work is in it. -/
theorem layOut_inner
    (workspace : Path)
    {world : World}
    (hFs : world.files.WellFormed)
    (hNamed : request.Named)
    (hSources :
      (tree workspace request).sources.Beneath
        (dir workspace request))
    (hSource :
      (tree workspace request).sourceFile.Beneath
        (dir workspace request))
    (hNone :
      world.files.names world.dir Node.isDirectory
        (dir workspace request) = false)
    (hWorkspace :
      ".." ∉ workspace.parts ∨
        world.files.names world.dir Node.isDirectory workspace =
          true)
    {made : FileSystem}
    (hMade :
      world.files.makeDirs world.dir (dir workspace request) =
        (.ok (), made)) :
    Fresh world.dir (dir workspace request) world.files made ∧
      ∃ place contents,
        (layOut (tree workspace request) request
            world).2.files.Holds world.dir (dir workspace request)
            place contents ∧
          Inner place made
            (layOut (tree workspace request) request
              world).2.files := by
  rcases last_of_makeDirs_dir hFs hNamed hNone hWorkspace hMade with
    ⟨most, hMost, hGrown, hMake⟩
  have hFresh := fresh_of_makeDir hMost hGrown hMake
  refine ⟨hFresh, ?_⟩
  rcases holds_of_fresh hFresh with ⟨place, hHolds⟩
  rw [← root_eq] at hSources hSource
  rcases confined_furnish workspace hSources hSource plain_empty with
    ⟨result, contents, -, hRun⟩
  rw [root_eq] at hRun
  rcases hRun { world with files := made } place hHolds with
    ⟨-, -, hHolds', hInner⟩
  have hLaid :
      layOut (tree workspace request) request world =
        furnish (tree workspace request) request
          { world with files := made } := by
    rw [layOut_apply, root_eq, hMade]
  rw [hLaid]
  exact ⟨place, contents, hHolds', hInner⟩

/-
  Laying out adds directories on the way to the project, and once
  that is there it changes nothing outside of it.
-/
theorem layOut_frame
    (workspace : Path)
    {world : World}
    (hFs : world.files.WellFormed)
    (hNamed : request.Named)
    (hSources :
      (tree workspace request).sources.Beneath
        (dir workspace request))
    (hSource :
      (tree workspace request).sourceFile.Beneath
        (dir workspace request))
    (hNone :
      world.files.names world.dir Node.isDirectory
        (dir workspace request) = false)
    (hWorkspace :
      ".." ∉ workspace.parts ∨
        world.files.names world.dir Node.isDirectory workspace =
          true) :
    ∃ made,
      Grown world.dir (dir workspace request).ancestors world.files
          made ∧
        ((layOut (tree workspace request) request world).2.files =
            made ∨
          (dir workspace request).check = .ok () ∧
            ∃ place contents,
              (layOut (tree workspace request) request
                  world).2.files.Holds world.dir
                  (dir workspace request) place contents ∧
                Inner place made
                  (layOut (tree workspace request) request
                    world).2.files) := by
  have hGrown :=
    grown_makeDirsOn world.files world.dir
      (dir workspace request).ancestors
  rw [← makeDirs] at hGrown
  rcases hMade :
      world.files.makeDirs world.dir (dir workspace request) with
    ⟨fault | _, made⟩
  · rw [hMade] at hGrown
    rw [layOut_apply, root_eq, hMade]
    exact ⟨made, hGrown, Or.inl rfl⟩
  · rw [hMade] at hGrown
    rcases layOut_inner workspace hFs hNamed hSources hSource hNone
        hWorkspace hMade with
      ⟨hFresh, hProject⟩
    exact ⟨made, hGrown, Or.inr ⟨hFresh.1, hProject⟩⟩

end Project

end PluginStudio
