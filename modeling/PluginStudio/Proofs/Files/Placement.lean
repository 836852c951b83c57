import PluginStudio.Proofs.Files.Writing
import PluginStudio.Proofs.Project.Workspace

/-
  Where directories and files beneath a directory are placed.

  Key definitions include:
    * `PluginStudio.Path.Onward`

  Main declarations:
    * `FileSystem.names_of_makeDirs`, `FileSystem.write_of_entry`
    * `FileSystem.Holds.reach_onward`
    * `FileSystem.Holds.makeDirs_onward`
    * `FileSystem.Holds.write_onward`

  In a directory without links a path that never climbs leads
  where its names say.  Making a directory there makes it and all
  between, and writing a file there puts it under its name.
-/

------------------------------------------------------------
-- Paths That Go On
------------------------------------------------------------

namespace PluginStudio

namespace Path

/- A path that goes on from another by given names, none up. -/
structure Onward
    (p root : Path)
    (rest : List String) : Prop where
  start : p.isAbsolute = root.isAbsolute
  parts : p.parts = root.parts ++ rest
  down : ".." ∉ rest

namespace Onward

variable {p root : Path} {rest : List String}

theorem refl (root : Path) : Onward root root [] :=
  ⟨rfl, by simp, by simp⟩

theorem join
    (hOnward : p.Onward root rest)
    {q : Path}
    (hRelative : q.isAbsolute = false)
    (hUp : ".." ∉ q.parts) :
    (p.join q).Onward root (rest ++ q.parts) where
  start := by rw [isAbsolute_join p hRelative, hOnward.start]
  parts := by
    rw [parts_join p hRelative, hOnward.parts, List.append_assoc]
  down := by simp [hOnward.down, hUp]

theorem join_name
    (hOnward : p.Onward root rest)
    {name : String}
    (hName : IsName name) :
    (p.join name).Onward root (rest ++ [name]) := by
  rw [← parts_of_isName hName]
  apply hOnward.join (isAbsolute_of_notMem hName.2.2.2)
  rw [parts_of_isName hName]
  simpa using hName.2.2.1.symm

/- One path after another. -/
theorem join_all
    (hOnward : p.Onward root rest)
    {qs : List Path}
    (hAll : ∀ q ∈ qs, q.isAbsolute = false ∧ ".." ∉ q.parts) :
    (qs.foldl Path.join p).Onward root (rest ++ qs.flatMap Path.parts) := by
  induction qs generalizing p rest with
  | nil => simpa using hOnward
  | cons q qs ih =>
      rcases List.forall_mem_cons.mp hAll with ⟨⟨hRelative, hUp⟩, hAll⟩
      rw [List.flatMap_cons, ← List.append_assoc]
      exact ih (hOnward.join hRelative hUp) hAll

theorem isName
    (hOnward : p.Onward root rest)
    {name : String}
    (hMem : name ∈ rest) :
    IsName name := by
  apply isName_of_mem_parts (p := p)
  · simp [hOnward.parts, hMem]
  · rintro rfl
    exact hOnward.down hMem

theorem beneath
    (hOnward : p.Onward root rest)
    (hNe : rest ≠ []) :
    p.Beneath root :=
  ⟨hOnward.start, rest, hNe, hOnward.parts,
    stays_of_notMem 0 hOnward.down⟩

/- Its ancestors are those of the other path, or go on as well. -/
theorem ancestor
    (hOnward : p.Onward root rest)
    {more : Nat}
    {a : Path}
    (hMem : a ∈ p.ancestorsWithin more) :
    a.isAbsolute = root.isAbsolute ∧
      (a.parts <+: root.parts ∨
        ∃ init, init <+: rest ∧ a.Onward root init) := by
  have hAncestor :
      a.isAbsolute = root.isAbsolute ∧
        a.parts <+: root.parts ++ rest := by
    rw [← hOnward.parts, ← hOnward.start]
    rcases prefix_of_mem_ancestorsWithin hMem with
      rfl | ⟨hStart, hPrefix⟩
    · exact ⟨rfl, List.prefix_refl _⟩
    · exact ⟨hStart, hPrefix.trans (List.dropLast_prefix _)⟩
  refine ⟨hAncestor.1, ?_⟩
  rcases List.prefix_or_prefix_of_prefix hAncestor.2
      (List.prefix_append _ _) with hAbove | ⟨init, hParts⟩
  · exact .inl hAbove
  · have hInit : init <+: rest := by
      rw [← List.prefix_append_right_inj root.parts, hParts]
      exact hAncestor.2
    exact .inr ⟨init, hInit, hAncestor.1, hParts.symm,
      fun hUp => hOnward.down (hInit.subset hUp)⟩

end Onward

end Path

end PluginStudio

------------------------------------------------------------
-- Making And Writing
------------------------------------------------------------

namespace PluginStudio

namespace FileSystem

variable {fs fs' : FileSystem} {dir : Place} {p : Path}

/- A directory that was made is there. -/
private theorem names_of_makeDir
    (hMake : fs.makeDir dir p = .ok fs') :
    fs'.names dir Node.isDirectory p = true := by
  obtain ⟨place, name, hEntry, hLong, hFree, rfl⟩ := create_ok hMake
  obtain ⟨links, hReach⟩ :=
    (hEntry.of_keeps (Keeps.put_free (.directory dirMode) hFree)).reach
      hLong (by rw [node?_put_snoc, if_pos rfl])
  exact names_isDirectory_iff.mpr ⟨hEntry.check, _, hReach⟩

theorem names_of_ensureDir
    (hOk : fs.ensureDir dir p = (.ok (), fs')) :
    fs'.names dir Node.isDirectory p = true := by
  rw [ensureDir] at hOk
  cases hMake : fs.makeDir dir p with
  | ok made =>
      rw [hMake, Prod.mk.injEq] at hOk
      exact hOk.2 ▸ names_of_makeDir hMake
  | error fault =>
      rw [hMake] at hOk
      simp only at hOk
      split_ifs at hOk with hThere
      · rw [Prod.mk.injEq] at hOk
        rw [← hOk.2]
        exact (Bool.and_eq_true_iff.mp hThere).2
      · simp at hOk

/- Whether it was there before or not, it is there afterwards. -/
theorem names_of_makeDirs
    (hParts : p.parts ≠ [])
    (hOk : fs.makeDirs dir p = (.ok (), fs')) :
    fs'.names dir Node.isDirectory p = true := by
  obtain ⟨more, hMore⟩ := Path.ancestors_of_parts hParts
  rw [makeDirs, hMore, makeDirsOn] at hOk
  cases hMake : fs.makeDir dir p with
  | ok made =>
      rw [hMake, Prod.mk.injEq] at hOk
      exact hOk.2 ▸ names_of_makeDir hMake
  | error fault =>
      rw [hMake] at hOk
      simp only at hOk
      split_ifs at hOk with hMissing hThere
      · rcases hMade : fs.makeDirsOn dir more with ⟨fault | _, made⟩
        · rw [hMade] at hOk
          simp at hOk
        · rw [hMade] at hOk
          exact names_of_ensureDir hOk
      · rw [Prod.mk.injEq] at hOk
        rw [← hOk.2]
        exact (Bool.and_eq_true_iff.mp hThere).2
      · simp at hOk

/- A file under a free name is new. -/
theorem write_of_entry
    {place : Place}
    {name : String}
    (hEntry : fs.Entry dir p place name)
    (hSlash : p.endsWithSlash = false)
    (hFree : fs.node? (place ++ [name]) = none)
    (content : Bytes) :
    fs.write dir p content =
      if Path.longestName < name.length then
        refuse .nameTooLong
      else
        .ok (fs.put (place ++ [name]) (.file fileMode content)) := by
  obtain ⟨ns, links, hNames, hAdvance⟩ := hEntry.way
  obtain ⟨mode, hPlace⟩ := hEntry.directory
  have hSteps : p.steps = ns ++ [name] := by
    simp [Path.steps, hSlash, hNames]
  have hResolve :
      fs.resolve dir .output p =
        if Path.longestName < name.length then
          refuse .nameTooLong
        else
          .ok (.vacant place name) := by
    rw [resolve, hEntry.check, hSteps]
    simp only [bind, Except.bind]
    rw [walk_append (by simp) (by simp [hEntry.isName.1]), hAdvance]
    simp only
    rw [walk_last hPlace (isVoid_eq_false_of_isName hEntry.isName)
      hEntry.isName.2.2.1, hFree]
    split_ifs <;> rfl
  rw [write, openToWrite, hResolve]
  split_ifs
  · rfl
  · simp [bind, Except.bind, pure, Except.pure, withRoom, node?_put]

end FileSystem

end PluginStudio

------------------------------------------------------------
-- Beneath A Directory
------------------------------------------------------------

namespace PluginStudio

namespace FileSystem

variable {fs fs' contents : FileSystem} {dir place : Place}
variable {root p : Path} {rest : List String}

/- Without links a name leads one place down, or nowhere. -/
private theorem Plain.stride_name
    (hPlain : contents.Plain)
    {r : Place}
    {mode : Nat}
    (hDir : contents.node? r = some (.directory mode))
    {name : String}
    (hName : Path.IsName name) :
    (∃ errno, contents.stride r name = .halt errno) ∨
      contents.stride r name = .pass (r ++ [name]) := by
  rw [FileSystem.stride_name hDir (isVoid_eq_false_of_isName hName)
    hName.2.2.1]
  split_ifs
  · exact .inl ⟨_, rfl⟩
  cases hNode : contents.node? (r ++ [name]) with
  | none => exact .inl ⟨_, rfl⟩
  | some node =>
      cases node with
      | link target => exact absurd hNode (hPlain _ _)
      | directory mode => exact .inr rfl
      | file mode content => exact .inr rfl
      | device device => exact .inr rfl

/- So names that lead anywhere lead where they say. -/
theorem Plain.advance_names
    (hPlain : contents.Plain)
    {names : List String}
    (hNames : ∀ name ∈ names, Path.IsName name)
    {links : Nat}
    {r : Place}
    {found : Place × Nat}
    (hOk : contents.advance links r names = .ok found) :
    found.1 = r ++ names ∧
      ∀ init, init <+: names →
        ∃ mode, contents.node? (r ++ init) = some (.directory mode) := by
  obtain ⟨mode, hDir⟩ := directory_of_advance_start hOk
  induction names generalizing r mode with
  | nil =>
      rw [advance_nil_of_directory hDir, Except.ok.injEq] at hOk
      refine ⟨by simp [← hOk], fun init hInit => ⟨mode, ?_⟩⟩
      rw [List.prefix_nil.mp hInit, List.append_nil, hDir]
  | cons name names ih =>
      rcases List.forall_mem_cons.mp hNames with ⟨hName, hNames⟩
      rw [advance_cons] at hOk
      rcases hPlain.stride_name hDir hName with ⟨errno, hHalt⟩ | hPass
      · rw [hHalt] at hOk
        contradiction
      rw [hPass] at hOk
      obtain ⟨mode', hDir'⟩ := directory_of_advance_start hOk
      obtain ⟨hFound, hAll⟩ := ih hNames hOk mode' hDir'
      refine ⟨by simpa using hFound, fun init hInit => ?_⟩
      cases init with
      | nil => exact ⟨mode, by simpa using hDir⟩
      | cons first init =>
          obtain ⟨rfl, hTail⟩ := List.cons_prefix_cons.mp hInit
          simpa using hAll init hTail

namespace Holds

variable (hHolds : fs.Holds dir root place contents)
variable (hPlain : contents.Plain)

include hHolds hPlain

/- A path that goes on leads where its names say. -/
theorem reach_onward
    (hOnward : p.Onward root rest)
    {found : Place × Nat}
    (hReach : fs.reach dir p = .ok found) :
    found.1 = place ++ rest ∧
      ∀ init, init <+: rest →
        ∃ mode, contents.node? init = some (.directory mode) := by
  have hFilter :
      (p.parts.filter fun name => !Path.isVoid name) =
        root.parts ++ rest := by
    rw [Path.parts_eq_filter_segments, List.filter_filter,
      ← hOnward.parts, Path.parts_eq_filter_segments]
    simp
  obtain ⟨links, hAdvance⟩ :=
    hHolds.advance_parts hPlain hFilter
      (Path.stays_of_notMem 0 hOnward.down)
  rw [reach_eq_parts, startOf, hOnward.start, ← startOf,
    hAdvance] at hReach
  rcases hInside : contents.advance 0 [] rest with errno | inside
  · rw [hInside] at hReach
    contradiction
  · rw [hInside, Except.ok.injEq] at hReach
    obtain ⟨hEnd, hAll⟩ :=
      hPlain.advance_names (fun _ => hOnward.isName) hInside
    rw [← hReach, hEnd]
    simpa using hAll

/-
  To make a directory beneath another makes all that is missing
  between them, and nothing else.
-/
theorem makeDirs_onward
    (hOnward : p.Onward root rest)
    (hNe : rest ≠ [])
    (hOk : fs.makeDirs dir p = (.ok (), fs')) :
    ∃ contents',
      contents'.Plain ∧
        fs'.Holds dir root place contents' ∧
          ∀ q,
            contents'.node? q =
              (contents.node? q).or
                (if q <+: rest then
                  some (.directory dirMode)
                else
                  none) := by
  have hMade :
      fs.makeDirsOn dir (p.ancestorsWithin p.segments.length) =
        (.ok (), fs') := hOk
  obtain ⟨result, contents', hPlain', hRun⟩ :=
    confined_makeDirsOn hPlain (hOnward.beneath hNe) p.segments.length
  obtain ⟨-, hHolds', hInner⟩ := hRun ⟨fs, dir, place, hHolds⟩
  have hGrown :=
    grown_makeDirsOn fs dir (p.ancestorsWithin p.segments.length)
  simp only [hMade] at hHolds' hInner hGrown
  have hThere :=
    names_of_makeDirs (by simp [hOnward.parts, hNe]) hOk
  obtain ⟨-, found, hReach⟩ := names_isDirectory_iff.mp hThere
  obtain ⟨-, hAll⟩ := hHolds'.reach_onward hPlain' hOnward hReach
  refine ⟨contents', hPlain', hHolds', fun q => ?_⟩
  rcases hGrown (place ++ q) with
    hSame | ⟨hNone, hNew, a, hMem, -, links, hReachA⟩
  · rw [hHolds'.node?, hHolds.node?] at hSame
    split_ifs with hWithin
    · obtain ⟨mode, hDir⟩ := hAll q hWithin
      rw [← hSame, hDir, Option.some_or]
    · rw [hSame, Option.or_none]
  · have hWithin : q <+: rest := by
      obtain ⟨hStart, hAbove | ⟨init, hInit, hOnwardA⟩⟩ :=
        hOnward.ancestor hMem
      · -- The way to the directory was there before.
        obtain ⟨links', hRoot⟩ := hHolds.reach
        obtain ⟨r, hReach'⟩ := reach_of_prefix hRoot hStart hAbove
        obtain ⟨mode, hDir⟩ := directory_of_advance hReach'
        have hSame := reach_of_keeps hInner.keeps hReach'
        rw [hReachA, Except.ok.injEq] at hSame
        rw [← hSame, hNone] at hDir
        contradiction
      · obtain ⟨hEnd, -⟩ :=
          hHolds'.reach_onward hPlain' hOnwardA hReachA
        rw [List.append_cancel_left hEnd]
        exact hInit
    rw [hHolds'.node?] at hNew
    rw [hHolds.node?] at hNone
    rw [if_pos hWithin, hNone, Option.none_or, hNew]

/- The way to a file is an entry of the directory it goes on to. -/
private theorem entry_onward
    {name : String}
    (hOnward : p.Onward root (rest ++ [name]))
    (hEnds : p.EndsInName)
    {content : Bytes}
    (hOk : fs.write dir p content = .ok fs') :
    fs.Entry dir p (place ++ rest) name := by
  obtain ⟨hSlash, last, hLast, hName⟩ := hEnds
  obtain ⟨ns, hNames⟩ := List.getLast?_eq_some_iff.mp hLast
  have hParts := hOnward.parts
  rw [Path.parts_eq_filter_names, hNames, List.filter_append,
    List.filter_cons_of_pos (by simp [isVoid_eq_false_of_isName hName]),
    List.filter_nil, ← List.append_assoc] at hParts
  obtain ⟨hFilter, hEq⟩ := List.append_inj' hParts rfl
  obtain rfl : last = name := by simpa using hEq
  have hUp : ".." ∉ rest := fun hMem => hOnward.down (by simp [hMem])
  obtain ⟨links, hAdvance⟩ :=
    hHolds.advance_parts hPlain hFilter (Path.stays_of_notMem 0 hUp)
  rw [startOf, ← hOnward.start, ← startOf] at hAdvance
  have hResolve : ∃ spot, fs.resolve dir .output p = .ok spot := by
    obtain ⟨opened, hOpen, -⟩ := exists_of_bind_ok hOk
    obtain ⟨spot, hSpot, -⟩ := exists_of_bind_ok hOpen
    exact ⟨spot, hSpot⟩
  obtain ⟨spot, hSpot⟩ := hResolve
  obtain ⟨u, hCheck, hWalk⟩ := exists_of_bind_ok hSpot
  have hSteps : p.steps = ns ++ [last] := by
    simp [Path.steps, hSlash, hNames]
  rw [hSteps, walk_append (by simp) (by simp [hName.1]),
    hAdvance] at hWalk
  rcases hInside : contents.advance 0 [] rest with errno | inside
  · rw [hInside] at hWalk
    contradiction
  · rw [hInside] at hAdvance
    obtain ⟨hEnd, -⟩ :=
      hPlain.advance_names
        (fun _ hMem => hOnward.isName (by simp [hMem])) hInside
    simp only [hEnd, List.nil_append] at hAdvance
    exact entry_of_advance hCheck hNames hName hAdvance

/- To write a new file beneath a directory puts it there. -/
theorem write_onward
    {name : String}
    (hOnward : p.Onward root (rest ++ [name]))
    (hEnds : p.EndsInName)
    (hFree : contents.node? (rest ++ [name]) = none)
    {content : Bytes}
    (hOk : fs.write dir p content = .ok fs') :
    fs'.Holds dir root place
        (contents.put (rest ++ [name]) (.file fileMode content)) ∧
      fs'.Keeps fs ∧
        fs'.stat dir true p =
          .ok (place ++ (rest ++ [name]), .file fileMode content) := by
  have hEntry := hHolds.entry_onward hPlain hOnward hEnds hOk
  have hNone : fs.node? (place ++ rest ++ [name]) = none := by
    rw [List.append_assoc, hHolds.node?, hFree]
  have hWrite := write_of_entry hEntry hEnds.1 hNone content
  rw [hOk] at hWrite
  split_ifs at hWrite with hLong
  · contradiction
  rw [Except.ok.injEq, List.append_assoc] at hWrite
  obtain ⟨hHolds', hInner⟩ :=
    hHolds.put (r := rest ++ [name]) (by simp)
      (.file fileMode content) (by simp [hFree])
  rw [← hWrite] at hHolds' hInner
  have hNode :
      fs'.node? (place ++ rest ++ [name]) =
        some (.file fileMode content) := by
    rw [List.append_assoc, hHolds'.node?, node?_put _ (by simp),
      if_pos rfl]
  refine ⟨hHolds', hInner.keeps, ?_⟩
  rw [(hEntry.of_keeps hInner.keeps).stat hEnds.1
    (.inr fun target => by simp only [hNode, ne_eq]; simp),
    if_neg hLong, hNode]
  simp

end Holds

end FileSystem

end PluginStudio
