import PluginStudio.Proofs.Files.Changes

/-
  Directories that are made and trees that are removed.

  Key definitions include:
    * `PluginStudio.FileSystem.Grown`
    * `PluginStudio.FileSystem.Fresh`
    * `PluginStudio.FileSystem.Enters`

  Main declarations:
    * `makeDirsOn_induction`
    * `WellFormed.makeDirsOn`, `WellFormed.removeTree`
    * `grown_makeDirsOn`
    * `create_of_reach`
    * `last_of_makeDirsOn`
    * `enters_makeDirsOn`

  Making a directory and its ancestors adds directories to which
  these paths lead, and nothing else.  If no ancestor climbs up,
  the last directory is either there before or empty after.
-/

------------------------------------------------------------
-- Steps And Runs
------------------------------------------------------------

namespace PluginStudio

namespace FileSystem

variable {dir : Place}

/- What each directory made preserves holds after all of them. -/
theorem makeDirsOn_induction
    {motive : FileSystem → Prop}
    {paths : List Path}
    (step :
      ∀ fs fs' p, p ∈ paths → motive fs →
        fs.makeDir dir p = .ok fs' → motive fs')
    {fs : FileSystem}
    (hFs : motive fs) :
    motive (fs.makeDirsOn dir paths).2 := by
  induction paths generalizing fs with
  | nil => exact hFs
  | cons p paths ih =>
      have hStep := fun fs fs' => step fs fs' p (by simp)
      rw [makeDirsOn]
      cases hMake : fs.makeDir dir p with
      | ok fs' => exact hStep fs fs' hFs hMake
      | error fault =>
          simp only
          split_ifs with hMissing hThere
          · -- The parent is made first, and then the directory.
            have hParent := ih
              (fun fs fs' q hMem => step fs fs' q
                (List.mem_cons_of_mem _ hMem)) hFs
            rcases hRest : fs.makeDirsOn dir paths with
              ⟨fault | _, fs'⟩
            · rw [hRest] at hParent
              exact hParent
            · rw [hRest] at hParent
              simp only [ensureDir]
              cases hAgain : fs'.makeDir dir p with
              | ok fs'' => exact hStep fs' fs'' hParent hAgain
              | error fault =>
                  simp only
                  split_ifs <;> exact hParent
          · exact hFs
          · exact hFs

namespace WellFormed

variable {fs : FileSystem}

theorem makeDirsOn
    (hFs : fs.WellFormed)
    (dir : Place)
    (paths : List Path) :
    (fs.makeDirsOn dir paths).2.WellFormed :=
  makeDirsOn_induction
    (fun _ _ _ _ hFs hMake => hFs.create hMake) hFs

theorem removeTree
    (hFs : fs.WellFormed)
    (dir : Place)
    (p : Path) :
    (fs.removeTree dir p).2.WellFormed := by
  rw [FileSystem.removeTree]
  rcases fs.stat dir false p with fault | ⟨place, node⟩
  · exact hFs
  · cases node with
    | link target =>
        simp only [step]
        cases hUnlink : fs.unlink dir p with
        | ok fs' => exact hFs.unlink hUnlink
        | error fault => exact hFs
    | directory mode =>
        have hEmptied := hFs.eraseBelow place
        simp only
        cases hRemove : (fs.eraseBelow place).removeDir dir p with
        | ok fs' => exact hEmptied.removeDir hRemove
        | error fault =>
            simp only
            split_ifs <;> exact hEmptied
    | _ => exact hFs

end WellFormed

end FileSystem

end PluginStudio

------------------------------------------------------------
-- Growth
------------------------------------------------------------

namespace PluginStudio

namespace FileSystem

variable {dir : Place}

namespace Keeps

/- A new entry leaves all ways open. -/
theorem put
    {fs : FileSystem}
    {place : Place}
    (hPlace : place ≠ [])
    (node : Node)
    (hFree :
      ∀ old, fs.node? place = some old →
        old.isDirectory = false ∧ ∀ target, old ≠ .link target) :
    (fs.put place node).Keeps fs := by
  intro q old hOld hWay
  rw [node?_put _ hPlace, if_neg ?_, hOld]
  rintro rfl
  obtain ⟨hDir, hLink⟩ := hFree old hOld
  rcases hWay with hIsDir | ⟨target, hTarget⟩
  · rw [hDir] at hIsDir
    contradiction
  · exact hLink target hTarget

theorem put_free
    {fs : FileSystem}
    {place : Place}
    {name : String}
    (node : Node)
    (hFree : fs.node? (place ++ [name]) = none) :
    (fs.put (place ++ [name]) node).Keeps fs :=
  put (by simp) node (by simp [hFree])

/- No way leads through a file. -/
theorem put_over
    {fs : FileSystem}
    {place : Place}
    (hPlace : place ≠ [])
    (node : Node)
    {mode : Nat}
    {content : Bytes}
    (hFile : fs.node? place = some (.file mode content)) :
    (fs.put place node).Keeps fs := by
  apply put hPlace
  intro old hOld
  rw [hFile, Option.some.injEq] at hOld
  subst hOld
  exact ⟨rfl, by simp⟩

end Keeps

/-
  One file system has become another by directories to which
  some of the given paths lead.
-/
def Grown
    (dir : Place)
    (paths : List Path)
    (before after : FileSystem) : Prop :=
  ∀ q,
    after.node? q = before.node? q ∨
      (before.node? q = none ∧
        after.node? q = some (.directory dirMode) ∧
          ∃ p ∈ paths,
            p.check = .ok () ∧
              ∃ links, after.reach dir p = .ok (q, links))

namespace Grown

variable {paths : List Path} {before fs fs' : FileSystem}

theorem refl
    (dir : Place)
    (paths : List Path)
    (fs : FileSystem) :
    Grown dir paths fs fs :=
  fun _ => Or.inl rfl

theorem mono
    {paths' : List Path}
    (hGrown : Grown dir paths before fs)
    (hSubset : paths ⊆ paths') :
    Grown dir paths' before fs := by
  intro q
  rcases hGrown q with hSame | ⟨hNone, hNew, p, hMem, hReach⟩
  · exact Or.inl hSame
  · exact Or.inr ⟨hNone, hNew, p, hSubset hMem, hReach⟩

/- What is free now was free before. -/
theorem node?_eq_none
    (hGrown : Grown dir paths before fs)
    {q : Place}
    (hFree : fs.node? q = none) :
    before.node? q = none := by
  rcases hGrown q with hSame | ⟨hNone, -⟩
  · rw [← hSame, hFree]
  · exact hNone

theorem makeDir
    (hGrown : Grown dir paths before fs)
    {p : Path}
    (hMem : p ∈ paths)
    (hMake : fs.makeDir dir p = .ok fs') :
    Grown dir paths before fs' := by
  obtain ⟨place, name, hEntry, hLong, hFree, rfl⟩ := create_ok hMake
  have hKeeps :=
    Keeps.put_free (.directory dirMode) hFree
  intro q
  by_cases hQ : q = place ++ [name]
  · subst hQ
    have hNode := fs.node?_put_snoc place name
      (.directory dirMode) (place ++ [name])
    rw [if_pos rfl] at hNode
    exact Or.inr ⟨hGrown.node?_eq_none hFree, hNode, p, hMem,
      hEntry.check, (hEntry.of_keeps hKeeps).reach hLong hNode⟩
  · rw [node?_put_snoc, if_neg hQ]
    rcases hGrown q with
      hSame | ⟨hNone, hDir, p', hMem', hCheck, links, hReach⟩
    · exact Or.inl hSame
    · exact Or.inr ⟨hNone, hDir, p', hMem', hCheck, links,
        reach_of_keeps hKeeps hReach⟩

end Grown

theorem grown_makeDirsOn
    (fs : FileSystem)
    (dir : Place)
    (paths : List Path) :
    Grown dir paths fs (fs.makeDirsOn dir paths).2 :=
  makeDirsOn_induction
    (fun _ _ _ hMem hGrown hMake => hGrown.makeDir hMem hMake)
    (Grown.refl dir _ fs)

end FileSystem

end PluginStudio

------------------------------------------------------------
-- Directories That Are There
------------------------------------------------------------

namespace PluginStudio

/- A path that names anything is the first of its ancestors. -/
theorem Path.ancestors_of_parts
    {p : Path}
    (hParts : p.parts ≠ []) :
    ∃ more, p.ancestors = p :: more := by
  obtain ⟨parent, hParent⟩ := Path.exists_parent?_of_parts hParts
  obtain ⟨more, hMore⟩ :
      ∃ more, p.segments.length = more + 1 :=
    Nat.exists_eq_succ_of_ne_zero (by simpa using Path.segments_ne_nil p)
  rw [Path.ancestors, hMore, Path.ancestorsWithin, hParent]
  by_cases hEmpty : parent = "" <;> simp [hEmpty]

/- The first of a path's ancestors is the path itself. -/
theorem Path.ancestorsWithin_succ
    (more : Nat)
    (p : Path) :
    p.ancestorsWithin (more + 1) = [] ∨
      ∃ rest,
        p.ancestorsWithin (more + 1) = p :: rest ∧
          (rest = [] ∨
            ∃ parent,
              p.parent? = some parent ∧ parent ≠ "" ∧
                rest = parent.ancestorsWithin more) := by
  rw [Path.ancestorsWithin]
  cases hParent : p.parent? with
  | none => exact Or.inl rfl
  | some parent =>
      by_cases hEmpty : parent = ""
      · exact Or.inr ⟨[], by simp [hEmpty], Or.inl rfl⟩
      · exact Or.inr ⟨_, by simp [hEmpty],
          Or.inr ⟨parent, rfl, hEmpty, rfl⟩⟩

namespace FileSystem

variable {fs : FileSystem} {dir : Place} {p : Path}

theorem names_isDirectory_iff :
    fs.names dir Node.isDirectory p = true ↔
      p.check = .ok () ∧ ∃ r, fs.reach dir p = .ok r := by
  rw [names]
  cases hCheck : p.check with
  | error fault =>
      simp [stat, resolve, hCheck, bind, Except.bind]
  | ok u =>
      have hStat :
          ∀ q,
            (∃ mode,
                fs.stat dir true p = .ok (q, .directory mode)) ↔
              ∃ links, fs.reach dir p = .ok (q, links) :=
        stat_directory_iff hCheck
      constructor
      · intro hNames
        refine ⟨rfl, ?_⟩
        rcases hEq : fs.stat dir true p with fault | ⟨q, node⟩
        · simp [hEq] at hNames
        · rw [hEq] at hNames
          cases node with
          | directory mode =>
              obtain ⟨links, hReach⟩ := (hStat q).mp ⟨mode, hEq⟩
              exact ⟨_, hReach⟩
          | _ => simp [Node.isDirectory] at hNames
      · rintro ⟨-, ⟨q, links⟩, hReach⟩
        obtain ⟨mode, hEq⟩ := (hStat q).mpr ⟨links, hReach⟩
        simp [hEq, Node.isDirectory]

/- Nothing new is made where a path leads to a directory. -/
theorem create_of_reach
    (hCheck : p.check = .ok ())
    {r : Place × Nat}
    (hReach : fs.reach dir p = .ok r)
    (node : Node) :
    fs.create dir p node = refuse .alreadyExists := by
  rcases List.eq_nil_or_concat p.names with
    hNames | ⟨ns, name, hNames⟩
  · simp [create, locate, hCheck, hNames, bind, Except.bind, pure,
      Except.pure]
  · rw [List.concat_eq_append] at hNames
    rw [reach, hNames, advance_append] at hReach
    rcases hAdvance : fs.advance mostLinks (startOf dir p) ns with
      errno | ⟨q, links⟩
    · rw [hAdvance] at hReach
      contradiction
    · rw [hAdvance] at hReach
      simp only at hReach
      by_cases hDot : name = "."
      · rw [create, locate_eq hCheck hNames, hAdvance, hDot]
        rfl
      by_cases hUp : name = ".."
      · rw [create, locate_eq hCheck hNames, hAdvance, hUp]
        rfl
      have hMem : name ∈ p.names := by simp [hNames]
      have hName : Path.IsName name :=
        ⟨Path.ne_empty_of_mem_names hMem, hDot, hUp,
          Path.slash_notMem_of_mem_names hMem⟩
      have hEntry : fs.Entry dir p q name :=
        ⟨hCheck, hName, ns, links, hNames, hAdvance⟩
      obtain ⟨hLong, old, hOld, -⟩ :=
        node?_of_advance_name hName hReach
      rw [create_of_entry hEntry, if_neg (Nat.not_lt.mpr hLong),
        if_pos (by rw [hOld]; rfl)]

/- Where the directory is there, nothing has to be made. -/
theorem makeDirs_of_names
    (hThere : fs.names dir Node.isDirectory p = true) :
    fs.makeDirs dir p = (.ok (), fs) := by
  rcases names_isDirectory_iff.mp hThere with ⟨hCheck, r, hReach⟩
  have hMake : fs.makeDir dir p = refuse .alreadyExists :=
    create_of_reach hCheck hReach _
  unfold makeDirs Path.ancestors
  cases p.segments.length with
  | zero => rfl
  | succ more =>
      rcases Path.ancestorsWithin_succ more p with
        hNil | ⟨rest, hRest, -⟩
      · rw [hNil, makeDirsOn]
      · have hFound :
            (IoFault.system .alreadyExists).isNotFound = false := by
          decide
        rw [hRest, makeDirsOn, hMake]
        simp [refuse, hFound, isThere, hThere]

end FileSystem

end PluginStudio

------------------------------------------------------------
-- Fresh Directories
------------------------------------------------------------

namespace PluginStudio

namespace FileSystem

/-
  A path leads to a directory that is new and has nothing in
  it.
-/
def Fresh
    (dir : Place)
    (p : Path)
    (before after : FileSystem) : Prop :=
  p.check = .ok () ∧
    ∃ place links,
      after.reach dir p = .ok (place, links) ∧
        before.node? place = none ∧
          after.node? place = some (.directory dirMode) ∧
            ∀ q, q.below place = true → after.node? q = none

variable {before fs fs' : FileSystem} {dir : Place} {p : Path}
variable {paths : List Path}

/- A directory is empty when it is made. -/
theorem fresh_of_makeDir
    (hFs : fs.WellFormed)
    (hGrown : Grown dir paths before fs)
    (hMake : fs.makeDir dir p = .ok fs') :
    Fresh dir p before fs' := by
  obtain ⟨place, name, hEntry, hLong, hFree, rfl⟩ := create_ok hMake
  have hNode := fs.node?_put_snoc place name (.directory dirMode)
  have hNew := hNode (place ++ [name])
  rw [if_pos rfl] at hNew
  have hKeeps := Keeps.put_free (.directory dirMode) hFree
  obtain ⟨links, hReach⟩ :=
    (hEntry.of_keeps hKeeps).reach hLong hNew
  refine ⟨hEntry.check, _, links, hReach,
    hGrown.node?_eq_none hFree, hNew, ?_⟩
  intro q hBelow
  obtain ⟨hPrefix, hNe⟩ := (Place.below_iff _ _).mp hBelow
  rw [hNode, if_neg hNe]
  exact hFs.node?_eq_none_of_prefix_absent hFree hPrefix

theorem Fresh.ne
    (hFresh : Fresh dir p before fs) :
    fs ≠ before := by
  rintro rfl
  rcases hFresh with ⟨-, place, -, -, hNone, hSome, -⟩
  rw [hNone] at hSome
  contradiction

/- One name down from an empty directory nothing is found. -/
theorem Fresh.not_reach_child
    {parent : Path}
    (hFresh : Fresh dir parent before fs)
    (hStart : parent.isAbsolute = p.isAbsolute)
    {name : String}
    (hName : Path.IsName name)
    (hParts : p.parts = parent.parts ++ [name])
    (r : Place × Nat) :
    fs.reach dir p ≠ .ok r := by
  obtain ⟨-, place, links, hReach, -, hPlace, hEmpty⟩ := hFresh
  intro hOk
  rw [reach_eq_parts, hParts, advance_append, startOf,
    ← hStart, ← startOf, ← reach_eq_parts, hReach] at hOk
  obtain ⟨-, node, hSome, -⟩ := node?_of_advance_name hName hOk
  rw [hEmpty (place ++ [name]) (by simp)] at hSome
  contradiction

/- So a directory is not there when its parent has been made. -/
theorem Fresh.isThere_eq_false
    {parent : Path}
    (hFresh : Fresh dir parent before fs)
    (hParent : p.parent? = some parent)
    (hUp : ".." ∉ p.parts)
    {last : String}
    (hParts : p.parts = parent.parts ++ [last])
    (fault : IoFault) :
    fs.isThere dir p fault = false := by
  have hLast : Path.IsName last := by
    have hMem : last ∈ p.parts := by simp [hParts]
    exact Path.isName_of_mem_parts hMem fun hEq => hUp (hEq ▸ hMem)
  rw [isThere, Bool.and_eq_false_iff]
  right
  rw [← Bool.not_eq_true, names_isDirectory_iff]
  rintro ⟨-, r, hReach⟩
  exact hFresh.not_reach_child (Path.isAbsolute_of_parent? hParent)
    hLast hParts r hReach

/- What is missing is not there. -/
theorem isThere_eq_false_of_isNotFound
    {fault : IoFault}
    (hMissing : fault.isNotFound = true) :
    fs.isThere dir p fault = false := by
  have hNe : fault ≠ .system .alreadyExists := by
    rintro rfl
    contradiction
  simp [isThere, hNe]

/- So a second attempt fails like one that found it missing. -/
theorem ensureDir_of_missing
    {fault : IoFault}
    (hMake : fs.makeDir dir p = .error fault)
    (hMissing : fault.isNotFound = true) :
    fs.ensureDir dir p = (.error fault, fs) := by
  rw [ensureDir, hMake]
  simp [isThere_eq_false_of_isNotFound hMissing]

/-
  Where a directory and its ancestors are made, it was there
  before, or it is the last that is made.
-/
theorem last_of_makeDirsOn
    (hFs : fs.WellFormed)
    (hUp : ".." ∉ p.parts)
    (more : Nat)
    (hPaths : p.ancestorsWithin more ≠ [])
    (hOk :
      fs.makeDirsOn dir (p.ancestorsWithin more) = (.ok (), fs')) :
    (fs' = fs ∧ fs.names dir Node.isDirectory p = true) ∨
      ∃ most,
        most.WellFormed ∧
          Grown dir (p.ancestorsWithin more) fs most ∧
            most.makeDir dir p = .ok fs' := by
  induction more generalizing p fs' with
  | zero => exact absurd rfl hPaths
  | succ more ih =>
      rcases Path.ancestorsWithin_succ more p with
        hNil | ⟨rest, hRest, hTail⟩
      · exact absurd hNil hPaths
      rw [hRest, makeDirsOn] at hOk
      cases hMake : fs.makeDir dir p with
      | ok fs'' =>
          rw [hMake, Prod.mk.injEq] at hOk
          rw [← hOk.2]
          exact Or.inr ⟨fs, hFs, Grown.refl dir _ fs, hMake⟩
      | error fault =>
          rw [hMake] at hOk
          simp only at hOk
          split_ifs at hOk with hMissing hThere
          · -- A second attempt on the same files fails as the first.
            have hSame :
                fs.ensureDir dir p ≠ (.ok (), fs') := by
              simp [ensureDir_of_missing hMake hMissing]
            rcases hTail with rfl | ⟨parent, hParent, hNe, rfl⟩
            · exact absurd hOk hSame
            by_cases hNone : parent.ancestorsWithin more = []
            · rw [hNone] at hOk
              exact absurd hOk hSame
            rcases hMade :
                fs.makeDirsOn dir (parent.ancestorsWithin more) with
              ⟨fault' | _, fs''⟩
            · rw [hMade] at hOk
              simp at hOk
            rw [hMade] at hOk
            simp only at hOk
            obtain ⟨last, hParts⟩ : ∃ last,
                p.parts = parent.parts ++ [last] := by
              rcases Path.parts_of_parent? hParent with
                hLast | ⟨-, hEmpty⟩
              · exact hLast
              · exact absurd hEmpty hNe
            have hUpParent : ".." ∉ parent.parts :=
              fun h => hUp (by simp [hParts, h])
            rcases ih hUpParent hNone hMade with
              ⟨rfl, -⟩ | ⟨most, hMost, hGrown, hParentMade⟩
            · exact absurd hOk hSame
            have hFresh := fresh_of_makeDir hMost hGrown hParentMade
            have hFs'' : fs''.WellFormed :=
              WellFormed.create hMost hParentMade
            rw [ensureDir] at hOk
            cases hAgain : fs''.makeDir dir p with
            | ok files =>
                rw [hAgain, Prod.mk.injEq] at hOk
                rw [← hOk.2]
                refine Or.inr ⟨fs'', hFs'', ?_, hAgain⟩
                have hAll := grown_makeDirsOn fs dir
                  (parent.ancestorsWithin more)
                rw [hMade] at hAll
                rw [hRest]
                exact hAll.mono (List.subset_cons_self _ _)
            | error fault' =>
                rw [hAgain] at hOk
                simp [hFresh.isThere_eq_false hParent hUp hParts]
                  at hOk
          · rw [Prod.mk.injEq] at hOk
            exact Or.inl ⟨hOk.2.symm,
              (Bool.and_eq_true_iff.mp hThere).2⟩
          · simp at hOk

/- So nothing has changed, or the directory is new. -/
theorem eq_or_fresh_of_makeDirsOn
    (hFs : fs.WellFormed)
    (hUp : ".." ∉ p.parts)
    (more : Nat)
    (hOk :
      fs.makeDirsOn dir (p.ancestorsWithin more) = (.ok (), fs')) :
    fs' = fs ∨ Fresh dir p fs fs' := by
  by_cases hNone : p.ancestorsWithin more = []
  · rw [hNone, makeDirsOn, Prod.mk.injEq] at hOk
    exact Or.inl hOk.2.symm
  · rcases last_of_makeDirsOn hFs hUp more hNone hOk with
      ⟨hSame, -⟩ | ⟨most, hMost, hGrown, hMake⟩
    · exact Or.inl hSame
    · exact Or.inr (fresh_of_makeDir hMost hGrown hMake)

end FileSystem

end PluginStudio

------------------------------------------------------------
-- Where Directories Are Made
------------------------------------------------------------

namespace PluginStudio

namespace FileSystem

variable {fs fs' : FileSystem} {dir : Place} {p : Path}

/- The entry of a path is in the directory of its parent. -/
theorem Entry.reach_parent
    {place : Place}
    {name : String}
    (hEntry : fs.Entry dir p place name)
    {parent : Path}
    (hStart : parent.isAbsolute = p.isAbsolute)
    {last : String}
    (hParts : p.parts = parent.parts ++ [last]) :
    ∃ links, fs.reach dir parent = .ok (place, links) := by
  rcases hEntry.way with ⟨ns, links, hNames, hAdvance⟩
  have hInit : parent.parts = ns.filter fun n => n ≠ "." := by
    rw [Path.parts, hNames, List.filter_append] at hParts
    simp only [ne_eq, decide_not, List.filter_cons,
      hEntry.isName.2.1, decide_false, Bool.not_false, if_true,
      List.filter_nil] at hParts
    simpa using (List.append_inj' hParts rfl).1.symm
  refine ⟨links, ?_⟩
  rw [reach_eq_parts, hInit, startOf, hStart, ← startOf,
    advance_filter, List.filter_filter]
  rw [advance_filter] at hAdvance
  rw [← hAdvance]
  congr 1
  apply List.filter_congr
  intro n _
  by_cases hDot : n = "." <;> simp [Path.isVoid, hDot]

theorem Entry.isHome
    {place : Place}
    {name : String}
    (hEntry : fs.Entry dir p place name) :
    fs.IsHome dir p place := by
  rcases hEntry.way with ⟨ns, -, hNames, -⟩
  have hMem : name ∈ p.parts := by
    rw [Path.parts, hNames]
    simp [hEntry.isName.2.1]
  rcases Path.exists_parent?_of_parts (List.ne_nil_of_mem hMem) with
    ⟨parent, hParent⟩
  rcases Path.parts_of_parent? hParent with ⟨last, hLast⟩ | ⟨hNil, -⟩
  · rcases hEntry.reach_parent (Path.isAbsolute_of_parent? hParent)
      hLast with ⟨links, hReach⟩
    exact ⟨parent, links, hParent, hReach⟩
  · rw [hNil] at hMem
    contradiction

/-
  Steps that change nothing outside of some places, and make a
  path lead to one of them if they have made it.
-/
structure Enters
    (Inside : Place → Prop)
    (dir : Place)
    (p : Path)
    (before : FileSystem)
    (made : Steps Unit) : Prop where
  outside : ∀ q, ¬ Inside q → made.2.node? q = before.node? q
  leads :
    made.1 = .ok () →
      made.2 = before ∨
        ∃ place links,
          made.2.reach dir p = .ok (place, links) ∧ Inside place

variable {Inside : Place → Prop}

theorem Enters.refl
    (result : Except IoFault Unit) :
    Enters Inside dir p fs (result, fs) :=
  ⟨fun _ _ => rfl, fun _ => Or.inl rfl⟩

/- A new directory is inside, if the free name is. -/
theorem enters_of_makeDir
    {before : FileSystem}
    (hOutside : ∀ q, ¬ Inside q → fs.node? q = before.node? q)
    (hFree :
      ∀ place name, fs.Entry dir p place name →
        fs.node? (place ++ [name]) = none → Inside (place ++ [name]))
    (hMake : fs.makeDir dir p = .ok fs') :
    Enters Inside dir p before (.ok (), fs') := by
  rcases create_ok hMake with
    ⟨place, name, hEntry, hLong, hNone, rfl⟩
  have hInside := hFree place name hEntry hNone
  constructor
  · intro q hOut
    simp only
    rw [node?_put_snoc, if_neg, hOutside q hOut]
    rintro rfl
    exact hOut hInside
  · intro _
    have hNew := fs.node?_put_snoc place name (.directory dirMode)
      (place ++ [name])
    rw [if_pos rfl] at hNew
    have hKeeps := Keeps.put_free (.directory dirMode) hNone
    rcases (hEntry.of_keeps hKeeps).reach hLong hNew with
      ⟨links, hReach⟩
    exact Or.inr ⟨_, links, hReach, hInside⟩

/-
  All directories that are made on the way to one are inside, if
  the free names on that way are.
-/
theorem enters_makeDirsOn
    (hDown : ∀ place name, Inside place → Inside (place ++ [name]))
    (hFs : fs.WellFormed)
    (hUp : ".." ∉ p.parts)
    (more : Nat)
    (hFree :
      ∀ a ∈ p.ancestorsWithin more, ∀ place name,
        fs.Entry dir a place name →
          fs.node? (place ++ [name]) = none →
            Inside (place ++ [name])) :
    Enters Inside dir p fs
      (fs.makeDirsOn dir (p.ancestorsWithin more)) := by
  induction more generalizing p with
  | zero => exact .refl _
  | succ more ih =>
      rcases Path.ancestorsWithin_succ more p with
        hNil | ⟨rest, hRest, hTail⟩
      · rw [hNil]
        exact .refl _
      rw [hRest] at hFree ⊢
      rw [makeDirsOn]
      rcases List.forall_mem_cons.mp hFree with ⟨hFirst, hFree⟩
      cases hMake : fs.makeDir dir p with
      | ok files =>
          exact enters_of_makeDir (fun _ _ => rfl) hFirst hMake
      | error fault =>
          simp only
          split_ifs with hMissing hThere
          · have hAgain := ensureDir_of_missing hMake hMissing
            rcases hTail with rfl | ⟨parent, hParent, hNe, rfl⟩
            · simp only [makeDirsOn, hAgain]
              exact .refl _
            have hStart := Path.isAbsolute_of_parent? hParent
            have hLast := Path.parts_of_parent? hParent
            simp only [hNe, and_false, or_false] at hLast
            rcases hLast with ⟨last, hParts⟩
            have hUpParent : ".." ∉ parent.parts :=
              fun h => hUp (by simp [hParts, h])
            have hMost := ih hUpParent hFree
            rcases hMade :
                fs.makeDirsOn dir (parent.ancestorsWithin more) with
              ⟨fault' | _, most⟩
            · rw [hMade] at hMost
              exact ⟨hMost.outside, by simp⟩
            rw [hMade] at hMost
            simp only
            rcases eq_or_fresh_of_makeDirsOn hFs hUpParent more
                hMade with hSame | hFresh
            · rw [hSame, hAgain]
              exact .refl _
            rcases hMost.leads rfl with
              hSame | ⟨place, links, hReach, hInside⟩
            · exact absurd hSame hFresh.ne
            rw [ensureDir]
            cases hSecond : most.makeDir dir p with
            | ok files =>
                apply enters_of_makeDir hMost.outside _ hSecond
                intro q name hEntry _
                rcases hEntry.reach_parent hStart hParts with
                  ⟨links', hReach'⟩
                rw [hReach, Except.ok.injEq, Prod.mk.injEq] at hReach'
                rw [← hReach'.1]
                exact hDown place name hInside
            | error fault' =>
                simp only [hFresh.isThere_eq_false hParent hUp hParts]
                exact ⟨hMost.outside, by simp⟩
          · exact .refl _
          · exact .refl _

end FileSystem

end PluginStudio
