import PluginStudio.Proofs.Project.FreshTree

/-
  What can stand in the way of a project.

  Key definitions include:
    * `PluginStudio.FileSystem.Takes`
    * `PluginStudio.FileSystem.GivesWay`
    * `PluginStudio.FileSystem.HoldsNothing`

  Main declarations:
    * `FileSystem.takes_iff`, `FileSystem.rename_beside`
    * `Project.node?_of_givesWay`
    * `Project.cleared_of_not_givesWay`
    * `Project.materialize_occupied`
    * `Project.materialize_blocked`

  A directory is removed and a link that leads somewhere is
  unlinked.  Anything else has to be moved aside, which needs a
  name that is short enough and not in use by a directory.  A link
  that leads nowhere is not noticed at all.
-/

------------------------------------------------------------
-- Giving Way
------------------------------------------------------------

namespace PluginStudio

namespace FileSystem

/-
  Can a file be moved to a path?  Nothing may stand there, or
  something else than a directory.
-/
def Takes
    (fs : FileSystem)
    (dir : Place)
    (p : Path) : Prop :=
  fs.stat dir false p = refuse .noEntry ∨
    ∃ place node,
      fs.stat dir false p = .ok (place, node) ∧
        node.isDirectory = false

instance
    (fs : FileSystem)
    (dir : Place)
    (p : Path) :
    Decidable (fs.Takes dir p) :=
  match hStat : fs.stat dir false p with
  | .error fault =>
    decidable_of_iff (fault = .system .noEntry) (by
      simp [Takes, hStat, refuse])
  | .ok (place, node) =>
    decidable_of_iff (node.isDirectory = false) (by
      simp [Takes, hStat, refuse])

/-
  Does what stands at a path give way?  A directory always does, a
  link if it leads somewhere, and anything else if there is a path
  that takes it.
-/
inductive GivesWay
    (fs : FileSystem)
    (dir : Place)
    (root aside : Path) : Prop where
  | absent
      {fault : IoFault}
      (hStat : fs.stat dir false root = .error fault) :
      GivesWay fs dir root aside
  | directory
      {place : Place} {mode : Nat}
      (hStat : fs.stat dir false root = .ok (place, .directory mode)) :
      GivesWay fs dir root aside
  | link
      {place : Place} {target : Path}
      (hStat : fs.stat dir false root = .ok (place, .link target))
      (hLive : fs.pathExists dir root = true) :
      GivesWay fs dir root aside
  | leaf
      {place : Place} {node : Node}
      (hStat : fs.stat dir false root = .ok (place, node))
      (hLeaf : node.isDirectory = false)
      (hLink : ∀ target, node ≠ .link target)
      (hTakes : fs.Takes dir aside) :
      GivesWay fs dir root aside

/- One kind of occupant at a time. -/
theorem givesWay_iff
    {fs : FileSystem}
    {dir place : Place}
    {root aside : Path}
    {node : Node}
    (hStat : fs.stat dir false root = .ok (place, node)) :
    fs.GivesWay dir root aside ↔
      match node with
      | .directory _ => True
      | .link _ => fs.pathExists dir root = true
      | _ => fs.Takes dir aside := by
  constructor
  · intro hGives
    cases hGives with
    | absent h => simp [hStat] at h
    | directory h =>
        rcases Prod.mk.inj (Except.ok.inj (hStat ▸ h)) with ⟨-, rfl⟩
        trivial
    | link h hLive =>
        rcases Prod.mk.inj (Except.ok.inj (hStat ▸ h)) with ⟨-, rfl⟩
        exact hLive
    | leaf h hLeaf hLink hTakes =>
        rcases Prod.mk.inj (Except.ok.inj (hStat ▸ h)) with ⟨-, rfl⟩
        cases node with
        | directory mode => trivial
        | link target => exact absurd rfl (hLink target)
        | _ => exact hTakes
  · intro hGives
    cases node with
    | directory mode => exact .directory hStat
    | link target => exact .link hStat hGives
    | _ => exact .leaf hStat rfl (by simp) hGives

instance
    (fs : FileSystem)
    (dir : Place)
    (root aside : Path) :
    Decidable (fs.GivesWay dir root aside) :=
  match hStat : fs.stat dir false root with
  | .error _ => isTrue (.absent hStat)
  | .ok (_, .directory _) => isTrue (.directory hStat)
  | .ok (_, .link _) => decidable_of_iff _ (givesWay_iff hStat).symm
  | .ok (_, .file _ _) => decidable_of_iff _ (givesWay_iff hStat).symm
  | .ok (_, .device _) => decidable_of_iff _ (givesWay_iff hStat).symm

/- A path to a directory with nothing in it. -/
def HoldsNothing
    (fs : FileSystem)
    (dir : Place)
    (p : Path) : Prop :=
  ∃ place mode,
    fs.stat dir true p = .ok (place, .directory mode) ∧
      fs.hasChildren place = false

end FileSystem

end PluginStudio

------------------------------------------------------------
-- Moving Aside
------------------------------------------------------------

namespace PluginStudio

namespace FileSystem

variable {fs : FileSystem} {dir place : Place} {source p : Path}
variable {name name' : String} {node : Node}

/- A path that takes a file is one that the system takes. -/
theorem check_of_takes
    (hNe : p ≠ "")
    (hTakes : fs.Takes dir p) :
    p.check = .ok () := by
  cases hCheck : p.check with
  | ok u => rfl
  | error fault =>
      have hStat : fs.stat dir false p = .error fault := by
        simp [stat, resolve, hCheck, bind, Except.bind]
      simp only [Takes, hStat, refuse, reduceCtorEq, false_and,
        exists_false, or_false, Except.error.injEq] at hTakes
      subst hTakes
      exact absurd (isNotFound_of_check hNe hCheck).1 (by decide)

theorem takes_iff
    (hEntry : fs.Entry dir p place name)
    (hSlash : p.endsWithSlash = false) :
    fs.Takes dir p ↔
      name.length ≤ Path.longestName ∧
        ∀ mode, fs.node? (place ++ [name]) ≠ some (.directory mode) := by
  rw [Takes, hEntry.stat hSlash (Or.inl rfl)]
  by_cases hLong : Path.longestName < name.length
  · simp [hLong, Nat.not_le.mpr hLong, refuse, Errno.nameTooLong,
      Errno.noEntry]
  · cases hNode : fs.node? (place ++ [name]) with
    | none => simp [hLong, refuse, Nat.not_lt.mp hLong]
    | some found =>
        cases found <;>
          simp [hLong, refuse, Nat.not_lt.mp hLong, Node.isDirectory]

/- A file takes the place of anything but a directory. -/
theorem replaceable_leaf_iff
    (hLeaf : node.isDirectory = false)
    (target : Place) :
    fs.replaceable node target = .ok () ↔
      ∀ mode, fs.node? target ≠ some (.directory mode) := by
  constructor
  · exact fun hOk => not_directory_of_replaceable hLeaf hOk
  · intro hNot
    rw [replaceable]
    cases hOld : fs.node? target with
    | none => rfl
    | some old =>
        cases old with
        | directory mode => exact absurd hOld (hNot mode)
        | _ =>
            simp only [hLeaf]
            rfl

/- To rename something within its directory. -/
theorem rename_beside
    (hHere : fs.Occupied dir source place name node)
    (hTarget : fs.Entry dir p place name')
    (hSlash : source.endsWithSlash = false)
    (hSlash' : p.endsWithSlash = false)
    (hNe : name' ≠ name) :
    fs.rename dir source p =
      if Path.longestName < name'.length then
        refuse .nameTooLong
      else
        (fs.replaceable node (place ++ [name'])).map fun _ =>
          (fs.erase (place ++ [name'])).move (place ++ [name])
            (place ++ [name']) := by
  have hApart :
      ∀ {n m : String}, n ≠ m → ¬ place ++ [n] <+: place ++ [m] := by
    intro n m hNe hPrefix
    rw [List.prefix_append_right_inj] at hPrefix
    exact hNe (by simpa using hPrefix)
  rw [rename_of_entry hHere.entry hTarget hHere.long, hHere.node]
  simp only [hSlash, hSlash', Bool.or_self, Bool.and_false,
    Bool.false_eq_true, if_false, List.append_cancel_left_eq,
    List.cons.injEq, and_true, hNe, Place.within_iff,
    hApart hNe, hApart hNe.symm]
  cases fs.replaceable node (place ++ [name']) <;> rfl

/- A directory is gone, as long as there is a way to it. -/
theorem Occupied.node?_of_directory
    {fs' : FileSystem}
    {root aside : Path}
    {mode : Nat}
    (hHere : fs.Occupied dir root place name (.directory mode))
    (hEntry : fs'.Entry dir root place name)
    (hClears : fs.Clears dir root aside fs') :
    fs'.node? (place ++ [name]) = none := by
  cases hClears with
  | untouched hNone =>
      rcases hHere.entry.reach hHere.long hHere.node with
        ⟨links, hReach⟩
      rw [names_isDirectory_iff.mpr ⟨hHere.entry.check, _, hReach⟩]
        at hNone
      contradiction
  | unlinked hOther =>
      rcases hHere.entry.unique hOther.entry with ⟨rfl, rfl⟩
      rw [node?_erase _ (by simp), if_pos rfl]
  | emptied hOther hLost => exact absurd hEntry (hLost _ _)
  | removed hOther =>
      rcases hHere.entry.unique hOther.entry with ⟨rfl, rfl⟩
      rw [node?_erase _ (by simp), if_pos rfl]
  | renamed hOther hLeaf =>
      rcases hHere.entry.unique hOther.entry with ⟨rfl, rfl⟩
      have hNode := hHere.node
      rw [hOther.node, Option.some.injEq] at hNode
      rw [hNode] at hLeaf
      contradiction

end FileSystem

namespace Project

open FileSystem

variable {fs : FileSystem} {start place : Place}
variable {name : String} {node : Node}
variable {workspace : Path} {request : Request}

theorem endsInName_asidePath
    (workspace : Path)
    (hNamed : request.Named)
    (millis : Nat) :
    (asidePath (dir workspace request) millis).EndsInName := by
  rcases asidePath_dir workspace hNamed millis with
    ⟨parent, -, -, hPath⟩
  rw [hPath]
  exact Path.endsInName_join parent (isName_asideName hNamed millis)

/- The entry of a project has the project's name. -/
theorem name_of_entry
    (hNamed : request.Named)
    (hEntry : fs.Entry start (dir workspace request) place name) :
    name = entryName request := by
  rcases hEntry.way with ⟨ns, links, hNames, -⟩
  rw [names_dir workspace hNamed] at hNames
  simpa using (List.append_inj' hNames rfl).2.symm

/- The name aside is longer than that of the project. -/
theorem asideName_ne
    (hNamed : request.Named)
    (hEntry : fs.Entry start (dir workspace request) place name)
    (millis : Nat) :
    asideName request millis ≠ name := by
  rw [name_of_entry hNamed hEntry]
  intro hEq
  have hLength := congrArg String.length hEq
  rw [asideName, entryName, Path.ofText_append, Path.ofText_append]
    at hLength
  have hStale : (Path.ofText ".stale-").length = 7 := by decide
  simp only [String.length_append] at hLength
  omega

end Project

end PluginStudio

------------------------------------------------------------
-- Clearing Each Kind Of Occupant
------------------------------------------------------------

namespace PluginStudio

namespace Project

open FileSystem

variable {fs : FileSystem} {start place : Place}
variable {name : String} {node : Node}
variable {workspace root : Path} {request : Request} {millis : Nat}

/- What is no directory and no link can only be renamed. -/
theorem cleared_leaf
    (hHere : fs.Occupied start root place name node)
    (hSlash : root.endsWithSlash = false)
    (hLeaf : node.isDirectory = false)
    (hLink : ∀ target, node ≠ .link target)
    (millis : Nat) :
    cleared fs start root millis =
      (fs.step (fs.rename start root (asidePath root millis))).2 := by
  have hExists : fs.pathExists start root = true := by
    rw [pathExists, hHere.entry.stat hSlash
        (.inr fun target h => hLink target
          (Option.some.inj (hHere.node ▸ h))),
      if_neg (Nat.not_lt.mpr hHere.long), hHere.node]
    rfl
  rw [cleared, if_pos hExists, removeTree, hHere.stat hSlash]
  cases node with
  | directory mode => simp [Node.isDirectory] at hLeaf
  | link target => exact absurd rfl (hLink target)
  | _ => rfl

/- An occupant is moved aside if the path there takes it. -/
theorem rename_of_takes
    (hNamed : request.Named)
    (hHere :
      fs.Occupied start (dir workspace request) place name node)
    (hLeaf : node.isDirectory = false)
    (hTakes :
      fs.Takes start (asidePath (dir workspace request) millis)) :
    fs.replaceable node (place ++ [asideName request millis]) =
        .ok () ∧
      fs.rename start (dir workspace request)
          (asidePath (dir workspace request) millis) =
        .ok
          ((fs.erase (place ++ [asideName request millis])).move
            (place ++ [name])
            (place ++ [asideName request millis])) := by
  have hEnds := endsInName_asidePath workspace hNamed millis
  have hAside := entry_asidePath hNamed hHere.entry
    (check_of_takes hEnds.ne_empty hTakes)
  rcases (takes_iff hAside hEnds.1).mp hTakes with ⟨hLong, hNot⟩
  have hFree := (replaceable_leaf_iff hLeaf _).mpr hNot
  refine ⟨hFree, ?_⟩
  rw [rename_beside hHere hAside (endsInName_dir workspace hNamed).1
      hEnds.1 (asideName_ne hNamed hHere.entry millis),
    if_neg (Nat.not_lt.mpr hLong), hFree, Except.map]

/- Otherwise it stays. -/
theorem rename_of_not_takes
    (hNamed : request.Named)
    (hHere :
      fs.Occupied start (dir workspace request) place name node)
    (hLeaf : node.isDirectory = false)
    (hNot :
      ¬ fs.Takes start (asidePath (dir workspace request) millis)) :
    ∃ fault,
      fs.rename start (dir workspace request)
          (asidePath (dir workspace request) millis) =
        .error fault := by
  cases hCheck : (asidePath (dir workspace request) millis).check with
  | error fault =>
      refine ⟨fault, ?_⟩
      rw [rename, hHere.entry.locate]
      simp [locate, hCheck, bind, Except.bind]
  | ok u =>
      have hAside := entry_asidePath hNamed hHere.entry hCheck
      have hEnds := endsInName_asidePath workspace hNamed millis
      simp only [takes_iff hAside hEnds.1, not_and, not_forall,
        not_not] at hNot
      rw [rename_beside hHere hAside (endsInName_dir workspace hNamed).1
        hEnds.1 (asideName_ne hNamed hHere.entry millis)]
      by_cases hLong :
          Path.longestName < (asideName request millis).length
      · exact ⟨_, if_pos hLong⟩
      · rw [if_neg hLong]
        cases hFree :
            fs.replaceable node
              (place ++ [asideName request millis]) with
        | error fault => exact ⟨fault, rfl⟩
        | ok u =>
            rcases hNot (Nat.not_lt.mp hLong) with ⟨mode, hDir⟩
            exact absurd hDir
              ((replaceable_leaf_iff hLeaf _).mp hFree mode)

/- The way to a project leads as before once it is cleared. -/
theorem entry_cleared
    (hFs : fs.WellFormed)
    (hNamed : request.Named)
    (hHere : fs.Entry start (dir workspace request) place name)
    (hStill :
      (cleared fs start (dir workspace request) millis).names start
        Node.isDirectory workspace = true) :
    (cleared fs start (dir workspace request) millis).Entry start
      (dir workspace request) place name := by
  have hEnds := endsInName_dir workspace hNamed
  have hKeeps :=
    (clears_cleared fs start hEnds millis).keeps hFs
  rcases names_isDirectory_iff.mp hStill with ⟨-, r, hReach⟩
  have hEntry := entry_dir hNamed hHere.check hReach
  rcases hHere.unique (hEntry.of_keeps hKeeps) with ⟨hPlace, hName⟩
  rw [hPlace, hName] at hEntry
  exact hEntry

/- What gives way is gone once its place is cleared. -/
theorem node?_of_givesWay
    (hFs : fs.WellFormed)
    (hNamed : request.Named)
    (hHere :
      fs.Occupied start (dir workspace request) place name node)
    (hStill :
      (cleared fs start (dir workspace request) millis).names start
        Node.isDirectory workspace = true)
    (hGives :
      fs.GivesWay start (dir workspace request)
        (asidePath (dir workspace request) millis)) :
    (cleared fs start (dir workspace request) millis).node?
      (place ++ [name]) = none := by
  have hEnds := endsInName_dir workspace hNamed
  have hMoved :
      node.isDirectory = false → (∀ target, node ≠ .link target) →
        fs.Takes start (asidePath (dir workspace request) millis) →
          (cleared fs start (dir workspace request) millis).node?
            (place ++ [name]) = none := by
    intro hLeaf hLink hTakes
    rcases rename_of_takes hNamed hHere hLeaf hTakes with
      ⟨hFree, hRename⟩
    have hApart :
        ¬ place ++ [asideName request millis] <+: place ++ [name] := by
      rw [List.prefix_append_right_inj]
      simpa using asideName_ne hNamed hHere.entry millis
    rw [cleared_leaf hHere hEnds.1 hLeaf hLink, hRename, step,
      node?_move _ (by simp) (by simp)
        (hFs.node?_erase_of_replaceable hFree),
      if_neg (by simpa using hApart), if_pos (by simp)]
  rw [givesWay_iff (hHere.stat hEnds.1)] at hGives
  cases node with
  | directory mode =>
      exact hHere.node?_of_directory
        (entry_cleared hFs hNamed hHere.entry hStill)
        (clears_cleared fs start hEnds millis)
  | link target =>
      rw [cleared, if_pos hGives, hHere.removeTree_link hEnds.1]
      exact (node?_erase _ (by simp) _).trans (if_pos rfl)
  | file mode content => exact hMoved rfl (by simp) hGives
  | device device => exact hMoved rfl (by simp) hGives

/- What does not stays where it is. -/
theorem cleared_of_not_givesWay
    (hNamed : request.Named)
    (hHere :
      fs.Occupied start (dir workspace request) place name node)
    (hNot :
      ¬ fs.GivesWay start (dir workspace request)
        (asidePath (dir workspace request) millis)) :
    cleared fs start (dir workspace request) millis = fs := by
  have hEnds := endsInName_dir workspace hNamed
  have hStays :
      node.isDirectory = false → (∀ target, node ≠ .link target) →
        ¬ fs.Takes start
            (asidePath (dir workspace request) millis) →
          cleared fs start (dir workspace request) millis = fs := by
    intro hLeaf hLink hNot
    rcases rename_of_not_takes hNamed hHere hLeaf hNot with
      ⟨fault, hRename⟩
    rw [cleared_leaf hHere hEnds.1 hLeaf hLink, hRename, step]
  rw [givesWay_iff (hHere.stat hEnds.1)] at hNot
  cases node with
  | directory mode => exact absurd trivial hNot
  | link target => rw [cleared, if_neg hNot]
  | file mode content => exact hStays rfl (by simp) hNot
  | device device => exact hStays rfl (by simp) hNot

end Project

end PluginStudio

------------------------------------------------------------
-- Laying Out Over An Occupant
------------------------------------------------------------

namespace PluginStudio

namespace Project

open FileSystem

variable {fs : FileSystem} {start : Place}
variable {workspace root : Path} {request : Request}
variable {world : World}

/- Where nothing stands, there is nothing to clear. -/
theorem cleared_of_absent
    (hEnds : root.EndsInName)
    {fault : IoFault}
    (hStat : fs.stat start false root = .error fault)
    (millis : Nat) :
    cleared fs start root millis = fs := by
  rw [cleared, if_neg]
  intro hExists
  rcases entry_of_pathExists hEnds hExists with
    ⟨place, name, node, hEntry, hLong, hNode⟩
  have hHere : fs.Occupied start root place name node :=
    ⟨hEntry, hLong, hNode⟩
  rw [hHere.stat hEnds.1] at hStat
  contradiction

/- A project is ready if its occupant gives way. -/
theorem ready_of_givesWay
    (hNamed : request.Named)
    (hFiles : world.files.WellFormed)
    (hStill :
      (reconcile .standard (dir workspace request)
        world).2.files.names world.dir Node.isDirectory
          workspace = true)
    (hGives :
      world.files.GivesWay world.dir (dir workspace request)
        (asidePath (dir workspace request) world.clock)) :
    Ready workspace request world := by
  have hEnds := endsInName_dir workspace hNamed
  rcases reconcile_files (dir workspace request) world with
    ⟨hClear, hDir⟩
  rw [hClear] at hStill
  rw [Ready, hClear, hDir]
  refine ⟨hStill, fun found hStat => ?_⟩
  cases hBefore :
      world.files.stat world.dir false (dir workspace request) with
  | error fault =>
      rw [cleared_of_absent hEnds hBefore, hBefore] at hStat
      exact absurd hStat (by simp)
  | ok here =>
      rcases entry_of_stat hEnds hBefore with
        ⟨place, name, hEntry, hLong, -, hNode⟩
      have hNow := entry_cleared hFiles hNamed hEntry hStill
      rw [hNow.stat hEnds.1 (Or.inl rfl),
        if_neg (Nat.not_lt.mpr hLong),
        node?_of_givesWay hFiles hNamed ⟨hEntry, hLong, hNode⟩ hStill
          hGives] at hStat
      exact absurd hStat (by simp [refuse])

/- In an empty workspace there is nothing to give way. -/
theorem ready_of_holdsNothing
    (hNamed : request.Named)
    (hFiles : world.files.WellFormed)
    (hEmpty : world.files.HoldsNothing world.dir workspace) :
    Ready workspace request world := by
  have hEnds := endsInName_dir workspace hNamed
  rcases hEmpty with ⟨place, mode, hStat, hNone⟩
  have hThere :
      world.files.names world.dir Node.isDirectory workspace =
        true := by
    rw [names, hStat]
    rfl
  have hAbsent :
      ∃ fault,
        world.files.stat world.dir false (dir workspace request) =
          .error fault := by
    cases hBefore :
        world.files.stat world.dir false (dir workspace request) with
    | error fault => exact ⟨fault, rfl⟩
    | ok here =>
        rcases entry_of_stat hEnds hBefore with
          ⟨q, name, hEntry, -, -, hNode⟩
        rcases names_isDirectory_iff.mp hThere with ⟨hCheck, -⟩
        rcases (stat_directory_iff hCheck place).mp ⟨mode, hStat⟩ with
          ⟨links, hReach⟩
        rw [place_of_entry hNamed hReach hEntry,
          world.files.node?_eq_none_of_not_hasChildren hNone
            (by simp)] at hNode
        simp at hNode
  rcases hAbsent with ⟨fault, hBefore⟩
  refine ready_of_givesWay hNamed hFiles ?_ (.absent hBefore)
  rw [(reconcile_files (dir workspace request) world).1,
    cleared_of_absent hEnds hBefore]
  exact hThere

/- What does not give way is in the way of the project's directory. -/
theorem materialize_of_not_givesWay
    (hNamed : request.Named)
    (hFiles : world.files.WellFormed)
    (hStill :
      (reconcile .standard (dir workspace request)
        world).2.files.names world.dir Node.isDirectory
          workspace = true)
    (hNot :
      ¬ world.files.GivesWay world.dir (dir workspace request)
        (asidePath (dir workspace request) world.clock)) :
    (materialize workspace request world).1 =
      .error (.createDir (dir workspace request)
        (.system .alreadyExists)) := by
  have hEnds := endsInName_dir workspace hNamed
  rcases reconcile_files (dir workspace request) world with
    ⟨hClear, hDir⟩
  cases hBefore :
      world.files.stat world.dir false (dir workspace request) with
  | error fault => exact absurd (.absent hBefore) hNot
  | ok here =>
      rcases entry_of_stat hEnds hBefore with
        ⟨place, name, hEntry, hLong, -, hNode⟩
      have hSame := cleared_of_not_givesWay hNamed
        ⟨hEntry, hLong, hNode⟩ hNot
      have hNone :=
        (clears_cleared world.files world.dir hEnds
          world.clock).not_directory hFiles hEnds
      rw [hClear, hSame] at hStill
      rw [hSame] at hNone
      rcases names_isDirectory_iff.mp hStill with
        ⟨-, ⟨q, links⟩, hReach⟩
      have hMake := makeDirs_dir hNamed hReach hNone
      rw [hEntry.check, ← place_of_entry hNamed hReach hEntry,
        ← name_of_entry hNamed hEntry] at hMake
      simp only [if_neg (Nat.not_lt.mpr hLong), hNode,
        Option.isSome_some, if_true, refuse] at hMake
      have hLaid :
          ∃ after,
            layOut (tree workspace request) request
                (reconcile .standard (tree workspace request).root
                  world).2 =
              (.error (.createDir (dir workspace request)
                (.system .alreadyExists)), after) := by
        rw [layOut_apply, root_eq, hClear, hDir, hSame, hMake]
        exact ⟨_, rfl⟩
      rcases hLaid with ⟨after, hLaid⟩
      exact (materialize_apply workspace request world hLaid).1

/-
  A request that is accepted in an empty workspace is accepted
  wherever what stands at the project's path gives way, and nowhere
  else.  The workspace has to be there still when that is gone.
-/
theorem materialize_occupied
    (hSafe : request.Safe)
    {fresh : World}
    (hFresh : fresh.files.WellFormed)
    (hEmpty : fresh.files.HoldsNothing fresh.dir workspace)
    {tree : Tree}
    (hAccepted : (materialize workspace request fresh).1 = .ok tree)
    {world : World}
    (hFiles : world.files.WellFormed)
    (hWorkspace :
      (reconcile .standard (dir workspace request)
        world).2.files.names world.dir Node.isDirectory
          workspace = true) :
    (materialize workspace request world).1 =
      if world.files.GivesWay world.dir (dir workspace request)
          (asidePath (dir workspace request) world.clock) then
        .ok tree
      else
        .error (.createDir (dir workspace request)
          (.system .alreadyExists)) := by
  have hNamed := hSafe.named
  rcases uniform_materialize workspace hSafe with
    ⟨contents, result, hRun⟩
  have hFirst :=
    hRun fresh ⟨hFresh, ready_of_holdsNothing hNamed hFresh hEmpty⟩
  split_ifs with hGives
  · have hReady :=
      ready_of_givesWay hNamed hFiles hWorkspace hGives
    rw [(hRun world ⟨hFiles, hReady⟩).1, ← hFirst.1, hAccepted]
  · exact materialize_of_not_givesWay hNamed hFiles hWorkspace hGives

/- A workspace with something in place of a project. -/
def occupied (node : Node) : World :=
  Coordinator.holding
    [(["b", "X"], node), (["b"], .directory dirMode)]

private theorem wellFormed_unused : unused.files.WellFormed :=
  .of_entries (by decide)

private theorem holdsNothing_unused :
    unused.files.HoldsNothing unused.dir "/b" :=
  ⟨["b"], dirMode, by decide +kernel, by decide⟩

private theorem safe_sample : (Coordinator.sample "X").Safe :=
  ⟨by decide, by decide, by decide⟩

/- A file makes way for a project. -/
theorem materialize_occupied_by_file :
    (Coordinator.sample "X").Safe ∧
      unused.files.WellFormed ∧
        unused.files.HoldsNothing unused.dir "/b" ∧
          (materialize "/b" (Coordinator.sample "X") unused).1 =
              .ok (tree "/b" (Coordinator.sample "X")) ∧
            (occupied (.file fileMode [])).files.WellFormed ∧
              (materialize "/b" (Coordinator.sample "X")
                  (occupied (.file fileMode []))).1 =
                .ok (tree "/b" (Coordinator.sample "X")) := by
  have hAccepted :
      (materialize "/b" (Coordinator.sample "X") unused).1 =
        .ok (tree "/b" (Coordinator.sample "X")) := by
    decide +kernel
  have hFiles : (occupied (.file fileMode [])).files.WellFormed :=
    .of_entries (by decide)
  refine ⟨safe_sample, wellFormed_unused, holdsNothing_unused,
    hAccepted, hFiles, ?_⟩
  rw [materialize_occupied safe_sample wellFormed_unused
      holdsNothing_unused hAccepted hFiles (by decide +kernel),
    if_pos (by decide +kernel)]

/-
  A request that is accepted in an empty workspace, and refused
  where something stands at the project's path.
-/
structure Blocked
    (workspace : Path)
    (fresh world : World) : Prop where
  empty :
    fresh.files.WellFormed ∧
      fresh.files.HoldsNothing fresh.dir workspace
  accepted :
    (materialize workspace (Coordinator.sample "X") fresh).1 =
      .ok (tree workspace (Coordinator.sample "X"))
  there :
    world.files.WellFormed ∧
      world.files.names world.dir Node.isDirectory workspace = true
  refused :
    (materialize workspace (Coordinator.sample "X") world).1 =
      .error
        (.createDir (dir workspace (Coordinator.sample "X"))
          (.system .alreadyExists))

/-
  In the way are a link that leads nowhere, a file where its other
  name is taken, and a directory that the way to the workspace
  leads through.
-/
theorem materialize_blocked :
    (Coordinator.sample "X").Safe ∧
      Blocked "/b" unused (occupied (.link "gone")) ∧
        Blocked "/b" unused
            (Coordinator.holding
              [(["b", "X"], .file fileMode []),
                (["b", "X.stale-0"], .directory dirMode),
                (["b"], .directory dirMode)]) ∧
          Blocked "/o/L/../../w"
            (Coordinator.holding
              [(["o", "L"], .directory dirMode),
                (["o"], .directory dirMode),
                (["w"], .directory dirMode)])
            (Coordinator.holding
              [(["b", "w", "X"], .directory dirMode),
                (["b", "w"], .directory dirMode),
                (["b"], .directory dirMode),
                (["o", "L"], .link "../b/w/X"),
                (["o"], .directory dirMode)]) := by
  have hUnused :
      unused.files.WellFormed ∧
        unused.files.HoldsNothing unused.dir "/b" :=
    ⟨wellFormed_unused, holdsNothing_unused⟩
  refine ⟨safe_sample, ⟨hUnused, ?_, ⟨.of_entries ?_, ?_⟩, ?_⟩,
    ⟨hUnused, ?_, ⟨.of_entries ?_, ?_⟩, ?_⟩,
    ⟨⟨.of_entries ?_, ["w"], dirMode, ?_, ?_⟩, ?_,
      ⟨.of_entries ?_, ?_⟩, ?_⟩⟩ <;>
    decide +kernel

end Project

end PluginStudio
