import PluginStudio.Proofs.Project.Tree
import PluginStudio.Proofs.Studio

/-
  What is left of the previous occupant of a project's place.

  Key definitions include:
    * `PluginStudio.Project.cleared`
    * `PluginStudio.FileSystem.Clears`

  Main declarations:
    * `Project.reconcile_files`, `Project.clears_cleared`
    * `FileSystem.Clears.node?`
    * `FileSystem.Clears.not_directory`
    * `Project.entry_beside`, `Project.entry_asidePath`

  Once the place of a project is cleared, its path leads to no
  directory.  Only what stood there has changed, and the one
  entry beside it under which it may be kept.
-/

------------------------------------------------------------
-- Clearing Files
------------------------------------------------------------

namespace PluginStudio

namespace Project

/- The files after a place is cleared at a time. -/
def cleared
    (fs : FileSystem)
    (dir : Place)
    (root : Path)
    (millis : Nat) : FileSystem :=
  if fs.pathExists dir root then
    match fs.removeTree dir root with
    | (.ok (), fs') => fs'
    | (.error _, fs') =>
      (fs'.step (fs'.rename dir root (asidePath root millis))).2
  else
    fs

/- Clearing works on the files, and takes a little time. -/
theorem reconcile_files
    (root : Path)
    (world : World) :
    (reconcile .standard root world).2.files =
        cleared world.files world.dir root world.clock ∧
      (reconcile .standard root world).2.dir = world.dir := by
  rw [reconcile, Studio.bind_apply, Studio.inspect_apply, cleared]
  simp only
  cases world.files.pathExists world.dir root with
  | false => exact ⟨rfl, rfl⟩
  | true =>
      simp only [if_true, Studio.bind_apply, Clearing.standard,
        Studio.onFile, Studio.onFiles_apply]
      rcases world.files.removeTree world.dir root with
        ⟨fault | _, files⟩
      · simp only [Studio.bind_apply, Studio.now_apply,
          Studio.report_apply, Studio.onFiles_apply, FileSystem.step]
        cases files.rename world.dir root
          (asidePath root world.clock) <;> exact ⟨rfl, rfl⟩
      · exact ⟨rfl, rfl⟩

end Project

end PluginStudio

------------------------------------------------------------
-- Ways To Clear
------------------------------------------------------------

namespace PluginStudio

namespace FileSystem

/- A path is the entry of something. -/
structure Occupied
    (fs : FileSystem)
    (dir : Place)
    (p : Path)
    (place : Place)
    (name : String)
    (node : Node) : Prop where
  entry : fs.Entry dir p place name
  long : name.length ≤ Path.longestName
  node : fs.node? (place ++ [name]) = some node

/-
  What clearing a place can do: nothing, as there is no directory
  to clear or no way to rename what is there; unlink a link;
  remove a directory, or all in it if the way to it is lost with
  what it held; or move a file to another path.
-/
inductive Clears
    (fs : FileSystem)
    (dir : Place)
    (root aside : Path) : FileSystem → Prop where
  | untouched
      (hNone : fs.names dir Node.isDirectory root = false) :
      Clears fs dir root aside fs
  | unlinked
      {place : Place} {name : String} {target : Path}
      (hHere : fs.Occupied dir root place name (.link target)) :
      Clears fs dir root aside (fs.erase (place ++ [name]))
  | emptied
      {place : Place} {name : String} {mode : Nat}
      (hHere : fs.Occupied dir root place name (.directory mode))
      (hLost :
        ∀ q n,
          ¬ (fs.eraseBelow (place ++ [name])).Entry dir root q n) :
      Clears fs dir root aside (fs.eraseBelow (place ++ [name]))
  | removed
      {place : Place} {name : String} {mode : Nat}
      (hHere : fs.Occupied dir root place name (.directory mode)) :
      Clears fs dir root aside
        ((fs.eraseBelow (place ++ [name])).erase (place ++ [name]))
  | renamed
      {place place' : Place} {name name' : String} {node : Node}
      (hHere : fs.Occupied dir root place name node)
      (hLeaf : node.isDirectory = false)
      (hLink : ∀ target, node ≠ .link target)
      (hAside : fs.Entry dir aside place' name')
      (hApart : ¬ place ++ [name] <+: place' ++ [name'])
      (hFree : fs.replaceable node (place' ++ [name']) = .ok ()) :
      Clears fs dir root aside
        ((fs.erase (place' ++ [name'])).move (place ++ [name])
          (place' ++ [name']))

variable {fs : FileSystem} {dir : Place} {root aside : Path}

/- No more directories and links than there were. -/
theorem keeps_eraseBelow
    (fs : FileSystem)
    (place : Place) :
    fs.Keeps (fs.eraseBelow place) := by
  intro q node hNode _
  rw [node?_eraseBelow] at hNode
  split_ifs at hNode
  exact hNode

theorem hasChildren_eraseBelow
    (fs : FileSystem)
    (place : Place) :
    (fs.eraseBelow place).hasChildren place = false := by
  simp only [hasChildren, eraseBelow, List.any_filter]
  rw [List.any_eq_false]
  intro entry _
  cases entry.1.below place <;> simp

theorem Occupied.stat
    {place : Place}
    {name : String}
    {node : Node}
    (hHere : fs.Occupied dir root place name node)
    (hSlash : root.endsWithSlash = false) :
    fs.stat dir false root = .ok (place ++ [name], node) := by
  rw [hHere.entry.stat hSlash (Or.inl rfl),
    if_neg (Nat.not_lt.mpr hHere.long), hHere.node]

/- A link is removed by itself, wherever it leads. -/
theorem Occupied.removeTree_link
    {place : Place}
    {name : String}
    {target : Path}
    (hHere : fs.Occupied dir root place name (.link target))
    (hSlash : root.endsWithSlash = false) :
    fs.removeTree dir root =
      (.ok (), fs.erase (place ++ [name])) := by
  rw [removeTree, hHere.stat hSlash]
  simp only [step, unlink_of_entry hHere.entry, hHere.node,
    Nat.not_lt.mpr hHere.long, hSlash, Node.isDirectory]
  rfl

/- With less on the way, a path leads to the same place. -/
theorem Entry.of_eraseBelow
    {place q : Place}
    {name n : String}
    (hEntry : fs.Entry dir root place name)
    (hOther :
      (fs.eraseBelow (place ++ [name])).Entry dir root q n) :
    q = place ∧ n = name :=
  hEntry.unique (hOther.of_keeps (fs.keeps_eraseBelow _))

/-
  An emptied directory that cannot be removed is no longer led
  to.
-/
private theorem lost_of_removeDir
    {place : Place}
    {name : String}
    {mode : Nat}
    (hHere : fs.Occupied dir root place name (.directory mode))
    {fault : IoFault}
    (hRemove :
      (fs.eraseBelow (place ++ [name])).removeDir dir root =
        .error fault)
    (q : Place)
    (n : String) :
    ¬ (fs.eraseBelow (place ++ [name])).Entry dir root q n := by
  intro hOther
  obtain ⟨rfl, rfl⟩ := hHere.entry.of_eraseBelow hOther
  have hStays :
      (fs.eraseBelow (q ++ [n])).node? (q ++ [n]) =
        some (.directory mode) := by
    rw [node?_eraseBelow, if_neg (by simp), hHere.node]
  rw [removeDir_of_entry hOther,
    if_neg (Nat.not_lt.mpr hHere.long), hStays] at hRemove
  simp [Node.isDirectory, hasChildren_eraseBelow] at hRemove

/- Nothing is renamed that is not found. -/
private theorem step_rename_of_lost
    (aside : Path)
    (hNone :
      ∀ place name node,
        ¬ fs.Occupied dir root place name node) :
    (fs.step (fs.rename dir root aside)).2 = fs := by
  cases hRename : fs.rename dir root aside with
  | error fault => rfl
  | ok fs' =>
      rcases rename_ok hRename with
        hSame | ⟨place, name, -, -, node, hEntry, hLong, -, hNode, -⟩
      · exact hSame
      · exact absurd ⟨hEntry, hLong, hNode⟩ (hNone place name node)

/- What is no directory and no link is renamed or stays. -/
private theorem clears_leaf
    {place : Place}
    {name : String}
    {node : Node}
    (hHere : fs.Occupied dir root place name node)
    (hLeaf : node.isDirectory = false)
    (hLink : ∀ target, node ≠ .link target) :
    fs.Clears dir root aside
      (fs.step (fs.rename dir root aside)).2 := by
  have hNone : fs.names dir Node.isDirectory root = false := by
    rw [← Bool.not_eq_true, names_isDirectory_iff]
    rintro ⟨-, r, hReach⟩
    obtain ⟨-, found, hFound, hWay⟩ :=
      hHere.entry.node?_of_reach hReach
    rw [hHere.node, Option.some.injEq] at hFound
    subst hFound
    rcases hWay with hDir | ⟨target, hTarget⟩
    · rw [hLeaf] at hDir
      contradiction
    · exact hLink target hTarget
  cases hRename : fs.rename dir root aside with
  | error fault => exact .untouched hNone
  | ok fs' =>
      rcases rename_ok hRename with
        rfl | ⟨q, n, place', name', found, hOther, -, hAside, hFound,
          hApart, hFree, rfl⟩
      · exact .untouched hNone
      · obtain ⟨rfl, rfl⟩ := hHere.entry.unique hOther
        rw [hHere.node, Option.some.injEq] at hFound
        subst hFound
        exact .renamed hHere hLeaf hLink hAside hApart hFree

end FileSystem

namespace Project

open FileSystem

/- Clearing is one of the ways to clear. -/
theorem clears_cleared
    (fs : FileSystem)
    (dir : Place)
    {root : Path}
    (hEnds : root.EndsInName)
    (millis : Nat) :
    fs.Clears dir root (asidePath root millis)
      (cleared fs dir root millis) := by
  rw [cleared]
  cases hExists : fs.pathExists dir root with
  | false =>
      rw [if_neg (by simp)]
      apply Clears.untouched
      rw [names]
      rw [pathExists] at hExists
      cases hStat : fs.stat dir true root with
      | error fault => rfl
      | ok found => simp [hStat, Except.isOk, Except.toBool] at hExists
  | true =>
      rw [if_pos rfl]
      rcases hStat : fs.stat dir false root with
        fault | ⟨q, node⟩
      · -- A path that leads anywhere has an entry to be found.
        obtain ⟨place, name, node, hEntry, hLong, hNode⟩ :=
          entry_of_pathExists hEnds hExists
        have hHere : fs.Occupied dir root place name node :=
          ⟨hEntry, hLong, hNode⟩
        rw [hHere.stat hEnds.1] at hStat
        contradiction
      · obtain ⟨place, name, hEntry, hLong, rfl, hNode⟩ :=
          entry_of_stat hEnds hStat
        have hHere : fs.Occupied dir root place name node :=
          ⟨hEntry, hLong, hNode⟩
        cases node with
        | link target =>
            rw [hHere.removeTree_link hEnds.1]
            exact .unlinked hHere
        | directory mode =>
            rw [removeTree, hStat]
            simp only
            cases hRemove :
                (fs.eraseBelow (place ++ [name])).removeDir dir
                  root with
            | ok files =>
                obtain ⟨q, n, hOther, -, rfl⟩ := removeDir_ok hRemove
                obtain ⟨rfl, rfl⟩ := hEntry.of_eraseBelow hOther
                exact .removed hHere
            | error fault =>
                have hLost :=
                  lost_of_removeDir hHere hRemove
                have hSame :=
                  step_rename_of_lost (asidePath root millis)
                    fun q n node hOther => hLost q n hOther.entry
                simp only
                split_ifs with hMissing
                · exact .emptied hHere hLost
                · simp only [hSame]
                  exact .emptied hHere hLost
        | _ =>
            rw [removeTree, hStat]
            exact clears_leaf hHere rfl (by simp)

end Project

end PluginStudio

------------------------------------------------------------
-- What Clearing Leaves
------------------------------------------------------------

namespace PluginStudio

namespace FileSystem

variable {fs fs' : FileSystem} {dir : Place} {root aside : Path}

/- A file gives way to a file, but no directory does. -/
theorem not_directory_of_replaceable
    {node : Node}
    {target : Place}
    {u : Unit}
    (hLeaf : node.isDirectory = false)
    (hOk : fs.replaceable node target = .ok u)
    (mode : Nat) :
    fs.node? target ≠ some (.directory mode) := by
  intro hDir
  rw [replaceable, hDir] at hOk
  simp only [hLeaf, Bool.false_eq_true, if_false] at hOk
  contradiction

namespace Clears

/-
  Clearing leaves each node as it was, unless it belongs to the
  occupant, which is gone, or has been replaced by the occupant.
-/
theorem node?
    (hClears : fs.Clears dir root aside fs')
    (hFs : fs.WellFormed)
    (q : Place) :
    fs'.node? q = fs.node? q ∨
      (∃ place name node,
        fs.Occupied dir root place name node ∧
          place ++ [name] <+: q ∧ fs'.node? q = none) ∨
        ∃ place name node place' name',
          fs.Occupied dir root place name node ∧
            node.isDirectory = false ∧
              (∀ target, node ≠ .link target) ∧
                fs.Entry dir aside place' name' ∧
                  q = place' ++ [name'] ∧
                    fs'.node? q = some node ∧
                      ∀ mode,
                        fs.node? q ≠ some (.directory mode) := by
  cases hClears with
  | untouched => exact Or.inl rfl
  | @unlinked place name target hHere =>
      rw [node?_erase _ (by simp)]
      split_ifs with hEq
      · exact Or.inr (Or.inl ⟨place, name, _, hHere,
          hEq ▸ List.prefix_refl _, rfl⟩)
      · exact Or.inl rfl
  | @emptied place name mode hHere hLost =>
      rw [node?_eraseBelow]
      split_ifs with hBelow
      · exact Or.inr (Or.inl ⟨place, name, _, hHere,
          ((Place.below_iff _ _).mp hBelow).1, rfl⟩)
      · exact Or.inl rfl
  | @removed place name mode hHere =>
      rw [node?_erase _ (by simp), node?_eraseBelow]
      split_ifs with hEq hBelow
      · exact Or.inr (Or.inl ⟨place, name, _, hHere,
          hEq ▸ List.prefix_refl _, rfl⟩)
      · exact Or.inr (Or.inl ⟨place, name, _, hHere,
          ((Place.below_iff _ _).mp hBelow).1, rfl⟩)
      · exact Or.inl rfl
  | @renamed place place' name name' node hHere hLeaf hLink hAside
      hApart hFree =>
      have hBelow := hFs.node?_eq_none_of_replaceable hFree
      rw [node?_move _ (by simp) (by simp)
        (hFs.node?_erase_of_replaceable hFree)]
      by_cases hIn : place' ++ [name'] <+: q
      · rw [if_pos (by simpa using hIn)]
        obtain ⟨rest, rfl⟩ := hIn
        rw [List.drop_left, node?_erase _ (by simp), if_neg]
        swap
        · intro hEq
          exact hApart (hEq ▸ List.prefix_append _ _)
        by_cases hRest : rest = []
        · subst hRest
          simp only [List.append_nil]
          exact Or.inr (Or.inr ⟨place, name, node, place', name',
            hHere, hLeaf, hLink, hAside, rfl, hHere.node,
            not_directory_of_replaceable hLeaf hFree⟩)
        · -- Nothing is below what is moved or replaced.
          left
          rw [hBelow _ ((Place.below_iff_exists _ _).mpr
            ⟨rest, hRest, rfl⟩)]
          refine hFs.node?_eq_none_of_prefix ?_
            (List.prefix_append _ _) (by simp [hRest])
          intro mode hMode
          rw [hHere.node, Option.some.injEq] at hMode
          simp [hMode, Node.isDirectory] at hLeaf
      · rw [if_neg (by simpa using hIn)]
        by_cases hOut : place ++ [name] <+: q
        · rw [if_pos (by simpa using hOut)]
          exact Or.inr (Or.inl ⟨place, name, node, hHere, hOut, rfl⟩)
        · rw [if_neg (by simpa using hOut),
            node?_erase _ (by simp), if_neg]
          · exact Or.inl rfl
          · rintro rfl
            exact hIn (List.prefix_refl _)

/- No way is opened by clearing. -/
theorem keeps
    (hClears : fs.Clears dir root aside fs')
    (hFs : fs.WellFormed) :
    fs.Keeps fs' := by
  intro q node hNode hWay
  rcases hClears.node? hFs q with
    hSame | ⟨-, -, -, -, -, hNone⟩ |
      ⟨-, -, found, -, -, -, hLeaf, hLink, -, -, hFound, -⟩
  · rw [← hSame, hNode]
  · rw [hNone] at hNode
    contradiction
  · rw [hFound, Option.some.injEq] at hNode
    subst hNode
    rcases hWay with hDir | ⟨target, hTarget⟩
    · rw [hLeaf] at hDir
      contradiction
    · exact absurd hTarget (hLink target)

/- The path of what was cleared leads to no directory. -/
theorem not_directory
    (hClears : fs.Clears dir root aside fs')
    (hFs : fs.WellFormed)
    (hEnds : root.EndsInName) :
    fs'.names dir Node.isDirectory root = false := by
  rw [← Bool.not_eq_true]
  intro hDir
  obtain ⟨hCheck, r, hReach⟩ := names_isDirectory_iff.mp hDir
  obtain ⟨place, name, hEntry⟩ := entry_of_reach hCheck hEnds hReach
  obtain ⟨-, node, hNode, hWay⟩ := hEntry.node?_of_reach hReach
  have hBefore := hEntry.of_keeps (hClears.keeps hFs)
  cases hClears with
  | untouched hNone =>
      rw [hNone] at hDir
      contradiction
  | unlinked hHere =>
      obtain ⟨rfl, rfl⟩ := hBefore.unique hHere.entry
      rw [node?_erase _ (by simp), if_pos rfl] at hNode
      contradiction
  | emptied hHere hLost => exact hLost place name hEntry
  | removed hHere =>
      obtain ⟨rfl, rfl⟩ := hBefore.unique hHere.entry
      rw [node?_erase _ (by simp), if_pos rfl] at hNode
      contradiction
  | renamed hHere hLeaf hLink hAside hApart hFree =>
      obtain ⟨rfl, rfl⟩ := hBefore.unique hHere.entry
      have hFound := (Clears.keeps (.renamed hHere hLeaf hLink hAside
        hApart hFree) hFs) hNode hWay
      rw [hHere.node, Option.some.injEq] at hFound
      subst hFound
      rcases hWay with hIsDir | ⟨target, hTarget⟩
      · rw [hLeaf] at hIsDir
        contradiction
      · exact hLink target hTarget

end Clears

end FileSystem

namespace Project

open FileSystem

theorem wellFormed_cleared
    {fs : FileSystem}
    (hFs : fs.WellFormed)
    (dir : Place)
    (root : Path)
    (millis : Nat) :
    (cleared fs dir root millis).WellFormed := by
  rw [cleared]
  split_ifs
  · have hTree := hFs.removeTree dir root
    rcases hRemoved : fs.removeTree dir root with ⟨fault | _, fs'⟩
    · rw [hRemoved] at hTree
      simp only
      cases hRename :
          fs'.rename dir root (asidePath root millis) with
      | error fault => exact hTree
      | ok files => exact WellFormed.rename hTree hRename
    · rw [hRemoved] at hTree
      exact hTree
  · exact hFs

end Project

end PluginStudio

------------------------------------------------------------
-- The Name Aside
------------------------------------------------------------

namespace PluginStudio

namespace Project

open FileSystem

/- A text that is marked as stale is a name, if it has no slash. -/
theorem isName_stale
    {text : String}
    (hSlash : '/' ∉ text.toList)
    (millis : Nat) :
    Path.IsName (Path.ofText (text ++ ".stale-" ++ toString millis)) := by
  apply Path.isName_ofText
  have hDigits : '/' ∉ (toString millis).toList := by
    intro hMem
    rw [Nat.toString_eq_repr, Nat.toList_repr] at hMem
    have := Nat.isDigit_of_mem_toDigits (by decide) (by decide) hMem
    contradiction
  apply Path.isName_of_length
  · have : ".stale-".length = 7 := by decide
    simp only [String.length_append]
    omega
  · simp only [String.toList_append, List.mem_append, not_or]
    exact ⟨⟨hSlash, by decide⟩, hDigits⟩

/- The name under which what has a name is kept at a time. -/
def keptName
    (name : String)
    (millis : Nat) : String :=
  Path.ofText (Path.display name ++ ".stale-" ++ toString millis)

/- It has an entry in the same directory, if it is a name. -/
theorem entry_beside
    {fs : FileSystem}
    {start home : Place}
    {root : Path}
    {name : String}
    {millis : Nat}
    (hHere : fs.Entry start root home name)
    (hKept : Path.IsName (keptName name millis))
    (hCheck : (asidePath root millis).check = .ok ()) :
    fs.Entry start (asidePath root millis) home
      (keptName name millis) := by
  rcases hHere.isHome with ⟨parent, links, hParent, hReach⟩
  have hPath :
      asidePath root millis = parent.join (keptName name millis) := by
    simp only [asidePath, Path.withFileName, hHere.fileName?_eq,
      hParent, keptName, Option.isSome_some, Option.getD_some, if_true]
  rw [hPath] at hCheck ⊢
  exact entry_join hKept hCheck hReach

/- The name under which the occupant is kept in the workspace. -/
def asideName
    (request : Request)
    (millis : Nat) : String :=
  Path.ofText (request.pluginName ++ ".stale-" ++ toString millis)

theorem isName_asideName
    {request : Request}
    (hNamed : request.Named)
    (millis : Nat) :
    Path.IsName (asideName request millis) :=
  isName_stale hNamed.1.2.2.2 millis

/- The occupant is kept beside the project. -/
theorem asidePath_dir
    (workspace : Path)
    {request : Request}
    (hNamed : request.Named)
    (millis : Nat) :
    ∃ parent : Path,
      parent.parts = workspace.parts ∧
        parent.isAbsolute = workspace.isAbsolute ∧
          asidePath (dir workspace request) millis =
            parent.join (asideName request millis) := by
  have hName := isName_entryName hNamed
  have hFile :
      (dir workspace request).fileName? =
        some (entryName request) :=
    Path.fileName?_join workspace hName
  obtain ⟨parent, hParent⟩ :
      ∃ parent, (dir workspace request).parent? = some parent :=
    Path.exists_parent?_join workspace hName
  refine ⟨parent, ?_, ?_, ?_⟩
  · rcases Path.parts_of_parent? hParent with
      ⟨last, hLast⟩ | ⟨hNil, -⟩
    · rw [parts_dir workspace hNamed] at hLast
      exact (List.append_inj' hLast rfl).1.symm
    · rw [parts_dir workspace hNamed] at hNil
      simp at hNil
  · rw [Path.isAbsolute_of_parent? hParent,
      isAbsolute_dir workspace hNamed]
  · rw [asidePath, hFile, Path.withFileName, hFile, hParent]
    simp [entryName, Path.display, Path.ofText, asideName]

/- So it has an entry in the same directory. -/
theorem entry_asidePath
    {fs : FileSystem}
    {start place : Place}
    {workspace : Path}
    {request : Request}
    {name : String}
    {millis : Nat}
    (hNamed : request.Named)
    (hHere : fs.Entry start (dir workspace request) place name)
    (hCheck :
      (asidePath (dir workspace request) millis).check = .ok ()) :
    fs.Entry start (asidePath (dir workspace request) millis) place
      (asideName request millis) := by
  have hName : name = entryName request := by
    have hLast := hHere.fileName?_eq
    rw [Path.fileName?_of_names (names_dir workspace hNamed)
      (isName_entryName hNamed), Option.some.injEq] at hLast
    exact hLast.symm
  have hSame : keptName name millis = asideName request millis := by
    simp [hName, keptName, asideName, entryName, Path.display,
      Path.ofText]
  rw [← hSame]
  refine entry_beside hHere ?_ hCheck
  rw [hSame]
  exact isName_asideName hNamed millis

theorem entry_aside
    {fs : FileSystem}
    {start place place' : Place}
    {workspace : Path}
    {request : Request}
    {name name' : String}
    {millis : Nat}
    (hNamed : request.Named)
    (hHere : fs.Entry start (dir workspace request) place name)
    (hAside :
      fs.Entry start (asidePath (dir workspace request) millis)
        place' name') :
    place' = place ∧ name' = asideName request millis :=
  (entry_asidePath hNamed hHere hAside.check).unique hAside

end Project

end PluginStudio
