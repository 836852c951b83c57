import PluginStudio.Proofs.Build.Outcome
import PluginStudio.Proofs.Files.Ways
import PluginStudio.Proofs.Text.Validity

/-
  Clearing the place of a project by ways that may fail.

  Key definitions include:
    * `PluginStudio.Path.HoldsBytes`
    * `PluginStudio.FileSystem.Thins`
    * `PluginStudio.Project.Clearing.Honest`
    * `PluginStudio.Project.Clearing.Retries`
    * `PluginStudio.Project.Settled`

  Main declarations:
    * `Project.entry_keptPath`
    * `Project.honest_standard`
    * `Project.moved_of_retries`
    * `Project.reconcile_settled`

  Removing may fail when any part of the occupant is gone, and
  renaming may fail too.  Whatever happens, only the occupant and
  the one name beside it are touched, and unless both have failed
  the project's path finds nothing afterwards.
-/

------------------------------------------------------------
-- The Name Beside
------------------------------------------------------------

namespace PluginStudio

namespace Path

/- Is each character of the text one byte? -/
def HoldsBytes (p : Path) : Prop :=
  ∀ c ∈ p.toList, c.toNat < 0x100

instance (p : Path) : Decidable (HoldsBytes p) :=
  List.decidableBAll (fun c : Char => c.toNat < 0x100) p.toList

theorem HoldsBytes.of_mem_names
    {p : Path}
    (hBytes : p.HoldsBytes)
    {name : String}
    (hName : name ∈ p.names) :
    HoldsBytes name := by
  intro c hChar
  rcases List.mem_map.mp (List.mem_filter.mp hName).1 with
    ⟨part, hPart, rfl⟩
  rw [String.toList_ofList] at hChar
  exact hBytes c (mem_of_mem_splitOn hPart hChar)

/- No slash is shown where there is none. -/
theorem HoldsBytes.slash_notMem_display
    {p : Path}
    (hBytes : p.HoldsBytes)
    (hSlash : '/' ∉ p.toList) :
    '/' ∉ (display p).toList := by
  intro hMem
  rw [display, Octets.legible, String.toList_ofList] at hMem
  rcases Utf8.exists_mem_of_mem_legible (by decide) hMem with
    ⟨b, hByte, hSame⟩
  rcases List.mem_map.mp hByte with ⟨c, hChar, rfl⟩
  have hSelf : (UInt8.ofNat c.toNat).toNat = c.toNat :=
    UInt8.toNat_ofNat_of_lt' (hBytes c hChar)
  rw [hSelf, Char.ofNat_toNat] at hSame
  rw [hSame] at hChar
  exact hSlash hChar

end Path

namespace Project

open FileSystem

/- The name beside is longer, so that it is another. -/
theorem ne_keptName
    (name : String)
    (millis : Nat) :
    name ≠ keptName name millis := by
  intro hEq
  have hShown := congrArg Path.display hEq
  rw [keptName, Path.display, Path.display, Path.ofText,
    Octets.legible_ofString] at hShown
  have hLength := congrArg String.length hShown
  have hMark : ".stale-".length = 7 := by decide
  simp only [String.length_append] at hLength
  omega

/- What is kept has its entry beside the occupant's. -/
theorem entry_keptPath
    {fs : FileSystem}
    {dir home : Place}
    {root : Path}
    {name : String}
    {millis : Nat}
    (hBytes : root.HoldsBytes)
    (hHere : fs.Entry dir root home name)
    (hCheck : (asidePath root millis).check = .ok ()) :
    fs.Entry dir (asidePath root millis) home
      (keptName name millis) := by
  rcases hHere.way with ⟨ns, -, hNames, -⟩
  have hLast : Path.HoldsBytes name :=
    hBytes.of_mem_names (by simp [hNames])
  refine entry_beside hHere (isName_stale ?_ millis) hCheck
  exact hLast.slash_notMem_display hHere.isName.2.2.2

end Project

end PluginStudio

------------------------------------------------------------
-- Ways That May Fail
------------------------------------------------------------

namespace PluginStudio

namespace FileSystem

/-
  Part of what stood within a place is gone, perhaps all or none,
  and all else is as it was.
-/
structure Thins
    (fs : FileSystem)
    (place : Place)
    (fs' : FileSystem) : Prop where
  wellFormed : fs'.WellFormed
  node? :
    ∀ q,
      fs'.node? q = fs.node? q ∨
        place <+: q ∧ fs'.node? q = none

namespace Thins

variable {fs fs' : FileSystem} {place : Place}

theorem refl
    (hFs : fs.WellFormed)
    (place : Place) :
    fs.Thins place fs :=
  ⟨hFs, fun _ => Or.inl rfl⟩

theorem trans
    {fs'' : FileSystem}
    (hThins : fs.Thins place fs')
    (hMore : fs'.Thins place fs'') :
    fs.Thins place fs'' := by
  refine ⟨hMore.wellFormed, fun q => ?_⟩
  rcases hMore.node? q with hSame | hGone
  · rw [hSame]
    exact hThins.node? q
  · exact Or.inr hGone

theorem erase
    (hErased : (fs.erase place).WellFormed)
    (hPlace : place ≠ []) :
    fs.Thins place (fs.erase place) := by
  refine ⟨hErased, fun q => ?_⟩
  rw [node?_erase _ hPlace]
  split_ifs with hEq
  · exact Or.inr ⟨hEq ▸ List.prefix_refl _, rfl⟩
  · exact Or.inl rfl

theorem eraseBelow
    (hFs : fs.WellFormed)
    (place : Place) :
    fs.Thins place (fs.eraseBelow place) := by
  refine ⟨hFs.eraseBelow place, fun q => ?_⟩
  rw [node?_eraseBelow]
  split_ifs with hBelow
  · exact Or.inr ⟨((Place.below_iff _ _).mp hBelow).1, rfl⟩
  · exact Or.inl rfl

theorem includes
    (hThins : fs.Thins place fs') :
    fs.Includes fs' := by
  intro q node hNode
  rcases hThins.node? q with hSame | ⟨-, hNone⟩
  · rw [← hSame, hNode]
  · rw [hNone] at hNode
    contradiction

end Thins

end FileSystem

namespace Project

open FileSystem

/-
  What is asked of the ways to clear a place.  Removing deletes
  nothing but what the path finds without following a link in its
  last place.  It may fail with any part of that deleted, and when
  it succeeds the path does not lead there any more.  Renaming does
  what the file system does, or fails and changes nothing.
-/
structure Clearing.Honest (clearing : Clearing) : Prop where
  remove :
    ∀ p world place node,
      world.files.WellFormed →
        world.files.stat world.dir false p = .ok (place, node) →
          (clearing.remove p world).2.dir = world.dir ∧
            world.files.Thins place (clearing.remove p world).2.files ∧
              ((clearing.remove p world).1 = .ok () →
                ∀ found,
                  (clearing.remove p world).2.files.stat world.dir
                      false p ≠
                    .ok (place, found))
  rename :
    ∀ p q world,
      (clearing.rename p q world).2.dir = world.dir ∧
        match (clearing.rename p q world).1 with
        | .ok () =>
          world.files.rename world.dir p q =
            .ok (clearing.rename p q world).2.files
        | .error _ =>
          (clearing.rename p q world).2.files = world.files

end Project

namespace FileSystem

variable {fs fs' emptied : FileSystem} {dir place : Place} {p : Path}
variable {node : Node}

/- To unlink what a path finds is to delete it. -/
theorem thins_of_unlink
    (hFs : fs.WellFormed)
    (hStat : fs.stat dir false p = .ok (place, node))
    (hOk : fs.unlink dir p = .ok fs') :
    fs.Thins place fs' ∧ fs'.node? place = none := by
  rcases unlink_ok hOk with
    ⟨q, name, found, hEntry, hNode, hLeaf, rfl⟩
  have hSlash : p.endsWithSlash = false := by
    rw [unlink_of_entry hEntry, hNode] at hOk
    simp only at hOk
    split_ifs at hOk with hLong hDir hSlash
    · contradiction
    · contradiction
    · contradiction
    · simpa using hSlash
  rcases hEntry.of_stat hStat with ⟨seen, -, hHere⟩
  have hPlace := (Prod.mk.inj (hHere (Or.inl ⟨rfl, hSlash⟩))).1
  subst hPlace
  have hErased := hFs.erase_leaf (by simp) hNode hLeaf
  refine ⟨.erase hErased (by simp), ?_⟩
  rw [node?_erase _ (by simp), if_pos rfl]

/- To remove what a path finds, once it is empty, deletes it. -/
theorem thins_of_removeDir
    (hStat : fs.stat dir false p = .ok (place, node))
    (hThins : fs.Thins place emptied)
    (hOk : emptied.removeDir dir p = .ok fs') :
    fs.Thins place fs' ∧ fs'.node? place = none := by
  have hWell := hThins.wellFormed.removeDir hOk
  rcases removeDir_ok hOk with ⟨q, name, hEntry, -, rfl⟩
  have hDir :
      ∃ mode, emptied.node? (q ++ [name]) = some (.directory mode) := by
    rw [removeDir_of_entry hEntry] at hOk
    by_cases hLong : Path.longestName < name.length
    · rw [if_pos hLong] at hOk
      contradiction
    rw [if_neg hLong] at hOk
    cases hNode : emptied.node? (q ++ [name]) with
    | none =>
        rw [hNode] at hOk
        contradiction
    | some found =>
        rw [hNode] at hOk
        cases found with
        | directory mode => exact ⟨mode, rfl⟩
        | _ => contradiction
  rcases hDir with ⟨mode, hDir⟩
  have hBefore := hEntry.of_keeps hThins.includes.keeps
  rcases hBefore.of_stat hStat with ⟨found, hFound, hHere⟩
  rw [hThins.includes hDir, Option.some.injEq] at hFound
  subst hFound
  have hPlace := (Prod.mk.inj (hHere (Or.inr (by simp)))).1
  subst hPlace
  refine ⟨hThins.trans (.erase hWell (by simp)), ?_⟩
  rw [node?_erase _ (by simp), if_pos rfl]

/- An emptied directory that is not found has lost its way. -/
theorem stat_ne_ok_of_removeDir
    {fault : IoFault}
    (hRemove : fs.removeDir dir p = .error fault)
    (hMissing : fault.isNotFound = true)
    (hCheck : p.check = .ok ())
    {follow : Bool}
    (r : Place × Node) :
    fs.stat dir follow p ≠ .ok r := by
  intro hStat
  rcases List.eq_nil_or_concat p.names with
    hNames | ⟨ns, last, hNames⟩
  · rw [removeDir, locate, hCheck, hNames] at hRemove
    cases hRemove
    contradiction
  rw [List.concat_eq_append] at hNames
  rcases advance_of_stat hNames hStat with ⟨q, links, hAdvance⟩
  by_cases hDot : last = "."
  · rw [removeDir, locate_eq hCheck hNames, hAdvance] at hRemove
    simp only [bind, Except.bind, LastName.ofName, hDot, if_true] at hRemove
    cases hRemove
    contradiction
  by_cases hUp : last = ".."
  · rw [removeDir, locate_eq hCheck hNames, hAdvance] at hRemove
    simp only [bind, Except.bind, LastName.ofName, hUp] at hRemove
    cases hRemove
    contradiction
  have hMem : last ∈ p.names := by simp [hNames]
  have hEntry : fs.Entry dir p q last :=
    entry_of_advance hCheck hNames
      ⟨Path.ne_empty_of_mem_names hMem, hDot, hUp,
        Path.slash_notMem_of_mem_names hMem⟩
      hAdvance
  rcases hEntry.of_stat hStat with ⟨node, hNode, -⟩
  rw [removeDir_of_entry hEntry, hNode] at hRemove
  simp only at hRemove
  split_ifs at hRemove <;> cases hRemove <;> contradiction

/- A path does not lead to where nothing is. -/
theorem stat_ne_ok_of_absent
    (hGone : fs.node? place = none)
    (found : Node) :
    fs.stat dir false p ≠ .ok (place, found) := by
  intro hStat
  rw [node?_of_stat hStat] at hGone
  contradiction

/- Removing a tree deletes what the path finds, or part of it. -/
theorem thins_removeTree
    (hFs : fs.WellFormed)
    (hStat : fs.stat dir false p = .ok (place, node)) :
    fs.Thins place (fs.removeTree dir p).2 ∧
      ((fs.removeTree dir p).1 = .ok () →
        ∀ found,
          (fs.removeTree dir p).2.stat dir false p ≠
            .ok (place, found)) := by
  rw [removeTree, hStat]
  cases node with
  | link target =>
      cases hUnlink : fs.unlink dir p with
      | error fault =>
          simp only [step]
          exact ⟨.refl hFs place, fun hOk => by contradiction⟩
      | ok fs' =>
          rcases thins_of_unlink hFs hStat hUnlink with
            ⟨hThins, hGone⟩
          exact ⟨hThins, fun _ => stat_ne_ok_of_absent hGone⟩
  | directory mode =>
      have hEmptied := Thins.eraseBelow hFs place
      simp only
      cases hRemove : (fs.eraseBelow place).removeDir dir p with
      | ok fs' =>
          rcases thins_of_removeDir hStat hEmptied hRemove with
            ⟨hThins, hGone⟩
          exact ⟨hThins, fun _ => stat_ne_ok_of_absent hGone⟩
      | error fault =>
          simp only
          split_ifs with hMissing
          · have hCheck := (stat_eq_ok_iff.mp hStat).1
            exact ⟨hEmptied, fun _ found =>
              stat_ne_ok_of_removeDir hRemove hMissing hCheck _⟩
          · exact ⟨hEmptied, fun hOk => by contradiction⟩
  | _ => exact ⟨.refl hFs place, fun hOk => by contradiction⟩

end FileSystem

namespace Project

open FileSystem

/- What the file system offers is such a way to clear. -/
theorem honest_standard : Clearing.standard.Honest where
  remove p world place node hFs hStat :=
    ⟨rfl, thins_removeTree hFs hStat⟩
  rename p q world := by
    refine ⟨rfl, ?_⟩
    simp only [Clearing.standard, Studio.onFile, Studio.onFiles_apply]
    cases world.files.rename world.dir p q <;> rfl

end Project

end PluginStudio

------------------------------------------------------------
-- What Reconciling Comes To
------------------------------------------------------------

namespace PluginStudio

namespace Project

open FileSystem

/- The world once it is reported that an occupant is not removed. -/
def refused
    (root : Path)
    (fault : IoFault)
    (left : World) : World :=
  { left with
    clock := left.clock + 1
    journal := left.journal ++
      [⟨.project, .warn,
        "failed to remove previous project tree, renaming aside",
        [⟨"path", root.display, false⟩,
          ⟨"error", fault.message, false⟩,
          ⟨"aside", (asidePath root left.clock).display, false⟩]⟩] }

/-
  Something is there, removing it fails and leaves a world, and
  renaming it from there has an outcome.
-/
def Clearing.Retries
    (clearing : Clearing)
    (root : Path)
    (world left : World)
    (outcome : Except IoFault Unit)
    (done : World) : Prop :=
  world.files.pathExists world.dir root = true ∧
    ∃ fault,
      clearing.remove root world = (.error fault, left) ∧
        clearing.rename root (asidePath root left.clock)
            (refused root fault left) =
          (outcome, done)

/- Whether to remove, then whether to rename, and then a report. -/
theorem reconcile_apply
    (clearing : Clearing)
    (root : Path)
    (world : World) :
    reconcile clearing root world =
      if world.files.pathExists world.dir root then
        match clearing.remove root world with
        | (.ok (), left) =>
          Studio.report .project .debug
            "removed previous project tree"
            [⟨"path", root.display, false⟩] left
        | (.error fault, left) =>
          match clearing.rename root (asidePath root left.clock)
              (refused root fault left) with
          | (.ok (), done) => ((), done)
          | (.error fault, done) =>
            Studio.report .project .warn
              "failed to rename previous project tree"
              [⟨"path", root.display, false⟩,
                ⟨"error", fault.message, false⟩] done
      else
        ((), world) := by
  rw [reconcile, Studio.bind_apply, Studio.inspect_apply]
  simp only
  cases world.files.pathExists world.dir root with
  | false => rfl
  | true =>
      simp only [if_true, Studio.bind_apply]
      rcases clearing.remove root world with ⟨fault | _, left⟩
      · simp only [Studio.bind_apply, Studio.now_apply,
          Studio.report_apply]
        rcases hRename :
            clearing.rename root (asidePath root left.clock)
              (refused root fault left) with
          ⟨fault' | _, done⟩
        all_goals
          rw [refused] at hRename
          simp only [hRename]
          rfl
      · rfl

section Honest

variable {clearing : Clearing} {root : Path} {name : String}
variable {world left done : World} {outcome : Except IoFault Unit}

/- Renaming starts from what removing has left. -/
theorem Clearing.Honest.rename_of_retries
    (hClearing : clearing.Honest)
    (hRetries : clearing.Retries root world left outcome done) :
    done.dir = left.dir ∧
      (outcome = .ok () →
          left.files.rename left.dir root
              (asidePath root left.clock) =
            .ok done.files) ∧
        ∀ fault, outcome = .error fault → done.files = left.files := by
  rcases hRetries with ⟨-, fault, -, hRename⟩
  rcases hClearing.rename root (asidePath root left.clock)
    (refused root fault left) with ⟨hDir, hDone⟩
  rw [hRename] at hDir hDone
  refine ⟨hDir, ?_, ?_⟩
  · rintro rfl
    exact hDone
  · rintro fault' rfl
    exact hDone

/- What is known of the world that removing has left. -/
theorem Clearing.Honest.thins_of_retries
    (hClearing : clearing.Honest)
    (hFs : world.files.WellFormed)
    (hRetries : clearing.Retries root world left outcome done)
    {place : Place}
    {node : Node}
    (hStat : world.files.stat world.dir false root = .ok (place, node)) :
    left.dir = world.dir ∧ world.files.Thins place left.files := by
  rcases hRetries with ⟨-, fault, hRemove, -⟩
  have hLeft := hClearing.remove root world place node hFs hStat
  rw [hRemove] at hLeft
  exact ⟨hLeft.1, hLeft.2.1⟩

/-
  An occupant that is renamed is moved to the name beside it.  It
  is what the path found before anything was tried.
-/
theorem moved_of_retries
    (hClearing : clearing.Honest)
    (hBytes : root.HoldsBytes)
    (hName : root.fileName? = some name)
    (hFs : world.files.WellFormed)
    (hRetries : clearing.Retries root world left (.ok ()) done)
    {place : Place}
    {node : Node}
    (hStat : world.files.stat world.dir false root = .ok (place, node)) :
    ∃ home,
      place = home ++ [name] ∧
        world.files.IsHome world.dir root home ∧
          left.files.Entry left.dir root home name ∧
            left.files.Moved place
              (home ++ [keptName name left.clock]) done.files := by
  rcases hClearing.thins_of_retries hFs hRetries hStat with
    ⟨hDir, hThins⟩
  have hRename := (hClearing.rename_of_retries hRetries).2.1 rfl
  rcases rename_entries hRename with
    ⟨home, n, home', n', found, hSource, -, hTarget, hFound, hSlash, -⟩
  have hLast : n = name := by
    rw [hSource.fileName?_eq, Option.some.injEq] at hName
    exact hName
  subst hLast
  have hKept := entry_keptPath hBytes hSource hTarget.check
  -- Nothing was in the way that is not there now.
  have hBefore := hSource.of_keeps hThins.includes.keeps
  rw [hDir] at hBefore
  rcases hBefore.of_stat hStat with ⟨seen, hSeen, hHere⟩
  rw [hThins.includes hFound, Option.some.injEq] at hSeen
  subst hSeen
  have hPlace : place = home ++ [n] := by
    refine (Prod.mk.inj (hHere ?_)).1
    rcases hSlash with hFolder | hSlash
    · refine Or.inr fun target hLink => ?_
      rw [hLink] at hFolder
      contradiction
    · exact Or.inl ⟨rfl, hSlash⟩
  refine ⟨home, hPlace, hBefore.isHome, hSource, ?_⟩
  rw [hPlace]
  exact moved_of_rename hThins.wellFormed hSource hKept
    (ne_keptName n left.clock) hRename

end Honest

/-
  What is to be expected once the place of a project is cleared,
  of the world before and the world after.
-/
structure Settled
    (clearing : Clearing)
    (root : Path)
    (name : String)
    (world after : World) : Prop where
  /-
    Unless both ways have failed nothing is there, or else a link
    has taken the place of a link on the way to it.
  -/
  vacated :
    after.files.pathExists after.dir root = false ∨
      (∃ left fault done,
        clearing.Retries root world left (.error fault) done) ∨
        ∃ left done home node,
          clearing.Retries root world left (.ok ()) done ∧
            world.files.IsHome world.dir root home ∧
              world.files.stat world.dir false root =
                  .ok (home ++ [name], node) ∧
                left.files.Crossed left.dir root (home ++ [name])
                  (home ++ [keptName name left.clock])
  /-
    What the path finds without following a link in its last place
    stands under its last name, unless that is a link and something
    is written after it.
  -/
  stands :
    ∀ place node,
      world.files.stat world.dir false root = .ok (place, node) →
        ∃ home,
          world.files.IsHome world.dir root home ∧
            (place = home ++ [name] ∨
              ¬ root.EndsInName ∧
                ∃ target,
                  world.files.node? (home ++ [name]) =
                    some (.link target))
  /-
    All that is outside of it stays.  The name beside the last name
    is touched only where an occupant is renamed to it.
  -/
  outside :
    ∀ q,
      after.files.node? q = world.files.node? q ∨
        (∃ place node,
          world.files.stat world.dir false root = .ok (place, node) ∧
            place <+: q) ∨
          ∃ left done home,
            clearing.Retries root world left (.ok ()) done ∧
              world.files.IsHome world.dir root home ∧
                home ++ [keptName name left.clock] <+: q
  /- An occupant that is renamed is kept as removing has left it. -/
  kept :
    ∀ left done,
      clearing.Retries root world left (.ok ()) done →
        ∃ home node,
          world.files.IsHome world.dir root home ∧
            world.files.stat world.dir false root =
                .ok (home ++ [name], node) ∧
              ∀ rest,
                after.files.node?
                    (home ++ [keptName name left.clock] ++ rest) =
                  left.files.node? (home ++ [name] ++ rest)
  /- Renaming does not matter unless removing has failed. -/
  attempted :
    ∀ rename,
      (∀ fault left,
        world.files.pathExists world.dir root = true →
          clearing.remove root world = (.error fault, left) →
            rename root (asidePath root left.clock)
                (refused root fault left) =
              clearing.rename root (asidePath root left.clock)
                (refused root fault left)) →
        reconcile { clearing with rename := rename } root world =
          ((), after)
  /- Whether a project is laid out does not hang on clearing. -/
  proceeds :
    ∀ workspace request,
      (tree workspace request).root = root →
        (materializeWith clearing workspace request world).1 =
          (layOut (tree workspace request) request after).1.map
            fun _ => tree workspace request

section Settling

variable {clearing : Clearing} {root : Path} {name : String}
variable {world after : World}

/-
  What reconciling can come to: nothing was there to clear, it is
  removed, or renaming was tried.
-/
theorem reconcile_cases
    (hAfter : reconcile clearing root world = ((), after)) :
    (world.files.pathExists world.dir root = false ∧ after = world) ∨
      (world.files.pathExists world.dir root = true ∧
        (clearing.remove root world).1 = .ok () ∧
          after.files = (clearing.remove root world).2.files ∧
            after.dir = (clearing.remove root world).2.dir) ∨
        ∃ left outcome done,
          clearing.Retries root world left outcome done ∧
            after.files = done.files ∧ after.dir = done.dir := by
  rw [reconcile_apply] at hAfter
  cases hExists : world.files.pathExists world.dir root with
  | false =>
      rw [hExists, if_neg (by simp)] at hAfter
      exact Or.inl ⟨rfl, (Prod.mk.inj hAfter).2.symm⟩
  | true =>
      rw [hExists, if_pos rfl] at hAfter
      right
      rcases hRemove : clearing.remove root world with
        ⟨fault | _, left⟩
      · right
        rw [hRemove] at hAfter
        simp only at hAfter
        rcases hRename :
            clearing.rename root (asidePath root left.clock)
              (refused root fault left) with
          ⟨fault' | _, done⟩
        all_goals
          rw [hRename] at hAfter
          have hDone := (Prod.mk.inj hAfter).2
          refine ⟨left, _, done, ⟨hExists, fault, hRemove, hRename⟩, ?_⟩
          rw [← hDone]
          exact ⟨rfl, rfl⟩
      · left
        rw [hRemove] at hAfter
        have hDone := (Prod.mk.inj hAfter).2
        rw [← hDone]
        exact ⟨rfl, rfl, rfl, rfl⟩

/- What is not removed is tried to be renamed. -/
theorem Clearing.Retries.of_remove
    {left : World}
    {outcome : Except IoFault Unit}
    {fault : IoFault}
    (hExists : world.files.pathExists world.dir root = true)
    (hRemove : clearing.remove root world = (.error fault, left))
    (hRename :
      (clearing.rename root (asidePath root left.clock)
          (refused root fault left)).1 =
        outcome) :
    ∃ done, clearing.Retries root world left outcome done :=
  ⟨_, hExists, fault, hRemove, Prod.ext hRename rfl⟩

/- Renaming is tried once, so that its outcome is one. -/
theorem Clearing.Retries.unique
    {left left' done done' : World}
    {outcome outcome' : Except IoFault Unit}
    (hRetries : clearing.Retries root world left outcome done)
    (hOther : clearing.Retries root world left' outcome' done') :
    left' = left ∧ outcome' = outcome ∧ done' = done := by
  rcases hRetries with ⟨-, fault, hRemove, hRename⟩
  rcases hOther with ⟨-, fault', hRemove', hRename'⟩
  rw [hRemove, Prod.mk.injEq, Except.error.injEq] at hRemove'
  rcases hRemove' with ⟨rfl, rfl⟩
  rw [hRename, Prod.mk.injEq] at hRename'
  exact ⟨rfl, hRename'.1.symm, hRename'.2.symm⟩

/- Nothing is at the path, or both ways failed, or links crossed. -/
theorem vacated_of_reconcile
    (hClearing : clearing.Honest)
    (hBytes : root.HoldsBytes)
    (hName : root.fileName? = some name)
    (hFs : world.files.WellFormed)
    (hAfter : reconcile clearing root world = ((), after)) :
    after.files.pathExists after.dir root = false ∨
      (∃ left fault done,
        clearing.Retries root world left (.error fault) done) ∨
        ∃ left done home node,
          clearing.Retries root world left (.ok ()) done ∧
            world.files.IsHome world.dir root home ∧
              world.files.stat world.dir false root =
                  .ok (home ++ [name], node) ∧
                left.files.Crossed left.dir root (home ++ [name])
                  (home ++ [keptName name left.clock]) := by
  rcases reconcile_cases hAfter with
    ⟨hNone, rfl⟩ | ⟨hExists, hOk, hFiles, hDir⟩ |
      ⟨left, outcome, done, hRetries, hFiles, hDir⟩
  · exact Or.inl hNone
  · left
    rcases exists_entry_stat hExists with ⟨place, node, hStat⟩
    rcases hClearing.remove root world place node hFs hStat with
      ⟨hSame, hThins, hGone⟩
    rw [hFiles, hDir, hSame, ← Bool.not_eq_true]
    intro hThere
    rcases exists_entry_stat hThere with ⟨q, found, hFound⟩
    -- With less around, the path can lead nowhere else.
    have hBefore := stat_of_includes hThins.includes hFound
    rw [hStat, Except.ok.injEq, Prod.mk.injEq] at hBefore
    rw [← hBefore.1] at hFound
    exact hGone hOk found hFound
  · cases outcome with
    | error fault => exact Or.inr (Or.inl ⟨left, fault, done, hRetries⟩)
    | ok u =>
        rcases exists_entry_stat hRetries.1 with ⟨place, node, hStat⟩
        rcases moved_of_retries hClearing hBytes hName hFs hRetries
          hStat with ⟨home, rfl, hHome, hEntry, hMoved⟩
        by_cases hCrossed :
            left.files.Crossed left.dir root (home ++ [name])
              (home ++ [keptName name left.clock])
        · exact Or.inr (Or.inr ⟨left, done, home, node, hRetries,
            hHome, hStat, hCrossed⟩)
        · left
          have hGone := hMoved.absent (by simp) hEntry hCrossed
          rw [hFiles, hDir, (hClearing.rename_of_retries hRetries).1,
            ← Bool.not_eq_true]
          intro hThere
          rcases exists_entry_stat hThere with ⟨q, found, hFound⟩
          exact hGone false _ hFound

/- The occupant and the name it is renamed to are all that changes. -/
theorem outside_of_reconcile
    (hClearing : clearing.Honest)
    (hBytes : root.HoldsBytes)
    (hName : root.fileName? = some name)
    (hFs : world.files.WellFormed)
    (hAfter : reconcile clearing root world = ((), after))
    (q : Place) :
    after.files.node? q = world.files.node? q ∨
      (∃ place node,
        world.files.stat world.dir false root = .ok (place, node) ∧
          place <+: q) ∨
        ∃ left done home,
          clearing.Retries root world left (.ok ()) done ∧
            world.files.IsHome world.dir root home ∧
              home ++ [keptName name left.clock] <+: q := by
  rcases reconcile_cases hAfter with
    ⟨-, rfl⟩ | ⟨hExists, -, hFiles, -⟩ |
      ⟨left, outcome, done, hRetries, hFiles, -⟩
  · exact Or.inl rfl
  · rcases exists_entry_stat hExists with ⟨place, node, hStat⟩
    rcases hClearing.remove root world place node hFs hStat with
      ⟨-, hThins, -⟩
    rw [hFiles]
    rcases hThins.node? q with hSame | ⟨hIn, -⟩
    · exact Or.inl hSame
    · exact Or.inr (Or.inl ⟨place, node, hStat, hIn⟩)
  · rcases exists_entry_stat hRetries.1 with ⟨place, node, hStat⟩
    have hThins := (hClearing.thins_of_retries hFs hRetries hStat).2
    have hDone := (hClearing.rename_of_retries hRetries).2
    rw [hFiles]
    by_cases hIn : place <+: q
    · exact Or.inr (Or.inl ⟨place, node, hStat, hIn⟩)
    have hSame : left.files.node? q = world.files.node? q := by
      rcases hThins.node? q with hSame | ⟨hBelow, -⟩
      · exact hSame
      · exact absurd hBelow hIn
    cases outcome with
    | error fault =>
        rw [hDone.2 fault rfl]
        exact Or.inl hSame
    | ok u =>
        rcases moved_of_retries hClearing hBytes hName hFs hRetries
          hStat with ⟨home, -, hHome, -, hMoved⟩
        by_cases hBeside : home ++ [keptName name left.clock] <+: q
        · exact Or.inr (Or.inr ⟨left, done, home, hRetries, hHome,
            hBeside⟩)
        · left
          rw [hMoved.other q hIn hBeside, hSame]

/- What is renamed is under the name beside, and all of it. -/
theorem kept_of_reconcile
    (hClearing : clearing.Honest)
    (hBytes : root.HoldsBytes)
    (hName : root.fileName? = some name)
    (hFs : world.files.WellFormed)
    (hAfter : reconcile clearing root world = ((), after))
    {left done : World}
    (hRetries : clearing.Retries root world left (.ok ()) done) :
    ∃ home node,
      world.files.IsHome world.dir root home ∧
        world.files.stat world.dir false root =
            .ok (home ++ [name], node) ∧
          ∀ rest,
            after.files.node?
                (home ++ [keptName name left.clock] ++ rest) =
              left.files.node? (home ++ [name] ++ rest) := by
  have hFiles : after.files = done.files := by
    rcases reconcile_cases hAfter with
      ⟨hNone, -⟩ | ⟨-, hOk, -⟩ | ⟨_, _, _, hOther, hFiles, -⟩
    · rw [hRetries.1] at hNone
      contradiction
    · rcases hRetries with ⟨-, fault, hRemove, -⟩
      rw [hRemove] at hOk
      contradiction
    · rw [hFiles, (hRetries.unique hOther).2.2]
  rcases exists_entry_stat hRetries.1 with ⟨place, node, hStat⟩
  rcases moved_of_retries hClearing hBytes hName hFs hRetries hStat with
    ⟨home, rfl, hHome, -, hMoved⟩
  refine ⟨home, node, hHome, hStat, fun rest => ?_⟩
  rw [hFiles, hMoved.arrived]

/- Another way to rename that does the same when it is tried. -/
theorem reconcile_of_rename
    (hAfter : reconcile clearing root world = ((), after))
    {rename : Path → Path → Studio (Except IoFault Unit)}
    (hRename :
      ∀ fault left,
        world.files.pathExists world.dir root = true →
          clearing.remove root world = (.error fault, left) →
            rename root (asidePath root left.clock)
                (refused root fault left) =
              clearing.rename root (asidePath root left.clock)
                (refused root fault left)) :
    reconcile { clearing with rename := rename } root world =
      ((), after) := by
  rw [← hAfter, reconcile_apply, reconcile_apply]
  cases hExists : world.files.pathExists world.dir root with
  | false => rfl
  | true =>
      simp only [if_true]
      rcases hRemove : clearing.remove root world with
        ⟨fault | _, left⟩
      · simp only [hRename fault left hExists hRemove]
      · rfl

/-
  Whatever the two ways to clear a place do, as long as they do no
  more than they may, the place is settled.
-/
theorem reconcile_settled
    (hClearing : clearing.Honest)
    (hBytes : root.HoldsBytes)
    (hName : root.fileName? = some name)
    (hFs : world.files.WellFormed) :
    Settled clearing root name world
      (reconcile clearing root world).2 where
  vacated := vacated_of_reconcile hClearing hBytes hName hFs rfl
  stands _ _ hStat := place_of_stat hName hStat
  outside := outside_of_reconcile hClearing hBytes hName hFs rfl
  kept left done hRetries :=
    kept_of_reconcile hClearing hBytes hName hFs rfl hRetries
  attempted rename hRename := reconcile_of_rename rfl hRename
  proceeds workspace request hRoot := by
    subst hRoot
    rcases hLaid :
        layOut (tree workspace request) request
          (reconcile clearing (tree workspace request).root
            world).2 with
      ⟨outcome, world'⟩
    exact
      (materializeWith_apply clearing workspace request world hLaid).1

end Settling

/- Nothing can be removed, but it can be renamed. -/
def Clearing.reluctant : Clearing where
  remove _ := return refuse .permissionDenied
  rename := Clearing.standard.rename

theorem honest_reluctant : Clearing.reluctant.Honest where
  remove _ _ place _ hFs _ :=
    ⟨rfl, .refl hFs place, fun hOk => by contradiction⟩
  rename := honest_standard.rename

/- A workspace with a project and another one beside it. -/
def inhabited : World :=
  Coordinator.holding
    [(["b", "X", "target", "a.jar"], .file fileMode [1]),
      (["b", "X", "target"], .directory dirMode),
      (["b", "X", "pom.xml"], .file fileMode [2]),
      (["b", "X"], .directory dirMode),
      (["b", "Y"], .file fileMode [3]), (["b"], .directory dirMode)]

/- A project that is renamed as a whole, or removed as a whole. -/
theorem reconcile_settled_beside :
    (Path.HoldsBytes "/b/X" ∧
        Path.fileName? "/b/X" = some "X" ∧
          inhabited.files.WellFormed) ∧
      (Clearing.reluctant.Honest ∧
        Settled .reluctant "/b/X" "X" inhabited
            (reconcile .reluctant "/b/X" inhabited).2 ∧
          (reconcile .reluctant "/b/X" inhabited).2.files.node?
              ["b", "X.stale-0", "target", "a.jar"] =
            some (.file fileMode [1])) ∧
        Clearing.standard.Honest ∧
          Settled .standard "/b/X" "X" inhabited
              (reconcile .standard "/b/X" inhabited).2 ∧
            (reconcile .standard "/b/X" inhabited).2.files.node?
                ["b", "X.stale-0"] =
              none := by
  have hBytes : Path.HoldsBytes "/b/X" := by decide
  have hName : Path.fileName? "/b/X" = some "X" := by decide
  have hFs : inhabited.files.WellFormed := .of_entries (by decide)
  refine ⟨⟨hBytes, hName, hFs⟩, ⟨honest_reluctant, ?_, ?_⟩,
    honest_standard, ?_, ?_⟩
  · exact reconcile_settled honest_reluctant hBytes hName hFs
  · decide +kernel
  · exact reconcile_settled honest_standard hBytes hName hFs
  · decide +kernel

/- A workspace where a link to another directory has a name. -/
def linked : World :=
  Coordinator.holding
    [(["r", "k"], .file fileMode [1]), (["r"], .directory dirMode),
      (["b", "X"], .link "/r"), (["b"], .directory dirMode)]

/- A workspace with a link to itself, under the name beside a link. -/
def winding : World :=
  Coordinator.holding
    [(["b", "F", "X"], .file fileMode [1]),
      (["b", "F"], .directory dirMode), (["b", "X"], .link "F"),
      (["b", "X.stale-0"], .link "."), (["b"], .directory dirMode)]

/-
  A slash after the name of a link has what is in another directory
  deleted.  And where a link is renamed to the name of a link on
  the way to it, its path finds something afterwards.
-/
theorem reconcile_strays :
    (linked.files.WellFormed ∧
        Path.fileName? "/b/X/" = some "X" ∧
          linked.files.node? ["r", "k"] =
              some (.file fileMode [1]) ∧
            (reconcile .standard "/b/X/" linked).2.files.node?
                ["r", "k"] =
              none) ∧
      winding.files.WellFormed ∧
        Path.fileName? "/b/X.stale-0/X" = some "X" ∧
          (∃ left done,
            Clearing.reluctant.Retries "/b/X.stale-0/X" winding left
              (.ok ()) done) ∧
            (reconcile .reluctant "/b/X.stale-0/X"
                winding).2.files.pathExists []
                "/b/X.stale-0/X" =
              true := by
  refine ⟨⟨.of_entries (by decide), by decide, rfl, ?_⟩,
    .of_entries (by decide), by decide, ?_, ?_⟩
  · decide +kernel
  · refine ⟨winding, Clearing.Retries.of_remove ?_ rfl ?_⟩
    · decide +kernel
    · decide +kernel
  · decide +kernel

end Project

end PluginStudio
