import Mathlib.Data.List.Infix
import Mathlib.Data.List.Sort
import Mathlib.Data.String.Basic
import Mathlib.Order.Bounds.Basic
import PluginStudio.Proofs.Build.Outcome

/-
  The archive that is taken from the output of a build.

  Key definitions include:
    * `PluginStudio.Artifact.IsArchive`
    * `PluginStudio.Artifact.Marked`
    * `PluginStudio.Artifact.archivesIn`
    * `PluginStudio.Artifact.Selected`

  Main declarations:
    * `Text.holds_iff`, `Path.extension?_eq_jar_iff`
    * `FileSystem.mem_children_iff`, `FileSystem.node?_of_perm`
    * `Artifact.exists_candidates`, `Artifact.selected_choose`
    * `Artifact.select_exact`
    * `Artifact.select_primary_iff`

  What is offered depends on the archives of the directory alone
  and not on the order in which their entries are told.
-/

------------------------------------------------------------
-- Names
------------------------------------------------------------

namespace PluginStudio

theorem Text.holds_iff
    (text part : List Char) :
    Text.holds text part = true ↔ part <:+: text := by
  induction text with
  | nil => simp [Text.holds]
  | cons c cs ih =>
      rw [Text.holds, Bool.or_eq_true, ih, List.isPrefixOf_iff_prefix,
        List.infix_cons_iff]

namespace Artifact

/- An archive is told by the end of its name. -/
def IsArchive (name : String) : Prop :=
  ∃ stem : String, stem ≠ "" ∧ name = stem ++ ".jar"

theorem isArchive_iff (name : String) :
    IsArchive name ↔
      ".jar".toList <:+ name.toList ∧ name ≠ ".jar" := by
  constructor
  · rintro ⟨stem, hStem, rfl⟩
    exact ⟨⟨stem.toList, by simp⟩, by simpa using hStem⟩
  · rintro ⟨⟨front, hFront⟩, hMore⟩
    have hName : name = String.ofList front ++ ".jar" := by
      rw [← String.toList_inj, ← hFront]
      simp
    refine ⟨String.ofList front, fun hEmpty => hMore ?_, hName⟩
    rw [hName, hEmpty]
    rfl

instance (name : String) : Decidable (IsArchive name) :=
  decidable_of_iff _ (isArchive_iff name).symm

/- A companion is told by a word anywhere in its name. -/
def Marked (name : String) : Prop :=
  "sources".toList <:+: name.toList ∨
    "original".toList <:+: name.toList

instance (name : String) : Decidable (Marked name) :=
  inferInstanceAs (Decidable (_ ∨ _))

end Artifact

namespace Path

open Artifact

/- A run of other characters ends with a dot, if it ends. -/
private theorem dropWhile_ne_dot
    (cs : List Char) :
    (cs.dropWhile fun c => c ≠ '.') = [] ∨
      ∃ rest, (cs.dropWhile fun c => c ≠ '.') = '.' :: rest := by
  induction cs with
  | nil => exact .inl rfl
  | cons c cs ih =>
      by_cases hDot : c = '.'
      · exact .inr ⟨cs, by simp [hDot]⟩
      · simpa [hDot] using ih

theorem extension?_eq_jar_iff
    {p : Path}
    {name : String}
    (hName : p.fileName? = some name) :
    p.extension? = some fileExtension ↔ IsArchive name := by
  rw [extension?, hName]
  simp only [fileExtension]
  constructor
  · intro hJar
    split_ifs at hJar with hShort
    have hSplit :=
      List.takeWhile_append_dropWhile
        (p := fun c : Char => decide (c ≠ '.')) (l := name.toList.reverse)
    rcases dropWhile_ne_dot name.toList.reverse with
      hBefore | ⟨rest, hBefore⟩
    · exact absurd (by rw [hBefore]; simp) hShort
    have hAfter :
        (name.toList.reverse.takeWhile fun c => c ≠ '.').reverse =
          "jar".toList := by
      simpa using congrArg String.toList (Option.some.inj hJar)
    rw [hBefore] at hShort hSplit
    refine ⟨String.ofList rest.reverse, ?_, ?_⟩
    · intro hEmpty
      have hRest : rest = [] := by
        simpa using congrArg String.toList hEmpty
      simp [hRest] at hShort
    · have hReverse := congrArg List.reverse hSplit
      rw [List.reverse_append, List.reverse_reverse, hAfter] at hReverse
      rw [← String.toList_inj, ← hReverse]
      simp
  · rintro ⟨stem, hStem, rfl⟩
    have hReverse :
        (stem ++ ".jar").toList.reverse =
          ['r', 'a', 'j', '.'] ++ stem.toList.reverse := by
      simp
    rw [hReverse]
    simpa using hStem

end Path

namespace Artifact

open PluginStudio.Path

theorem isAuxiliary_join_iff
    (dir : Path)
    {name : String}
    (hName : IsName name) :
    isAuxiliary (dir.join name) = true ↔ Marked name := by
  rw [isAuxiliary, fileName?_join dir hName]
  simp [auxiliaryMarkers, Text.holds_iff, Marked]

end Artifact

end PluginStudio

------------------------------------------------------------
-- Entries
------------------------------------------------------------

namespace PluginStudio

namespace FileSystem

variable {fs : FileSystem}

/- The order in which places are told does not count. -/
theorem node?_of_perm
    {other : FileSystem}
    (hDistinct : (fs.nodes.map Prod.fst).Nodup)
    (hPerm : other.nodes.Perm fs.nodes) :
    other.node? = fs.node? := by
  funext place
  by_cases hPlace : place = []
  · rw [hPlace]
    rfl
  have hOther : (other.nodes.map Prod.fst).Nodup :=
    ((hPerm.map Prod.fst).nodup_iff).mpr hDistinct
  ext node
  rw [node?_eq_some_iff_mem hOther hPlace,
    node?_eq_some_iff_mem hDistinct hPlace, hPerm.mem_iff]

/- Walks see nothing but what stands at places. -/
private theorem walkNames_congr
    {other : FileSystem}
    (hSame : other.node? = fs.node?)
    (aim : Aim)
    (detour : Place → List String → Except Errno Spot)
    (place : Place)
    (names : List String) :
    other.walkNames aim detour place names =
      fs.walkNames aim detour place names := by
  induction names generalizing place with
  | nil => rw [walkNames, walkNames, hSame]
  | cons name names ih =>
      rw [walkNames, walkNames, hSame]
      simp only [ih]

private theorem walk_congr
    {other : FileSystem}
    (hSame : other.node? = fs.node?)
    (aim : Aim)
    (links : Nat) :
    other.walk aim links = fs.walk aim links := by
  induction links with
  | zero =>
      funext place names
      exact walkNames_congr hSame aim _ place names
  | succ links ih =>
      funext place names
      rw [walk, walk, ih]
      exact walkNames_congr hSame aim _ place names

theorem stat_congr
    {other : FileSystem}
    (hSame : other.node? = fs.node?)
    (cwd : Place)
    (followLast : Bool)
    (p : Path) :
    other.stat cwd followLast p = fs.stat cwd followLast p := by
  simp only [stat, resolve, walk_congr hSame]

/- A directory lists what stands right below it. -/
theorem mem_children_iff
    (hDistinct : (fs.nodes.map Prod.fst).Nodup)
    {place : Place}
    {name : String}
    {node : Node} :
    (name, node) ∈ fs.children place ↔
      fs.node? (place ++ [name]) = some node := by
  constructor
  · exact node?_of_mem_children hDistinct
  · intro hNode
    rw [node?_eq_some_iff_mem hDistinct (by simp)] at hNode
    rw [children, List.mem_filterMap]
    exact ⟨_, hNode, by simp⟩

/- It lists no name twice. -/
theorem nodup_children
    (hDistinct : (fs.nodes.map Prod.fst).Nodup)
    (place : Place) :
    ((fs.children place).map Prod.fst).Nodup := by
  rw [List.Nodup, List.pairwise_map] at hDistinct ⊢
  rw [children, List.pairwise_filterMap]
  refine hDistinct.imp ?_
  rintro ⟨q, old⟩ ⟨r, node⟩ hNe ⟨name, found⟩ hLeft ⟨other, found'⟩ hRight
  simp only at hLeft hRight hNe ⊢
  rcases List.eq_nil_or_concat q with rfl | ⟨init, last, rfl⟩
  · simp at hLeft
  rcases List.eq_nil_or_concat r with rfl | ⟨init', last', rfl⟩
  · simp at hRight
  simp only [List.concat_eq_append, List.getLast?_concat,
    List.dropLast_concat] at hLeft hRight hNe
  split_ifs at hLeft hRight with hInit hInit'
  rw [Option.some.injEq, Prod.mk.injEq] at hLeft hRight
  rintro hEq
  refine hNe ?_
  rw [hInit, hInit', hLeft.1, hRight.1, hEq]

end FileSystem

end PluginStudio

------------------------------------------------------------
-- Candidates
------------------------------------------------------------

namespace PluginStudio

namespace Artifact

open FileSystem PluginStudio.Path

/- The names of the archives right inside a directory. -/
def archivesIn
    (fs : FileSystem)
    (cwd : Place)
    (dir : Path) : Set String :=
  {name |
    IsArchive name ∧
      ∃ place dirMode mode content,
        fs.stat cwd true dir = .ok (place, .directory dirMode) ∧
          fs.node? (place ++ [name]) = some (.file mode content)}

theorem mem_archivesIn_iff
    {fs : FileSystem}
    (hDistinct : (fs.nodes.map Prod.fst).Nodup)
    {cwd place : Place}
    {dir : Path}
    {dirMode : Nat}
    (hStat : fs.stat cwd true dir = .ok (place, .directory dirMode))
    {name : String} :
    name ∈ archivesIn fs cwd dir ↔
      IsArchive name ∧
        ∃ mode content,
          (place ++ [name], .file mode content) ∈ fs.nodes := by
  refine and_congr_right fun _ => ⟨?_, ?_⟩
  · rintro ⟨place', dirMode', mode, content, hStat', hNode⟩
    obtain ⟨rfl, -⟩ :=
      Prod.mk.inj (Except.ok.inj (hStat.symm.trans hStat'))
    exact ⟨mode, content,
      (node?_eq_some_iff_mem hDistinct (by simp)).mp hNode⟩
  · rintro ⟨mode, content, hMem⟩
    exact ⟨place, dirMode, mode, content, hStat,
      (node?_eq_some_iff_mem hDistinct (by simp)).mpr hMem⟩

/- What an entry has to be for its path to be offered. -/
private theorem archives_eq
    (dir : Path)
    {entries : List (String × Node)}
    (hNames : ∀ entry ∈ entries, IsName entry.1) :
    ∃ names : List String,
      names.Sublist (entries.map Prod.fst) ∧
        (∀ name, name ∈ names ↔
          IsArchive name ∧
            ∃ node, (name, node) ∈ entries ∧ node.isFile = true) ∧
          archives dir entries = names.map dir.join := by
  refine ⟨(entries.filter fun entry =>
      entry.2.isFile && decide (IsArchive entry.1)).map Prod.fst,
    List.filter_sublist.map _, fun name => ?_, ?_⟩
  · simp only [List.mem_map, List.mem_filter, Bool.and_eq_true,
      decide_eq_true_eq]
    constructor
    · rintro ⟨⟨_, node⟩, ⟨hMem, hFile, hArchive⟩, rfl⟩
      exact ⟨hArchive, node, hMem, hFile⟩
    · rintro ⟨hArchive, node, hMem, hFile⟩
      exact ⟨(name, node), ⟨hMem, hFile, hArchive⟩, rfl⟩
  · have hFilter :
        (entries.filter fun entry =>
            decide ((dir.join entry.1).extension? =
              some fileExtension) && entry.2.isFile) =
          entries.filter fun entry =>
            entry.2.isFile && decide (IsArchive entry.1) := by
      refine List.filter_congr fun entry hMem => ?_
      have hJar :=
        extension?_eq_jar_iff (fileName?_join dir (hNames entry hMem))
      rw [Bool.and_comm, decide_eq_decide.mpr hJar]
    rw [archives, List.filter_map, List.filter_filter, List.map_map]
    simp only [Function.comp_def, hFilter]

/- A directory without repeated places is listed by strictly rising names. -/
private theorem pairwise_list
    {fs : FileSystem}
    (hDistinct : (fs.nodes.map Prod.fst).Nodup)
    (place : Place) :
    (((fs.children place).mergeSort fun a b => a.1 ≤ b.1).map
      Prod.fst).Pairwise (· < ·) := by
  have hSorted :
      ((fs.children place).mergeSort fun a b => a.1 ≤ b.1).Pairwise
        fun a b => decide (a.1 ≤ b.1) = true := by
    apply List.pairwise_mergeSort
    · intro a b c hab hbc
      simp only [decide_eq_true_eq] at hab hbc ⊢
      exact le_trans hab hbc
    · intro a b
      simpa using le_total a.1 b.1
  have hNodup : ((fs.children place).mergeSort
      fun a b => a.1 ≤ b.1).map Prod.fst |>.Nodup :=
    (((List.mergeSort_perm _ _).map Prod.fst).nodup_iff).mpr
      (nodup_children hDistinct place)
  rw [List.Nodup, List.pairwise_map] at hNodup
  rw [List.pairwise_map]
  refine (hSorted.and hNodup).imp ?_
  rintro a b ⟨hLe, hNe⟩
  exact lt_of_le_of_ne (by simpa using hLe) hNe

/- Where there is no directory, nothing is offered. -/
private theorem candidates_of_not_directory
    {fs : FileSystem}
    {cwd : Place}
    {dir : Path}
    (hNot :
      ∀ place mode,
        fs.stat cwd true dir ≠ .ok (place, .directory mode)) :
    candidates fs cwd dir = [] := by
  rw [candidates, list]
  rcases hStat : fs.stat cwd true dir with fault | ⟨place, node⟩
  · rfl
  · cases node with
    | directory mode => exact absurd hStat (hNot place mode)
    | file mode content => rfl
    | link target => rfl
    | device device => rfl

/- What is offered is each archive once, by rising names. -/
theorem exists_candidates
    {fs : FileSystem}
    (hFiles : fs.WellFormed)
    (hDistinct : (fs.nodes.map Prod.fst).Nodup)
    (cwd : Place)
    (dir : Path) :
    ∃ names : List String,
      names.Pairwise (· < ·) ∧
        (∀ name, name ∈ names ↔ name ∈ archivesIn fs cwd dir) ∧
          candidates fs cwd dir = names.map dir.join := by
  by_cases hDir :
      ∃ place mode, fs.stat cwd true dir = .ok (place, .directory mode)
  · obtain ⟨place, dirMode, hStat⟩ := hDir
    have hMem :
        ∀ name node,
          (name, node) ∈
              (fs.children place).mergeSort
                (fun a b => decide (a.1 ≤ b.1)) ↔
            (place ++ [name], node) ∈ fs.nodes :=
      fun name node => by
        rw [List.mem_mergeSort, mem_children_iff hDistinct,
          node?_eq_some_iff_mem hDistinct (by simp)]
    obtain ⟨names, hSub, hNames, hEq⟩ :=
      archives_eq dir fun entry hEntry =>
        hFiles.named ((node?_eq_some_iff_mem hDistinct (by simp)).mpr
          ((hMem entry.1 entry.2).mp hEntry))
    refine ⟨names, (pairwise_list hDistinct place).sublist hSub,
      fun name => ?_, ?_⟩
    · rw [hNames, mem_archivesIn_iff hDistinct hStat]
      refine and_congr_right fun _ => ⟨?_, ?_⟩
      · rintro ⟨node, hNode, hFile⟩
        cases node with
        | file mode content => exact ⟨mode, content, (hMem _ _).mp hNode⟩
        | directory mode => contradiction
        | link target => contradiction
        | device device => contradiction
      · rintro ⟨mode, content, hNode⟩
        exact ⟨_, (hMem _ _).mpr hNode, rfl⟩
    · rw [candidates, list, hStat]
      exact hEq
  · simp only [not_exists] at hDir
    refine ⟨[], .nil, fun name => ?_, candidates_of_not_directory hDir⟩
    simp only [List.not_mem_nil, false_iff]
    rintro ⟨-, place, mode, -, -, hStat, -⟩
    exact hDir place mode hStat

/- What is offered does not hang on the order of the entries. -/
theorem candidates_of_perm
    {fs other : FileSystem}
    (hFiles : fs.WellFormed)
    (hDistinct : (fs.nodes.map Prod.fst).Nodup)
    (hPerm : other.nodes.Perm fs.nodes)
    (cwd : Place)
    (dir : Path) :
    candidates other cwd dir = candidates fs cwd dir := by
  have hSame := node?_of_perm hDistinct hPerm
  have hOther : other.WellFormed :=
    ⟨fun h => hSame ▸ hFiles.parent (hSame ▸ h),
      fun h => hFiles.named (hSame ▸ h)⟩
  have hArchives : archivesIn other cwd dir = archivesIn fs cwd dir := by
    simp only [archivesIn, hSame, stat_congr hSame]
  obtain ⟨names, hSorted, hNames, hEq⟩ :=
    exists_candidates hFiles hDistinct cwd dir
  obtain ⟨names', hSorted', hNames', hEq'⟩ :=
    exists_candidates hOther
      (((hPerm.map Prod.fst).nodup_iff).mpr hDistinct) cwd dir
  have hSameNames : names' = names :=
    hSorted'.eq_of_mem_iff hSorted fun name => by
      rw [hNames', hNames, hArchives]
  rw [hEq, hEq', hSameNames]

end Artifact

end PluginStudio

------------------------------------------------------------
-- The Choice
------------------------------------------------------------

namespace PluginStudio

namespace Artifact

open FileSystem PluginStudio.Path

/-
  What is taken of some archives: none if there are none, the
  first by name without a mark, or the first by name where all
  are marked.
-/
inductive Selected
    (archives : Set String)
    (dir : Path) : Except Failure Path → Prop where
  | nothing
      (hNone : archives = ∅) :
      Selected archives dir (.error (.none dir))
  | primary
      {name : String}
      (hLeast : IsLeast {n ∈ archives | ¬Marked n} name) :
      Selected archives dir (.ok (dir.join name))
  | companion
      {name : String}
      (hMarked : ∀ n ∈ archives, Marked n)
      (hLeast : IsLeast archives name) :
      Selected archives dir (.ok (dir.join name))

/- The first of rising names that passes is the least to pass. -/
private theorem isLeast_of_find?
    {names : List String}
    (hSorted : names.Pairwise (· < ·))
    {passes : String → Bool}
    {name : String}
    (hFind : names.find? passes = some name) :
    IsLeast {n | n ∈ names ∧ passes n = true} name := by
  obtain ⟨hPasses, before, after, rfl, hBefore⟩ :=
    List.find?_eq_some_iff_append.mp hFind
  refine ⟨⟨by simp, hPasses⟩, ?_⟩
  rintro other ⟨hMem, hOther⟩
  rcases List.mem_append.mp hMem with hMem | hMem
  · have := hBefore other hMem
    simp [hOther] at this
  · rcases List.mem_cons.mp hMem with rfl | hMem
    · exact le_refl _
    · have hAfter := (List.pairwise_append.mp hSorted).2.1
      exact ((List.pairwise_cons.mp hAfter).1 other hMem).le

theorem selected_choose
    {names : List String}
    (hSorted : names.Pairwise (· < ·))
    (hNames : ∀ name ∈ names, IsName name)
    (dir : Path) :
    Selected {name | name ∈ names} dir
      (match choose? (names.map dir.join) with
        | some p => .ok p
        | none => .error (.none dir)) := by
  have hPasses :
      ∀ n ∈ names,
        ((fun p => !isAuxiliary p) ∘ dir.join) n = true ↔ ¬Marked n := by
    intro n hMem
    have hAuxiliary := isAuxiliary_join_iff dir (hNames n hMem)
    rw [← hAuxiliary]
    simp
  rw [choose?, List.find?_map]
  cases hFirst : names.find? ((fun p => !isAuxiliary p) ∘ dir.join) with
  | some name =>
      have hSet :
          {n | n ∈ names ∧
            ((fun p => !isAuxiliary p) ∘ dir.join) n = true} =
              {n ∈ {n | n ∈ names} | ¬Marked n} := by
        ext n
        exact and_congr_right fun hMem => hPasses n hMem
      exact .primary (hSet ▸ isLeast_of_find? hSorted hFirst)
  | none =>
      have hMarked : ∀ n ∈ names, Marked n := fun n hMem =>
        not_not.mp fun hNot =>
          List.find?_eq_none.mp hFirst n hMem
            ((hPasses n hMem).mpr hNot)
      cases names with
      | nil => exact .nothing (by simp)
      | cons name names =>
          have hHead :
              (name :: names).find? (fun _ => true) = some name := rfl
          exact .companion hMarked
            (by simpa using isLeast_of_find? hSorted hHead)

theorem isName_of_mem_archivesIn
    {fs : FileSystem}
    (hFiles : fs.WellFormed)
    {cwd : Place}
    {dir : Path}
    {name : String}
    (hMem : name ∈ archivesIn fs cwd dir) :
    IsName name := by
  obtain ⟨_, place, _, _, _, _, hNode⟩ := hMem
  exact hFiles.named hNode

/- Which archive is taken is told by what is offered. -/
theorem selected_select
    {world : World}
    {project : Path}
    {names : List String}
    (hSorted : names.Pairwise (· < ·))
    (hNames : ∀ name ∈ names, IsName name)
    (hOffered :
      candidates world.files world.dir (project.join "target") =
        names.map (project.join "target").join) :
    Selected {name | name ∈ names} (project.join "target")
      (select project world).1 := by
  rw [(Coordinator.select_apply project world).1, Project.outputDir,
    hOffered]
  exact selected_choose hSorted hNames _

/- So it is told by the archives that stand there. -/
theorem selected_archivesIn
    {world : World}
    (hFiles : world.files.WellFormed)
    (hDistinct : (world.files.nodes.map Prod.fst).Nodup)
    (project : Path) :
    Selected
      (archivesIn world.files world.dir (project.join "target"))
      (project.join "target") (select project world).1 := by
  obtain ⟨names, hSorted, hNames, hOffered⟩ :=
    exists_candidates hFiles hDistinct world.dir
      (project.join "target")
  have hSelected :=
    selected_select hSorted
      (fun name hMem =>
        isName_of_mem_archivesIn hFiles ((hNames name).mp hMem))
      hOffered
  rwa [show {name | name ∈ names} = _ from Set.ext hNames] at hSelected

/- No other outcome is told by the same archives. -/
theorem Selected.unique
    {archives : Set String}
    {dir : Path}
    {outcome outcome' : Except Failure Path}
    (hLeft : Selected archives dir outcome)
    (hRight : Selected archives dir outcome') :
    outcome = outcome' := by
  cases hLeft with
  | nothing hNone =>
      cases hRight with
      | nothing => rfl
      | primary hLeast => simpa [hNone] using hLeast.1
      | companion _ hLeast => simpa [hNone] using hLeast.1
  | primary hLeast =>
      cases hRight with
      | nothing hNone => simpa [hNone] using hLeast.1
      | primary hOther => rw [hLeast.unique hOther]
      | companion hMarked =>
          exact absurd (hMarked _ hLeast.1.1) hLeast.1.2
  | companion hMarked hLeast =>
      cases hRight with
      | nothing hNone => simpa [hNone] using hLeast.1
      | primary hOther =>
          exact absurd (hMarked _ hOther.1.1) hOther.1.2
      | companion _ hOther => rw [hLeast.unique hOther]

/- When a given archive is the one that is taken. -/
theorem Selected.ok_iff
    {archives : Set String}
    {dir : Path}
    {outcome : Except Failure Path}
    (hSelected : Selected archives dir outcome)
    (hNames : ∀ name ∈ archives, IsName name)
    {name : String}
    (hName : IsName name) :
    outcome = .ok (dir.join name) ↔
      IsLeast {n ∈ archives | ¬Marked n} name ∨
        (∀ n ∈ archives, Marked n) ∧ IsLeast archives name := by
  have hSame :
      ∀ other ∈ archives,
        (.ok (dir.join other) : Except Failure Path) =
            .ok (dir.join name) →
          other = name := by
    intro other hMem hEq
    have hFileName := congrArg Path.fileName? (Except.ok.inj hEq)
    rw [fileName?_join dir (hNames other hMem),
      fileName?_join dir hName] at hFileName
    exact Option.some.inj hFileName
  constructor
  · intro hTaken
    cases hSelected with
    | nothing => contradiction
    | primary hLeast =>
        exact .inl (hSame _ hLeast.1.1 hTaken ▸ hLeast)
    | companion hMarked hLeast =>
        exact .inr ⟨hMarked, hSame _ hLeast.1 hTaken ▸ hLeast⟩
  · rintro (hLeast | ⟨hMarked, hLeast⟩)
    · exact hSelected.unique (.primary hLeast)
    · exact hSelected.unique (.companion hMarked hLeast)

/-
  Candidates are the archives by strictly rising names, whatever
  the order of the entries, and of these the first unmarked one
  is taken, or the first where all are marked.  Names are bytes,
  so it is their bytes that are compared.
-/
theorem select_exact
    {world : World}
    (hFiles : world.files.WellFormed)
    (hDistinct : (world.files.nodes.map Prod.fst).Nodup)
    (project : Path) :
    ∃ names : List String,
      names.Pairwise (· < ·) ∧
        (∀ name,
          name ∈ names ↔
            name ∈ archivesIn world.files world.dir
              (project.join "target")) ∧
          ∀ other : World,
            other.files.nodes.Perm world.files.nodes →
              other.dir = world.dir →
                candidates other.files other.dir
                    (project.join "target") =
                  names.map (project.join "target").join ∧
                ((select project other).1 =
                    .error (.none (project.join "target")) ↔
                  names = []) ∧
                Selected {name | name ∈ names}
                  (project.join "target")
                  (select project other).1 := by
  obtain ⟨names, hSorted, hNames, hEq⟩ :=
    exists_candidates hFiles hDistinct world.dir
      (project.join "target")
  refine ⟨names, hSorted, hNames, fun other hPerm hDir => ?_⟩
  have hOffered :
      candidates other.files other.dir (project.join "target") =
        names.map (project.join "target").join := by
    rw [hDir, candidates_of_perm hFiles hDistinct hPerm, hEq]
  have hSelected :=
    selected_select hSorted
      (fun name hMem =>
        isName_of_mem_archivesIn hFiles ((hNames name).mp hMem))
      hOffered
  refine ⟨hOffered, ⟨fun hNone => ?_, ?_⟩, hSelected⟩
  · rw [hNone] at hSelected
    cases hSelected with
    | nothing hEmpty =>
        exact List.eq_nil_iff_forall_not_mem.mpr
          (Set.eq_empty_iff_forall_notMem.mp hEmpty)
  · rintro rfl
    exact hSelected.unique (.nothing (by simp))

/- Much that is no archive, told in no order. -/
def littered : World :=
  Coordinator.holding
    [(["p", "target", "b.jar"], .file fileMode []),
      (["p", "target", "nested.jar"], .directory dirMode),
      (["p", "target", "a-sources.jar"], .file fileMode []),
      (["p", "target", ".jar"], .file fileMode []),
      (["p", "target", "a.JAR"], .file fileMode []),
      (["p", "target", "a.jar.sha1"], .file fileMode []),
      (["p", "target", "a.jar"], .link "b.jar"),
      (["p", "target"], .directory dirMode),
      (["p"], .directory dirMode)]

private theorem mem_archivesIn_littered
    (name : String) :
    name ∈ archivesIn littered.files [] "p/target" ↔
      name = "a-sources.jar" ∨ name = "b.jar" := by
  have hStat :
      littered.files.stat [] true "p/target" =
        .ok (["p", "target"], .directory dirMode) := rfl
  rw [mem_archivesIn_iff (by decide) hStat]
  constructor
  · rintro ⟨hArchive, mode, content, hMem⟩
    simp only [littered, Coordinator.holding, List.cons_append,
      List.nil_append, List.mem_cons, Prod.mk.injEq, List.cons.injEq,
      reduceCtorEq, and_false, false_or, or_false, true_and, and_true,
      List.not_mem_nil] at hMem
    rcases hMem with
      ⟨rfl, -⟩ | ⟨rfl, -⟩ | ⟨rfl, -⟩ | ⟨rfl, -⟩ | ⟨rfl, -⟩ <;>
        revert hArchive <;> decide
  · rintro (rfl | rfl)
    · exact ⟨by decide, fileMode, [], by decide⟩
    · exact ⟨by decide, fileMode, [], by decide⟩

theorem select_exact_of_littered :
    littered.files.WellFormed ∧
      (littered.files.nodes.map Prod.fst).Nodup ∧
        (∀ name,
          name ∈ archivesIn littered.files [] "p/target" ↔
            name = "a-sources.jar" ∨ name = "b.jar") ∧
          ∃ names : List String,
            names.Pairwise (· < ·) ∧
              (∀ name,
                name ∈ names ↔
                  name ∈ archivesIn littered.files [] "p/target") ∧
                ∀ other : World,
                  other.files.nodes.Perm littered.files.nodes →
                    other.dir = [] →
                      candidates other.files other.dir "p/target" =
                          names.map (Path.join "p/target") ∧
                        ((select "p" other).1 =
                            .error (.none "p/target") ↔
                          names = []) ∧
                          Selected {name | name ∈ names} "p/target"
                            (select "p" other).1 := by
  have hFiles : littered.files.WellFormed :=
    .of_entries (by decide)
  have hDistinct : (littered.files.nodes.map Prod.fst).Nodup := by
    decide
  exact ⟨hFiles, hDistinct, mem_archivesIn_littered,
    select_exact hFiles hDistinct "p"⟩

end Artifact

end PluginStudio

------------------------------------------------------------
-- Companions
------------------------------------------------------------

namespace PluginStudio

namespace Artifact

open FileSystem PluginStudio.Path

/- A word is not found past its last character. -/
private theorem infix_append_iff
    {part text tail : List Char}
    {c : Char}
    (hPart : part.getLast? = some c)
    (hTail : c ∉ tail) :
    part <:+: text ++ tail ↔ part <:+: text := by
  constructor
  · rintro ⟨before, after, hEq⟩
    rcases List.append_eq_append_iff.mp hEq with
      ⟨rest, hText, -⟩ | ⟨rest, hFront, hRest⟩
    · exact ⟨before, rest, hText.symm⟩
    · rcases List.eq_nil_or_concat rest with rfl | ⟨init, last, rfl⟩
      · exact ⟨before, [], by simpa using hFront⟩
      · have hLast := congrArg List.getLast? hFront
        simp [hPart] at hLast
        exact absurd (by simp [hRest, hLast]) hTail
  · intro hInfix
    exact hInfix.trans (List.prefix_append text tail).isInfix

theorem marked_jar_iff (base : String) :
    Marked (base ++ ".jar") ↔ Marked base := by
  rw [Marked, Marked, String.toList_append,
    infix_append_iff (c := 's') (by decide) (by decide),
    infix_append_iff (c := 'l') (by decide) (by decide)]

/- The three names that stand beside an archive. -/
inductive IsCompanion (base : String) : String → Prop where
  | sources : IsCompanion base (base ++ "-sources.jar")
  | unshaded : IsCompanion base ("original-" ++ base ++ ".jar")
  | original : IsCompanion base (base ++ "-original.jar")

theorem IsCompanion.marked
    {base name : String}
    (hCompanion : IsCompanion base name) :
    Marked name := by
  cases hCompanion with
  | sources =>
      exact .inl ⟨base.toList ++ ['-'], ".jar".toList, by simp⟩
  | unshaded =>
      exact .inr ⟨[], '-' :: base.toList ++ ".jar".toList, by simp⟩
  | original =>
      exact .inr ⟨base.toList ++ ['-'], ".jar".toList, by simp⟩

/- A dash comes before a dot. -/
private theorem dash_lt_jar
    (base rest : String) :
    base ++ "-" ++ rest < base ++ ".jar" := by
  rw [String.lt_iff_toList_lt]
  simp only [String.toList_append, List.append_assoc]
  exact List.Lex.append_left _ (.rel (by decide)) _

/- Which of them come first where all of them are marked. -/
private theorem isLeast_jar_iff
    {archives : Set String}
    {base : String}
    (hPrimary : base ++ ".jar" ∈ archives)
    (hBeside :
      ∀ name ∈ archives,
        name = base ++ ".jar" ∨ IsCompanion base name) :
    IsLeast archives (base ++ ".jar") ↔
      base ++ "-sources.jar" ∉ archives ∧
        base ++ "-original.jar" ∉ archives ∧
          ("original-" ++ base ++ ".jar" ∈ archives →
            base ++ ".jar" ≤ "original-" ++ base ++ ".jar") := by
  have hSources : base ++ "-sources.jar" < base ++ ".jar" := by
    simpa [String.append_assoc] using dash_lt_jar base "sources.jar"
  have hOriginal : base ++ "-original.jar" < base ++ ".jar" := by
    simpa [String.append_assoc] using dash_lt_jar base "original.jar"
  constructor
  · intro hLeast
    exact ⟨fun hMem => absurd (hLeast.2 hMem) (not_le.mpr hSources),
      fun hMem => absurd (hLeast.2 hMem) (not_le.mpr hOriginal),
      fun hMem => hLeast.2 hMem⟩
  · rintro ⟨hNoSources, hNoOriginal, hUnshaded⟩
    refine ⟨hPrimary, fun name hMem => ?_⟩
    rcases hBeside name hMem with rfl | hCompanion
    · exact le_refl _
    · cases hCompanion with
      | sources => exact absurd hMem hNoSources
      | unshaded => exact hUnshaded hMem
      | original => exact absurd hMem hNoOriginal

/-
  An archive is taken before its companions exactly if its own
  name is unmarked, or if it comes first by chance: a dash comes
  before a dot, so then no companion but the unshaded one may
  stand beside it.
-/
theorem select_primary_iff
    {world : World}
    (hFiles : world.files.WellFormed)
    (hDistinct : (world.files.nodes.map Prod.fst).Nodup)
    (project : Path)
    {base : String}
    (hPrimary :
      base ++ ".jar" ∈
        archivesIn world.files world.dir (project.join "target"))
    (hBeside :
      ∀ name ∈
          archivesIn world.files world.dir (project.join "target"),
        name = base ++ ".jar" ∨ IsCompanion base name) :
    (select project world).1 =
        .ok ((project.join "target").join (base ++ ".jar")) ↔
      ¬Marked base ∨
        base ++ "-sources.jar" ∉
            archivesIn world.files world.dir (project.join "target") ∧
          base ++ "-original.jar" ∉
              archivesIn world.files world.dir
                (project.join "target") ∧
            ("original-" ++ base ++ ".jar" ∈
                archivesIn world.files world.dir
                  (project.join "target") →
              base ++ ".jar" ≤ "original-" ++ base ++ ".jar") := by
  have hNames :
      ∀ name ∈
          archivesIn world.files world.dir (project.join "target"),
        IsName name :=
    fun name => isName_of_mem_archivesIn hFiles
  rw [(selected_archivesIn hFiles hDistinct project).ok_iff hNames
    (hNames _ hPrimary), ← isLeast_jar_iff hPrimary hBeside]
  generalize archivesIn world.files world.dir
    (project.join "target") = archives at hPrimary hBeside
  have hAll : (∀ n ∈ archives, Marked n) ↔ Marked base := by
    constructor
    · intro hMarked
      exact (marked_jar_iff base).mp (hMarked _ hPrimary)
    · intro hMarked n hMem
      rcases hBeside n hMem with rfl | hCompanion
      · exact (marked_jar_iff base).mpr hMarked
      · exact hCompanion.marked
  have hUnmarked :
      IsLeast {n ∈ archives | ¬Marked n} (base ++ ".jar") ↔
        ¬Marked base := by
    rw [← marked_jar_iff]
    refine ⟨fun hLeast => hLeast.1.2,
      fun hNot => ⟨⟨hPrimary, hNot⟩, ?_⟩⟩
    rintro n ⟨hMem, hOther⟩
    rcases hBeside n hMem with rfl | hCompanion
    · exact le_refl _
    · exact absurd hCompanion.marked hOther
  rw [hAll, hUnmarked]
  tauto

/- A project whose output is some files. -/
def packaged (names : List String) : World :=
  Coordinator.holding
    ((["p"], .directory dirMode) ::
      (["p", "target"], .directory dirMode) ::
        names.map fun name =>
          (["p", "target", name], .file fileMode []))

private theorem wellFormed_packaged
    {names : List String}
    (hNames : ∀ name ∈ names, IsName name) :
    (packaged names).files.WellFormed := by
  refine .of_entries fun entry hEntry => ?_
  simp only [packaged, Coordinator.holding, List.mem_cons,
    List.mem_map] at hEntry
  rcases hEntry with rfl | rfl | ⟨name, hMem, rfl⟩
  · exact ⟨by decide, rfl⟩
  · exact ⟨by decide, rfl⟩
  · exact ⟨hNames name hMem, rfl⟩

private theorem nodup_packaged
    {names : List String}
    (hNodup : names.Nodup) :
    ((packaged names).files.nodes.map Prod.fst).Nodup := by
  simp only [packaged, Coordinator.holding, List.map_cons,
    List.map_map, Function.comp_def, List.nodup_cons]
  refine ⟨by simp, by simp, hNodup.map fun a b hEq => ?_⟩
  simpa using hEq

private theorem mem_archivesIn_packaged
    {names : List String}
    (hNodup : names.Nodup)
    (name : String) :
    name ∈ archivesIn (packaged names).files [] "p/target" ↔
      IsArchive name ∧ name ∈ names := by
  have hStat :
      (packaged names).files.stat [] true "p/target" =
        .ok (["p", "target"], .directory dirMode) := rfl
  rw [mem_archivesIn_iff (nodup_packaged hNodup) hStat]
  refine and_congr_right fun _ => ?_
  simp [packaged, Coordinator.holding]

/- An archive of an unmarked name among all its companions. -/
def shaded : List String :=
  ["x-sources.jar", "x.jar", "original-x.jar", "x-original.jar"]

theorem select_primary_iff_of_shaded :
    (packaged shaded).files.WellFormed ∧
      ((packaged shaded).files.nodes.map Prod.fst).Nodup ∧
        ¬Marked "x" ∧
          (select "p" (packaged shaded)).1 = .ok "p/target/x.jar" := by
  have hFiles : (packaged shaded).files.WellFormed :=
    wellFormed_packaged (by decide)
  have hNodup : shaded.Nodup := by decide
  have hUnmarked : ¬Marked "x" := by decide
  refine ⟨hFiles, nodup_packaged hNodup, hUnmarked, ?_⟩
  have hPrimary :
      "x" ++ ".jar" ∈
        archivesIn (packaged shaded).files [] "p/target" :=
    (mem_archivesIn_packaged hNodup _).mpr ⟨by decide, by decide⟩
  refine (select_primary_iff hFiles (nodup_packaged hNodup) "p"
    hPrimary fun name hMem => ?_).mpr (.inl hUnmarked)
  have hListed := ((mem_archivesIn_packaged hNodup _).mp hMem).2
  simp only [shaded, List.mem_cons, List.not_mem_nil,
    or_false] at hListed
  rcases hListed with rfl | rfl | rfl | rfl
  · exact .inr .sources
  · exact .inl rfl
  · exact .inr .unshaded
  · exact .inr .original

/- An archive whose own name is marked, and a companion of it. -/
def mistakable : List String :=
  ["resources.jar", "resources-sources.jar"]

theorem select_prefers_companion :
    (packaged mistakable).files.WellFormed ∧
      ((packaged mistakable).files.nodes.map Prod.fst).Nodup ∧
        (∀ name,
          name ∈ archivesIn (packaged mistakable).files [] "p/target" ↔
            name = "resources" ++ ".jar" ∨
              name = "resources" ++ "-sources.jar") ∧
          (select "p" (packaged mistakable)).1 =
            .ok "p/target/resources-sources.jar" := by
  have hFiles : (packaged mistakable).files.WellFormed :=
    wellFormed_packaged (by decide)
  have hNodup : mistakable.Nodup := by decide
  have hArchives :
      ∀ name,
        name ∈ archivesIn (packaged mistakable).files [] "p/target" ↔
          name = "resources" ++ ".jar" ∨
            name = "resources" ++ "-sources.jar" := by
    intro name
    rw [mem_archivesIn_packaged hNodup]
    constructor
    · rintro ⟨-, hMem⟩
      simpa [mistakable] using hMem
    · rintro (rfl | rfl)
      · exact ⟨by decide, by decide⟩
      · exact ⟨by decide, by decide⟩
  refine ⟨hFiles, nodup_packaged hNodup, hArchives, ?_⟩
  -- Both names hold "sources", so the first of them by name is taken.
  have hName : IsName "resources-sources.jar" := by decide
  refine ((selected_archivesIn hFiles (nodup_packaged hNodup)
    "p").ok_iff (fun _ => isName_of_mem_archivesIn hFiles)
      hName).mpr (.inr ?_)
  refine ⟨fun name hMem => ?_, (hArchives _).mpr (.inr rfl),
    fun name hMem => ?_⟩
  · rcases (hArchives name).mp hMem with rfl | rfl <;> decide
  · rcases (hArchives name).mp hMem with rfl | rfl <;> decide

end Artifact

end PluginStudio
