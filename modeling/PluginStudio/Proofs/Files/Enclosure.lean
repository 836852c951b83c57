import PluginStudio.Proofs.Files.Contents
import PluginStudio.Proofs.Files.Directories

/-
  Work that stays within a directory.

  Key definitions include:
    * `PluginStudio.Path.stays`
    * `PluginStudio.Path.Beneath`
    * `PluginStudio.FileSystem.Holds`
    * `PluginStudio.FileSystem.Confined`

  Main declarations:
    * `FileSystem.Holds.advance_parts`
    * `FileSystem.confined_makeDirsOn`
    * `FileSystem.confined_write`

  A directory without links is a world of its own.  Where a path
  that lies beneath it leads depends on what is inside, and
  whatever is made or written by such a path is made inside.
-/

------------------------------------------------------------
-- Paths Beneath A Path
------------------------------------------------------------

namespace PluginStudio

namespace Path

/-
  Do names stay at or below where they start, if they start a
  number of names deep?
-/
def stays : Nat → List String → Bool
  | _, [] => true
  | depth, name :: names =>
    if isVoid name then
      stays depth names
    else if name = ".." then
      match depth with
      | 0 => false
      | depth + 1 => stays depth names
    else
      stays (depth + 1) names

theorem stays_cons
    (depth : Nat)
    (name : String)
    (names : List String) :
    stays depth (name :: names) =
      if isVoid name then
        stays depth names
      else if name = ".." then
        match depth with
        | 0 => false
        | depth + 1 => stays depth names
      else
        stays (depth + 1) names := by
  cases depth <;> rfl

/- Names that stay below do so on the way. -/
theorem stays_of_append
    {depth : Nat}
    {ns ms : List String}
    (hStays : stays depth (ns ++ ms) = true) :
    stays depth ns = true := by
  induction ns generalizing depth with
  | nil => rfl
  | cons name ns ih =>
      rw [List.cons_append, stays_cons] at hStays
      rw [stays_cons]
      split_ifs at hStays ⊢ with hVoid hUp
      · exact ih hStays
      · cases depth with
        | zero => contradiction
        | succ depth => exact ih hStays
      · exact ih hStays

/- Without a way up nothing is left. -/
theorem stays_of_notMem
    (depth : Nat)
    {names : List String}
    (hUp : ".." ∉ names) :
    stays depth names = true := by
  induction names generalizing depth with
  | nil => rfl
  | cons name names ih =>
      simp only [List.mem_cons, not_or] at hUp
      rw [stays_cons, if_neg (Ne.symm hUp.1)]
      split_ifs
      · exact ih depth hUp.2
      · exact ih (depth + 1) hUp.2

/-
  A path that starts as another does and goes on from there,
  never above it.
-/
def Beneath (p root : Path) : Prop :=
  p.isAbsolute = root.isAbsolute ∧
    ∃ rest,
      rest ≠ [] ∧ p.parts = root.parts ++ rest ∧
        stays 0 rest = true

/- The parent lies beneath as well, or at the root itself. -/
theorem Beneath.parent
    {p root parent : Path}
    (hBeneath : p.Beneath root)
    (hParent : p.parent? = some parent) :
    parent.isAbsolute = root.isAbsolute ∧
      (parent.parts = root.parts ∨ parent.Beneath root) := by
  obtain ⟨hStart, rest, hNe, hParts, hStays⟩ := hBeneath
  have hStart : parent.isAbsolute = root.isAbsolute := by
    rw [isAbsolute_of_parent? hParent, hStart]
  refine ⟨hStart, ?_⟩
  obtain ⟨init, last, rfl⟩ : ∃ init last, rest = init ++ [last] := by
    rcases List.eq_nil_or_concat rest with h | ⟨init, last, h⟩
    · exact absurd h hNe
    · exact ⟨init, last, by rw [h, List.concat_eq_append]⟩
  have hInit : parent.parts = root.parts ++ init := by
    rcases parts_of_parent? hParent with ⟨name, hName⟩ | ⟨hNil, -⟩
    · rw [hName, ← List.append_assoc] at hParts
      exact (List.append_inj' hParts rfl).1
    · rw [hNil] at hParts
      simp at hParts
  by_cases hEmpty : init = []
  · exact Or.inl (by rw [hInit, hEmpty, List.append_nil])
  · exact Or.inr ⟨hStart, init, hEmpty, hInit,
      stays_of_append hStays⟩

end Path

end PluginStudio

------------------------------------------------------------
-- Ways Beneath A Directory
------------------------------------------------------------

namespace PluginStudio

namespace FileSystem

/-
  A path leads to a directory, and the given nodes stand below
  it.
-/
structure Holds
    (fs : FileSystem)
    (dir : Place)
    (root : Path)
    (place : Place)
    (contents : FileSystem) : Prop where
  reach : ∃ links, fs.reach dir root = .ok (place, links)
  node : fs.node? place = some (.directory dirMode)
  inside : fs.inside place = contents

namespace Holds

variable {fs contents : FileSystem} {dir place : Place} {root : Path}

theorem node?
    (hHolds : fs.Holds dir root place contents)
    (r : Place) :
    fs.node? (place ++ r) = contents.node? r := by
  by_cases hNe : r = []
  · rw [hNe, List.append_nil, hHolds.node]
    rfl
  · rw [← hHolds.inside, node?_inside _ _ hNe]

/- A name leads below the directory as it does inside. -/
theorem stride
    (hHolds : fs.Holds dir root place contents)
    (hPlain : contents.Plain)
    {r : Place}
    {name : String}
    {names : List String}
    (hStays : Path.stays r.length (name :: names) = true) :
    (∃ errno,
        contents.stride r name = .halt errno ∧
          fs.stride (place ++ r) name = .halt errno) ∨
      ∃ q,
        contents.stride r name = .pass q ∧
          fs.stride (place ++ r) name = .pass (place ++ q) ∧
            Path.stays q.length names = true := by
  have hNode := hHolds.node?
  rw [Path.stays_cons] at hStays
  cases hR : contents.node? r with
  | none =>
      exact Or.inl ⟨_, stride_of_absent hR name,
        stride_of_absent (by rw [hNode, hR]) name⟩
  | some node =>
      cases hDir : node.isDirectory with
      | false =>
          exact Or.inl ⟨_, stride_of_not_directory hR hDir name,
            stride_of_not_directory (by rw [hNode, hR]) hDir name⟩
      | true =>
          obtain ⟨mode, rfl⟩ : ∃ mode, node = .directory mode := by
            cases node <;> simp [Node.isDirectory] at hDir ⊢
          have hPR : fs.node? (place ++ r) = some (.directory mode) := by
            rw [hNode, hR]
          by_cases hVoid : Path.isVoid name = true
          · rw [if_pos hVoid] at hStays
            exact Or.inr ⟨r, stride_void hR hVoid,
              stride_void hPR hVoid, hStays⟩
          rw [if_neg hVoid] at hStays
          by_cases hUp : name = ".."
          · rw [if_pos hUp] at hStays
            subst hUp
            rcases List.eq_nil_or_concat r with rfl | ⟨q, last, hQ⟩
            · contradiction
            · rw [List.concat_eq_append] at hQ
              subst hQ
              refine Or.inr ⟨q, ?_, ?_, by simpa using hStays⟩
              · rw [stride_up hR, List.dropLast_concat]
              · rw [stride_up hPR, ← List.append_assoc,
                  List.dropLast_concat]
          · rw [if_neg hUp] at hStays
            simp only [Bool.not_eq_true] at hVoid
            rw [stride_name hR hVoid hUp, stride_name hPR hVoid hUp]
            by_cases hLong : Path.longestName < name.length
            · exact Or.inl ⟨.nameTooLong, by simp [hLong]⟩
            simp only [hLong, if_false, List.append_assoc, hNode]
            cases hEnd : contents.node? (r ++ [name]) with
            | none => exact Or.inl ⟨.noEntry, rfl, rfl⟩
            | some node =>
                cases node with
                | link target => exact absurd hEnd (hPlain _ _)
                | _ =>
                    exact Or.inr ⟨r ++ [name], rfl, rfl,
                      by simpa using hStays⟩

/- Names that stay below lead where they lead inside. -/
theorem advance
    (hHolds : fs.Holds dir root place contents)
    (hPlain : contents.Plain)
    (links : Nat)
    {r : Place}
    {names : List String}
    (hStays : Path.stays r.length names = true) :
    fs.advance links (place ++ r) names =
      match contents.advance 0 r names with
      | .error errno => .error errno
      | .ok (q, _) => .ok (place ++ q, links) := by
  induction names generalizing r with
  | nil =>
      rw [advance_nil, advance_nil, hHolds.node?]
      cases contents.node? r with
      | none => rfl
      | some node => cases hDir : node.isDirectory <;> simp [hDir]
  | cons name names ih =>
      rw [advance_cons, advance_cons]
      rcases hHolds.stride hPlain hStays with
        ⟨errno, hInside, hHere⟩ | ⟨q, hInside, hHere, hRest⟩
      · rw [hInside, hHere]
      · rw [hInside, hHere]
        exact ih hRest

/-
  Where a path beneath the directory leads depends on what is
  inside.
-/
theorem advance_parts
    (hHolds : fs.Holds dir root place contents)
    (hPlain : contents.Plain)
    {names rest : List String}
    (hNames :
      (names.filter fun name => !Path.isVoid name) =
        root.parts ++ rest)
    (hStays : Path.stays 0 rest = true) :
    ∃ links,
      fs.advance mostLinks (startOf dir root) names =
        match contents.advance 0 [] rest with
        | .error errno => .error errno
        | .ok (q, _) => .ok (place ++ q, links) := by
  obtain ⟨links, hReach⟩ := hHolds.reach
  rw [reach_eq_parts] at hReach
  refine ⟨links, ?_⟩
  have hRest := hHolds.advance hPlain links (r := []) hStays
  rw [List.append_nil] at hRest
  rw [advance_filter, hNames, advance_append, hReach]
  exact hRest

end Holds

end FileSystem

end PluginStudio

------------------------------------------------------------
-- Confined Work
------------------------------------------------------------

namespace PluginStudio

namespace FileSystem

/- All ways are kept, and nothing changes outside of a place. -/
structure Inner
    (place : Place)
    (fs fs' : FileSystem) : Prop where
  keeps : fs'.Keeps fs
  outside : ∀ q, ¬ place <+: q → fs'.node? q = fs.node? q

namespace Inner

variable {place : Place} {fs fs' fs'' : FileSystem}

theorem refl
    (place : Place)
    (fs : FileSystem) :
    Inner place fs fs :=
  ⟨Keeps.refl fs, fun _ _ => rfl⟩

theorem trans
    (hFirst : Inner place fs fs')
    (hNext : Inner place fs' fs'') :
    Inner place fs fs'' :=
  ⟨hNext.keeps.trans hFirst.keeps, fun q hOut => by
    rw [hNext.outside q hOut, hFirst.outside q hOut]⟩

end Inner

/- A file system with a directory that holds given nodes. -/
structure Home
    (root : Path)
    (contents : FileSystem) where
  files : FileSystem
  dir : Place
  place : Place
  holds : files.Holds dir root place contents

/-
  Work whose result and whose effect inside a directory depend
  on what is inside, and which has no effect elsewhere.
-/
def Confined
    {α : Type}
    (root : Path)
    (contents : FileSystem)
    (work : FileSystem → Place → Steps α) : Prop :=
  ∃ result contents',
    contents'.Plain ∧
      ∀ home : Home root contents,
        (work home.files home.dir).1 = result ∧
          (work home.files home.dir).2.Holds home.dir root
              home.place contents' ∧
            Inner home.place home.files
              (work home.files home.dir).2

variable {root p : Path} {contents : FileSystem}

/- Something new inside, or a file there in place of another. -/
theorem Holds.put
    {fs : FileSystem}
    {dir place : Place}
    (hHolds : fs.Holds dir root place contents)
    {r : Place}
    (hNe : r ≠ [])
    (node : Node)
    (hOld :
      ∀ old, contents.node? r = some old →
        old.isDirectory = false ∧ ∀ target, old ≠ .link target) :
    (fs.put (place ++ r) node).Holds dir root place
        (contents.put r node) ∧
      Inner place fs (fs.put (place ++ r) node) := by
  have hPlace : place ++ r ≠ [] := by simp [hNe]
  have hKeeps : (fs.put (place ++ r) node).Keeps fs := by
    apply Keeps.put hPlace
    rw [hHolds.node?]
    exact hOld
  refine ⟨⟨?_, ?_, ?_⟩, hKeeps, ?_⟩
  · obtain ⟨links, hReach⟩ := hHolds.reach
    exact ⟨links, reach_of_keeps hKeeps hReach⟩
  · exact hKeeps.directory hHolds.node
  · rw [inside_put _ _ hNe, hHolds.inside]
  · intro q hOut
    rw [node?_put _ hPlace, if_neg]
    rintro rfl
    exact hOut (List.prefix_append _ _)

/- The names of a path beneath another, up to the last. -/
private theorem names_beneath
    (hBeneath : p.Beneath root) :
    ∃ ns name rest,
      p.names = ns ++ [name] ∧
        (ns.filter fun name => !Path.isVoid name) =
            root.parts ++ rest ∧
          Path.stays 0 rest = true := by
  obtain ⟨-, rest, hNe, hParts, hStays⟩ := hBeneath
  rw [Path.parts_eq_filter_names] at hParts
  rcases List.eq_nil_or_concat p.names with
    hNames | ⟨ns, name, hNames⟩
  · simp [hNames, hNe] at hParts
  rw [List.concat_eq_append] at hNames
  rw [hNames, List.filter_append] at hParts
  by_cases hDot : name = "."
  · refine ⟨ns, name, rest, hNames, ?_, hStays⟩
    simpa [hDot, Path.isVoid] using hParts
  · obtain ⟨init, last, rfl⟩ :
        ∃ init last, rest = init ++ [last] := by
      rcases List.eq_nil_or_concat rest with h | ⟨init, last, h⟩
      · exact absurd h hNe
      · exact ⟨init, last, by rw [h, List.concat_eq_append]⟩
    have hVoid : Path.isVoid name = false := by
      have hMem : name ∈ p.names := by simp [hNames]
      simp [Path.isVoid, hDot, Path.ne_empty_of_mem_names hMem]
    refine ⟨ns, name, init, hNames, ?_,
      Path.stays_of_append hStays⟩
    rw [List.filter_cons_of_pos (by simp [hVoid]),
      List.filter_nil, ← List.append_assoc] at hParts
    exact (List.append_inj' hParts rfl).1

/-
  The directory of the last name of a path beneath another is
  found inside, or missed for a reason inside.
-/
private theorem advance_beneath
    (hPlain : contents.Plain)
    (hBeneath : p.Beneath root) :
    ∃ ns name,
      p.names = ns ++ [name] ∧
        ((∃ errno,
            ∀ home : Home root contents,
              home.files.advance mostLinks (startOf home.dir p) ns =
                .error errno) ∨
          ∃ q,
            ∀ home : Home root contents,
              ∃ links,
                home.files.advance mostLinks (startOf home.dir p)
                    ns =
                  .ok (home.place ++ q, links)) := by
  obtain ⟨ns, name, rest, hNames, hFilter, hStays⟩ :=
    names_beneath hBeneath
  refine ⟨ns, name, hNames, ?_⟩
  have hAdvance :
      ∀ home : Home root contents,
        ∃ links,
          home.files.advance mostLinks (startOf home.dir p) ns =
            match contents.advance 0 [] rest with
            | .error errno => .error errno
            | .ok (q, _) => .ok (home.place ++ q, links) := by
    intro home
    rw [startOf, hBeneath.1, ← startOf]
    exact home.holds.advance_parts hPlain hFilter hStays
  rcases hInside : contents.advance 0 [] rest with errno | ⟨q, l⟩
  · rw [hInside] at hAdvance
    exact Or.inl ⟨errno, fun home => (hAdvance home).choose_spec⟩
  · rw [hInside] at hAdvance
    exact Or.inr ⟨q, hAdvance⟩

/- A new entry beneath a directory is refused or put inside. -/
theorem create_beneath
    (hPlain : contents.Plain)
    (hBeneath : p.Beneath root)
    (node : Node) :
    (∃ fault,
        ∀ home : Home root contents,
          home.files.create home.dir p node = .error fault) ∨
      ∃ r,
        r ≠ [] ∧ contents.node? r = none ∧
          ∀ home : Home root contents,
            home.files.create home.dir p node =
              .ok (home.files.put (home.place ++ r) node) := by
  cases hCheck : p.check with
  | error fault =>
      refine Or.inl ⟨fault, fun home => ?_⟩
      simp [create, locate, hCheck, bind, Except.bind]
  | ok u =>
      obtain ⟨ns, name, hNames, hWay⟩ :=
        advance_beneath hPlain hBeneath
      rcases hWay with ⟨errno, hWay⟩ | ⟨q, hWay⟩
      · refine Or.inl ⟨.system errno, fun home => ?_⟩
        rw [create, locate_eq hCheck hNames, hWay home]
        rfl
      by_cases hName : name = "." ∨ name = ".."
      · refine Or.inl ⟨.system .alreadyExists, fun home => ?_⟩
        obtain ⟨links, hWay⟩ := hWay home
        rw [create, locate_eq hCheck hNames, hWay]
        rcases hName with rfl | rfl <;> rfl
      have hMem : name ∈ p.names := by simp [hNames]
      have hName : Path.IsName name :=
        ⟨Path.ne_empty_of_mem_names hMem, fun h => hName (Or.inl h),
          fun h => hName (Or.inr h),
          Path.slash_notMem_of_mem_names hMem⟩
      have hCreate :
          ∀ home : Home root contents,
            home.files.create home.dir p node =
              if Path.longestName < name.length then
                refuse .nameTooLong
              else if (contents.node? (q ++ [name])).isSome then
                refuse .alreadyExists
              else if p.endsWithSlash && !node.isDirectory then
                refuse .noEntry
              else
                .ok
                  (home.files.put (home.place ++ (q ++ [name]))
                    node) := by
        intro home
        obtain ⟨links, hWay⟩ := hWay home
        rw [create_of_entry
          ⟨hCheck, hName, ns, links, hNames, hWay⟩,
          List.append_assoc, home.holds.node?]
      split_ifs at hCreate with hLong hSome hSlash
      · exact Or.inl ⟨_, hCreate⟩
      · exact Or.inl ⟨_, hCreate⟩
      · exact Or.inl ⟨_, hCreate⟩
      · exact Or.inr ⟨q ++ [name], by simp, by simpa using hSome,
          hCreate⟩

/- A path with the parts of the root leads where the root does. -/
theorem Home.reach
    (home : Home root contents)
    (hStart : p.isAbsolute = root.isAbsolute)
    (hParts : p.parts = root.parts) :
    ∃ links,
      home.files.reach home.dir p = .ok (home.place, links) := by
  obtain ⟨links, hReach⟩ := home.holds.reach
  refine ⟨links, ?_⟩
  rw [reach_eq_parts, hParts, startOf, hStart, ← startOf,
    ← reach_eq_parts, hReach]

/- Whether a directory is there depends on what is inside. -/
theorem isThere_beneath
    (hPlain : contents.Plain)
    (hBeneath : p.Beneath root)
    (fault : IoFault) :
    ∃ there,
      ∀ home : Home root contents,
        home.files.isThere home.dir p fault = there := by
  obtain ⟨hStart, rest, -, hParts, hStays⟩ := hBeneath
  have hReach :
      ∀ home : Home root contents,
        (∃ r, home.files.reach home.dir p = .ok r) ↔
          ∃ r, contents.advance 0 [] rest = .ok r := by
    intro home
    have hFilter :
        (p.parts.filter fun name => !Path.isVoid name) =
          root.parts ++ rest := by
      rw [Path.parts_eq_filter_segments, List.filter_filter,
        ← hParts, Path.parts_eq_filter_segments]
      simp
    obtain ⟨links, hAdvance⟩ :=
      home.holds.advance_parts hPlain hFilter hStays
    rw [reach_eq_parts, startOf, hStart, ← startOf, hAdvance]
    rcases contents.advance 0 [] rest with errno | ⟨q, l⟩ <;> simp
  by_cases hInside : ∃ r, contents.advance 0 [] rest = .ok r
  · by_cases hRest :
        fault = .system .alreadyExists ∧ p.check = .ok ()
    · refine ⟨true, fun home => ?_⟩
      simp only [isThere, hRest.1, decide_true, Bool.true_and]
      exact names_isDirectory_iff.mpr
        ⟨hRest.2, (hReach home).mpr hInside⟩
    · refine ⟨false, fun home => ?_⟩
      rw [isThere, Bool.and_eq_false_iff]
      by_cases hFault : fault = .system .alreadyExists
      · right
        rw [← Bool.not_eq_true, names_isDirectory_iff]
        exact fun h => hRest ⟨hFault, h.1⟩
      · left
        simpa using hFault
  · refine ⟨false, fun home => ?_⟩
    rw [isThere, Bool.and_eq_false_iff]
    right
    rw [← Bool.not_eq_true, names_isDirectory_iff]
    exact fun h => hInside ((hReach home).mp h.2)

end FileSystem

end PluginStudio

------------------------------------------------------------
-- Directories And Files Beneath
------------------------------------------------------------

namespace PluginStudio

namespace FileSystem

variable {root p : Path} {contents : FileSystem}

namespace Confined

/- Work that changes nothing. -/
theorem of_same
    {α : Type}
    {work : FileSystem → Place → Steps α}
    (hPlain : contents.Plain)
    (result : Except IoFault α)
    (hWork :
      ∀ home : Home root contents,
        work home.files home.dir = (result, home.files)) :
    Confined root contents work := by
  refine ⟨result, contents, hPlain, fun home => ?_⟩
  rw [hWork home]
  exact ⟨rfl, home.holds, Inner.refl _ _⟩

/- Work that puts one node inside. -/
theorem of_put
    {α : Type}
    {work : FileSystem → Place → Steps α}
    (hPlain : contents.Plain)
    {r : Place}
    (hNe : r ≠ [])
    (node : Node)
    (hNode : ∀ target, node ≠ .link target)
    (hOld :
      ∀ old, contents.node? r = some old →
        old.isDirectory = false ∧ ∀ target, old ≠ .link target)
    (result : Except IoFault α)
    (hWork :
      ∀ home : Home root contents,
        work home.files home.dir =
          (result, home.files.put (home.place ++ r) node)) :
    Confined root contents work := by
  refine ⟨result, contents.put r node, hPlain.put hNe hNode,
    fun home => ?_⟩
  rw [hWork home]
  exact ⟨rfl, home.holds.put hNe node hOld⟩

theorem congr
    {α : Type}
    {work work' : FileSystem → Place → Steps α}
    (hWork : Confined root contents work)
    (hSame :
      ∀ home : Home root contents,
        work' home.files home.dir = work home.files home.dir) :
    Confined root contents work' := by
  obtain ⟨result, contents', hPlain, hRun⟩ := hWork
  refine ⟨result, contents', hPlain, fun home => ?_⟩
  rw [hSame home]
  exact hRun home

/- Work that goes on as long as nothing fails. -/
theorem andThen
    {α β : Type}
    {work : FileSystem → Place → Steps α}
    {next : FileSystem → Place → Steps β}
    (hWork : Confined root contents work)
    (hNext :
      ∀ {contents' : FileSystem},
        contents'.Plain → Confined root contents' next) :
    Confined root contents fun fs dir =>
      match work fs dir with
      | (.ok _, fs') => next fs' dir
      | (.error fault, fs') => (.error fault, fs') := by
  obtain ⟨result, contents', hPlain, hRun⟩ := hWork
  cases result with
  | error fault =>
      refine ⟨.error fault, contents', hPlain, fun home => ?_⟩
      obtain ⟨hResult, hHolds, hInner⟩ := hRun home
      rcases hMade : work home.files home.dir with ⟨made, files⟩
      rw [hMade] at hResult hHolds hInner
      simp only at hResult hHolds hInner
      simp only [hMade, hResult]
      exact ⟨trivial, hHolds, hInner⟩
  | ok a =>
      obtain ⟨result, contents'', hPlain', hLast⟩ := hNext hPlain
      refine ⟨result, contents'', hPlain', fun home => ?_⟩
      obtain ⟨hResult, hHolds, hInner⟩ := hRun home
      rcases hMade : work home.files home.dir with ⟨made, files⟩
      rw [hMade] at hResult hHolds hInner
      simp only at hResult hHolds hInner
      obtain ⟨hResult', hHolds', hInner'⟩ :=
        hLast ⟨files, home.dir, home.place, hHolds⟩
      simp only [hMade, hResult]
      exact ⟨hResult', hHolds', hInner.trans hInner'⟩

end Confined

/- A single directory beneath another. -/
theorem confined_ensureDir
    (hPlain : contents.Plain)
    (hBeneath : p.Beneath root) :
    Confined root contents fun fs dir => fs.ensureDir dir p := by
  rcases create_beneath hPlain hBeneath (.directory dirMode) with
    ⟨fault, hMake⟩ | ⟨r, hNe, hFree, hMake⟩
  · obtain ⟨there, hThere⟩ := isThere_beneath hPlain hBeneath fault
    refine .of_same hPlain
      (if there then .ok () else .error fault) fun home => ?_
    have hMake : home.files.makeDir home.dir p = .error fault :=
      hMake home
    rw [ensureDir, hMake]
    simp only [hThere home]
    cases there <;> rfl
  · refine .of_put hPlain hNe (.directory dirMode) (by simp)
      (by simp [hFree]) (.ok ()) fun home => ?_
    have hMake : home.files.makeDir home.dir p = .ok _ := hMake home
    rw [ensureDir, hMake]

/- A path is missing for what it says only if it says nothing. -/
theorem isNotFound_of_check
    {fault : IoFault}
    (hNe : p ≠ "")
    (hCheck : p.check = .error fault) :
    fault.isNotFound = false ∧ fault ≠ .system .alreadyExists := by
  rw [Path.check, if_neg hNe] at hCheck
  split_ifs at hCheck
  · rw [← Except.error.inj hCheck]
    exact ⟨rfl, by simp⟩
  · rw [← Except.error.inj hCheck]
    exact ⟨rfl, by simp [Errno.nameTooLong, Errno.alreadyExists]⟩

/- The directory itself is there. -/
private theorem confined_makeDirsOn_root
    (hPlain : contents.Plain)
    (hStart : p.isAbsolute = root.isAbsolute)
    (hParts : p.parts = root.parts)
    (hNe : p ≠ "")
    (more : Nat) :
    Confined root contents fun fs dir =>
      fs.makeDirsOn dir (p.ancestorsWithin more) := by
  have hList :
      p.ancestorsWithin more = [] ∨
        ∃ rest, p.ancestorsWithin more = p :: rest := by
    cases more with
    | zero => exact Or.inl rfl
    | succ more =>
        rw [Path.ancestorsWithin]
        cases p.parent? with
        | none => exact Or.inl rfl
        | some parent =>
            right
            by_cases hEmpty : parent = "" <;> simp [hEmpty]
  rcases hList with hNil | ⟨rest, hCons⟩
  · rw [hNil]
    exact .of_same hPlain (.ok ()) fun home => rfl
  rw [hCons]
  cases hCheck : p.check with
  | error fault =>
      obtain ⟨hMissing, hExists⟩ := isNotFound_of_check hNe hCheck
      refine .of_same hPlain (.error fault) fun home => ?_
      have hMake :
          home.files.makeDir home.dir p = .error fault := by
        simp [makeDir, create, locate, hCheck, bind, Except.bind]
      rw [makeDirsOn, hMake]
      simp [hMissing, isThere, hExists]
  | ok u =>
      refine .of_same hPlain (.ok ()) fun home => ?_
      obtain ⟨links, hReach⟩ := home.reach hStart hParts
      have hMake :
          home.files.makeDir home.dir p =
            .error (.system .alreadyExists) :=
        create_of_reach hCheck hReach _
      have hThere :
          home.files.names home.dir Node.isDirectory p = true :=
        names_isDirectory_iff.mpr ⟨hCheck, _, hReach⟩
      rw [makeDirsOn, hMake]
      simp [IoFault.isNotFound, Errno.noEntry, Errno.alreadyExists,
        isThere, hThere]

/-
  Once the parents of a missing directory are made, it is made
  as well.
-/
private theorem confined_makeDirsOn_cons
    (hPlain : contents.Plain)
    (hBeneath : p.Beneath root)
    {rest : List Path}
    (hRest :
      Confined root contents fun fs dir => fs.makeDirsOn dir rest) :
    Confined root contents fun fs dir =>
      fs.makeDirsOn dir (p :: rest) := by
  rcases create_beneath hPlain hBeneath (.directory dirMode) with
    ⟨fault, hMake⟩ | ⟨r, hNe, hFree, hMake⟩
  · have hMake :
        ∀ home : Home root contents,
          home.files.makeDir home.dir p = .error fault := hMake
    cases hMissing : fault.isNotFound with
    | false =>
        obtain ⟨there, hThere⟩ :=
          isThere_beneath hPlain hBeneath fault
        refine .of_same hPlain
          (if there then .ok () else .error fault) fun home => ?_
        simp only [makeDirsOn, hMake home, hMissing, hThere home]
        cases there <;> rfl
    | true =>
        have hBoth := hRest.andThen fun hPlain' =>
          confined_ensureDir hPlain' hBeneath
        refine hBoth.congr fun home => ?_
        simp only [makeDirsOn, hMake home, hMissing, if_true]
        rcases home.files.makeDirsOn home.dir rest with
          ⟨fault' | _, files⟩ <;> rfl
  · refine .of_put hPlain hNe (.directory dirMode) (by simp)
      (by simp [hFree]) (.ok ()) fun home => ?_
    have hMake : home.files.makeDir home.dir p = .ok _ := hMake home
    rw [makeDirsOn, hMake]

/- A directory beneath another, with all between them. -/
theorem confined_makeDirsOn
    (hPlain : contents.Plain)
    (hBeneath : p.Beneath root)
    (more : Nat) :
    Confined root contents fun fs dir =>
      fs.makeDirsOn dir (p.ancestorsWithin more) := by
  induction more generalizing p with
  | zero => exact .of_same hPlain (.ok ()) fun home => rfl
  | succ more ih =>
      rw [Path.ancestorsWithin]
      cases hParent : p.parent? with
      | none => exact .of_same hPlain (.ok ()) fun home => rfl
      | some parent =>
          simp only
          split_ifs with hEmpty
          · exact confined_makeDirsOn_cons hPlain hBeneath
              (.of_same hPlain (.ok ()) fun home => rfl)
          · apply confined_makeDirsOn_cons hPlain hBeneath
            obtain ⟨hStart, hParts | hAbove⟩ :=
              hBeneath.parent hParent
            · exact confined_makeDirsOn_root hPlain hStart hParts
                hEmpty more
            · exact ih hAbove

/-
  A file to write beneath a directory is found inside, or
  missed for a reason inside.
-/
private theorem resolve_beneath
    (hPlain : contents.Plain)
    (hBeneath : p.Beneath root)
    (hSlash : p.endsWithSlash = false)
    {last : String}
    (hLast : p.names.getLast? = some last)
    (hName : Path.IsName last) :
    (∃ fault,
        ∀ home : Home root contents,
          home.files.resolve home.dir .output p = .error fault) ∨
      (∃ q,
        contents.node? (q ++ [last]) = none ∧
          ∀ home : Home root contents,
            home.files.resolve home.dir .output p =
              .ok (.vacant (home.place ++ q) last)) ∨
      ∃ q node,
        contents.node? (q ++ [last]) = some node ∧
          ∀ home : Home root contents,
            home.files.resolve home.dir .output p =
              .ok (.found (home.place ++ (q ++ [last])) node) := by
  cases hCheck : p.check with
  | error fault =>
      refine Or.inl ⟨fault, fun home => ?_⟩
      simp [resolve, hCheck, bind, Except.bind]
  | ok u =>
      obtain ⟨ns, name, hNames, hWay⟩ :=
        advance_beneath hPlain hBeneath
      rw [hNames, List.getLast?_concat, Option.some.injEq] at hLast
      subst hLast
      have hResolve :
          ∀ home : Home root contents,
            home.files.resolve home.dir .output p =
              liftErrno
                (home.files.walk .output mostLinks
                  (startOf home.dir p) (ns ++ [name])) := by
        intro home
        have hSteps : p.steps = ns ++ [name] := by
          simp [Path.steps, hSlash, hNames]
        rw [resolve, hCheck, hSteps]
        rfl
      rcases hWay with ⟨errno, hWay⟩ | ⟨q, hWay⟩
      · refine Or.inl ⟨.system errno, fun home => ?_⟩
        rw [hResolve, walk_append (by simp) (by simp [hName.1]),
          hWay home]
        rfl
      have hWalk :
          ∀ home : Home root contents,
            home.files.resolve home.dir .output p =
              if Path.longestName < name.length then
                .error (.system .nameTooLong)
              else
                (contents.node? (q ++ [name])).elim
                  (.ok (.vacant (home.place ++ q) name))
                  fun node =>
                    .ok
                      (.found (home.place ++ (q ++ [name]))
                        node) := by
        intro home
        obtain ⟨links, hWay⟩ := hWay home
        obtain ⟨mode, hDir⟩ := directory_of_advance hWay
        rw [hResolve, walk_append (by simp) (by simp [hName.1]),
          hWay]
        simp only
        rw [walk_last hDir (isVoid_eq_false_of_isName hName)
          hName.2.2.1, List.append_assoc, home.holds.node?]
        by_cases hLong : Path.longestName < name.length
        · simp [hLong, liftErrno]
        simp only [hLong, if_false]
        cases hEnd : contents.node? (q ++ [name]) with
        | none => rfl
        | some node =>
            cases node with
            | link target => exact absurd hEnd (hPlain _ _)
            | _ => rfl
      split_ifs at hWalk with hLong
      · exact Or.inl ⟨_, hWalk⟩
      · cases hEnd : contents.node? (q ++ [name]) with
        | none =>
            rw [hEnd] at hWalk
            exact Or.inr (Or.inl ⟨q, hEnd, hWalk⟩)
        | some node =>
            rw [hEnd] at hWalk
            exact Or.inr (Or.inr ⟨q, node, hEnd, hWalk⟩)

/- A file beneath a directory. -/
theorem confined_write
    (hPlain : contents.Plain)
    (hBeneath : p.Beneath root)
    (hEnds : p.EndsInName)
    (content : Bytes) :
    Confined root contents fun fs dir =>
      fs.step (fs.write dir p content) := by
  obtain ⟨hSlash, last, hLast, hName⟩ := hEnds
  rcases resolve_beneath hPlain hBeneath hSlash hLast hName with
    ⟨fault, hResolve⟩ | ⟨q, hFree, hResolve⟩ | ⟨q, node, hNode, hResolve⟩
  · refine .of_same hPlain (.error fault) fun home => ?_
    simp [step, write, openToWrite, hResolve home, bind, Except.bind]
  · refine .of_put hPlain (r := q ++ [last]) (by simp)
      (.file fileMode content) (by simp) (by simp [hFree]) (.ok ())
      fun home => ?_
    simp [step, write, openToWrite, hResolve home, bind, Except.bind,
      withRoom, pure, Except.pure, node?_put]
  · cases node with
    | file mode old =>
        refine .of_put hPlain (r := q ++ [last]) (by simp)
          (.file mode content) (by simp) ?_ (.ok ()) fun home => ?_
        · simp [hNode, Node.isDirectory]
        · simp [step, write, openToWrite, hResolve home, bind,
            Except.bind, withRoom, pure, Except.pure, node?_put]
    | device device =>
        refine .of_same hPlain
          (if device = .terminal then refuse .noDevice
            else if device = .full ∧ content ≠ [] then
              refuse .noSpace
            else .ok ()) fun home => ?_
        have hHere :
            home.files.node? (home.place ++ (q ++ [last])) =
              some (.device device) := by
          rw [home.holds.node?, hNode]
        cases device <;> cases content <;>
          simp [step, write, openToWrite, hResolve home, bind,
            Except.bind, withRoom, pure, Except.pure, hHere, refuse]
    | _ =>
        refine .of_same hPlain (refuse .isDirectory) fun home => ?_
        simp [step, write, openToWrite, hResolve home, bind,
          Except.bind, refuse]

end FileSystem

end PluginStudio
