import PluginStudio.Proofs.Files.Changes

/-
  Where a path leads in file systems that differ.

  Key definitions include:
    * `PluginStudio.FileSystem.Includes`
    * `PluginStudio.FileSystem.Agrees`
    * `PluginStudio.FileSystem.Moved`
    * `PluginStudio.FileSystem.Crossed`

  Main declarations:
    * `FileSystem.stat_of_includes`
    * `FileSystem.exists_entry_stat`
    * `FileSystem.Entry.of_stat`, `FileSystem.place_of_stat`
    * `FileSystem.advance_of_agrees`
    * `FileSystem.moved_of_rename`, `FileSystem.Moved.absent`

  What a path finds with less around it, it finds with more.  Two
  file systems that have the same kinds of ways lead a path to one
  place, and a path that led to something which was moved away
  leads to nothing, unless its way was changed by the move.
-/

------------------------------------------------------------
-- Less And More
------------------------------------------------------------

namespace PluginStudio

namespace FileSystem

/- All nodes of one file system are in the other. -/
def Includes (larger smaller : FileSystem) : Prop :=
  ∀ ⦃place : Place⦄ ⦃node : Node⦄,
    smaller.node? place = some node → larger.node? place = some node

variable {larger smaller fs : FileSystem}

theorem Includes.keeps
    (hIncludes : larger.Includes smaller) :
    larger.Keeps smaller :=
  fun _ _ hNode _ => hIncludes hNode

theorem includes_erase
    (fs : FileSystem)
    {place : Place}
    (hPlace : place ≠ []) :
    fs.Includes (fs.erase place) := by
  intro q node hNode
  rw [node?_erase _ hPlace] at hNode
  split_ifs at hNode
  exact hNode

/- A name that leads somewhere leads there with more around it. -/
theorem stride_of_includes
    (hIncludes : larger.Includes smaller)
    {place : Place}
    {name : String}
    (hHalt : ∀ errno, smaller.stride place name ≠ .halt errno) :
    larger.stride place name = smaller.stride place name := by
  rcases directory_of_stride hHalt with ⟨mode, hPlace⟩
  have hLarge := hIncludes hPlace
  by_cases hVoid : Path.isVoid name = true
  · rw [stride_void hPlace hVoid, stride_void hLarge hVoid]
  by_cases hUp : name = ".."
  · rw [hUp, stride_up hPlace, stride_up hLarge]
  rw [Bool.not_eq_true] at hVoid
  rw [stride_name hPlace hVoid hUp] at hHalt ⊢
  rw [stride_name hLarge hVoid hUp]
  by_cases hLong : Path.longestName < name.length
  · rw [if_pos hLong, if_pos hLong]
  rw [if_neg hLong] at hHalt ⊢
  rw [if_neg hLong]
  cases hNode : smaller.node? (place ++ [name]) with
  | none => simp [hNode] at hHalt
  | some node => rw [hIncludes hNode]

/- So does a walk. -/
theorem walk_of_includes
    (hIncludes : larger.Includes smaller)
    {aim : Aim}
    (hAim : aim ≠ .output)
    {links : Nat}
    {place q : Place}
    {names : List String}
    {node : Node}
    (hOk : smaller.walk aim links place names = .ok (.found q node)) :
    larger.walk aim links place names = .ok (.found q node) := by
  induction links, place, names using walk_induction with
  | step links place names ihLinks ihNames =>
      cases names with
      | nil =>
          rw [walk_nil] at hOk ⊢
          cases hPlace : smaller.node? place with
          | none => simp [hPlace] at hOk
          | some old =>
              rw [hPlace] at hOk
              rw [hIncludes hPlace, ← hOk]
      | cons name names =>
          rcases directory_of_walk hOk with ⟨mode, hPlace⟩
          have hLarge := hIncludes hPlace
          have ihNames := fun p => ihNames p names (by simp)
          by_cases hVoid : Path.isVoid name = true
          · rw [walk_void hPlace hVoid] at hOk
            rw [walk_void hLarge hVoid]
            exact ihNames place hOk
          by_cases hUp : name = ".."
          · rw [hUp, walk_up hPlace] at hOk
            rw [hUp, walk_up hLarge]
            exact ihNames place.dropLast hOk
          rw [Bool.not_eq_true] at hVoid
          by_cases hMore : names = []
          · subst hMore
            rw [walk_last hPlace hVoid hUp] at hOk
            rw [walk_last hLarge hVoid hUp]
            by_cases hLong : Path.longestName < name.length
            · rw [if_pos hLong] at hOk
              contradiction
            rw [if_neg hLong] at hOk ⊢
            cases hNode : smaller.node? (place ++ [name]) with
            | none => simp [hNode] at hOk
            | some old =>
                rw [hNode] at hOk
                rw [hIncludes hNode]
                cases old with
                | link target =>
                    cases links with
                    | zero => exact hOk
                    | succ l =>
                        by_cases hEntry : aim = .entry
                        · simpa only [hEntry, if_true] using hOk
                        · simp only [hEntry, if_false] at hOk ⊢
                          exact ihLinks l _ _ (by omega) hOk
                | _ => exact hOk
          · have hSlash : aim = .output → names ≠ [""] :=
              fun hOutput => absurd hOutput hAim
            rw [walk_cons hMore hSlash] at hOk ⊢
            have hSame :
                larger.stride place name =
                  smaller.stride place name := by
              apply stride_of_includes hIncludes
              intro errno hHalt
              simp [hHalt] at hOk
            rw [hSame]
            cases hStride : smaller.stride place name with
            | halt errno => simp [hStride] at hOk
            | pass p =>
                rw [hStride] at hOk
                exact ihNames p hOk
            | turn p more =>
                rw [hStride] at hOk
                cases links with
                | zero => contradiction
                | succ l =>
                    exact ihLinks l p (more ++ names) (by omega) hOk

/- What a path finds, it finds with more around it. -/
theorem stat_of_includes
    (hIncludes : larger.Includes smaller)
    {dir : Place}
    {follow : Bool}
    {p : Path}
    {r : Place × Node}
    (hStat : smaller.stat dir follow p = .ok r) :
    larger.stat dir follow p = .ok r := by
  rcases stat_eq_ok_iff.mp hStat with ⟨hCheck, hWalk⟩
  exact stat_eq_ok_iff.mpr
    ⟨hCheck, walk_of_includes hIncludes (by cases follow <;> simp) hWalk⟩

/- Before a walk can end with something, it comes to an entry. -/
theorem exists_entry_walk
    {links : Nat}
    {place q : Place}
    {names : List String}
    {node : Node}
    (hOk : fs.walk .target links place names = .ok (.found q node)) :
    ∃ q' node',
      fs.walk .entry links place names = .ok (.found q' node') := by
  induction links, place, names using walk_induction with
  | step links place names ihLinks ihNames =>
      cases names with
      | nil =>
          rw [walk_nil] at hOk ⊢
          exact ⟨q, node, hOk⟩
      | cons name names =>
          rcases directory_of_walk hOk with ⟨mode, hPlace⟩
          have ihNames := fun p => ihNames p names (by simp)
          by_cases hVoid : Path.isVoid name = true
          · rw [walk_void hPlace hVoid] at hOk ⊢
            exact ihNames place hOk
          by_cases hUp : name = ".."
          · rw [hUp, walk_up hPlace] at hOk ⊢
            exact ihNames place.dropLast hOk
          rw [Bool.not_eq_true] at hVoid
          by_cases hMore : names = []
          · subst hMore
            rw [walk_last hPlace hVoid hUp] at hOk ⊢
            by_cases hLong : Path.longestName < name.length
            · rw [if_pos hLong] at hOk
              contradiction
            rw [if_neg hLong] at hOk ⊢
            cases hNode : fs.node? (place ++ [name]) with
            | none => simp [hNode] at hOk
            | some old =>
                -- A link is an entry itself, wherever it leads.
                cases old with
                | link target => cases links <;> exact ⟨_, _, rfl⟩
                | _ => exact ⟨_, _, rfl⟩
          · rw [walk_cons hMore (by simp)] at hOk ⊢
            cases hStride : fs.stride place name with
            | halt errno => simp [hStride] at hOk
            | pass p =>
                rw [hStride] at hOk
                exact ihNames p hOk
            | turn p more =>
                rw [hStride] at hOk
                cases links with
                | zero => contradiction
                | succ l =>
                    exact ihLinks l p (more ++ names) (by omega) hOk

theorem exists_entry_stat
    {dir : Place}
    {p : Path}
    (hExists : fs.pathExists dir p = true) :
    ∃ place node, fs.stat dir false p = .ok (place, node) := by
  cases hStat : fs.stat dir true p with
  | error fault =>
      rw [pathExists, hStat] at hExists
      contradiction
  | ok r =>
      rcases stat_eq_ok_iff.mp hStat with ⟨hCheck, hWalk⟩
      rcases exists_entry_walk hWalk with ⟨q, node, hEntry⟩
      exact ⟨q, node, stat_eq_ok_iff.mpr ⟨hCheck, hEntry⟩⟩

end FileSystem

end PluginStudio

------------------------------------------------------------
-- Entries And What They Hold
------------------------------------------------------------

namespace PluginStudio

namespace FileSystem

variable {fs : FileSystem} {dir : Place} {p : Path}

/- A path that finds anything has a way to its last name. -/
theorem advance_of_stat
    {ns : List String}
    {last : String}
    (hNames : p.names = ns ++ [last])
    {follow : Bool}
    {r : Place × Node}
    (hStat : fs.stat dir follow p = .ok r) :
    ∃ q links,
      fs.advance mostLinks (startOf dir p) ns = .ok (q, links) := by
  rcases stat_eq_ok_iff.mp hStat with ⟨-, hWalk⟩
  have hSteps : ∃ more, p.steps = ns ++ last :: more := by
    rw [Path.steps, hNames]
    split_ifs
    · exact ⟨[""], List.append_assoc ..⟩
    · exact ⟨[], rfl⟩
  rcases hSteps with ⟨more, hSteps⟩
  rw [hSteps, walk_append (by simp) (by cases follow <;> simp)] at hWalk
  rcases hAdvance : fs.advance mostLinks (startOf dir p) ns with
    errno | ⟨q, links⟩
  · rw [hAdvance] at hWalk
    contradiction
  · exact ⟨q, links, rfl⟩

/-
  An entry whose path finds anything holds something, and if no
  link has to be followed there, then that is what is found.
-/
theorem Entry.of_stat
    {place : Place}
    {name : String}
    (hEntry : fs.Entry dir p place name)
    {follow : Bool}
    {r : Place × Node}
    (hStat : fs.stat dir follow p = .ok r) :
    ∃ node,
      fs.node? (place ++ [name]) = some node ∧
        ((follow = false ∧ p.endsWithSlash = false) ∨
            (∀ target, node ≠ .link target) →
          r = (place ++ [name], node)) := by
  rcases hEntry.directory with ⟨mode, hPlace⟩
  have hVoid := isVoid_eq_false_of_isName hEntry.isName
  cases hSlash : p.endsWithSlash with
  | false =>
      rcases stat_eq_ok_iff.mp hStat with ⟨-, hWalk⟩
      rcases hEntry.way with ⟨ns, links, hNames, hAdvance⟩
      have hSteps : p.steps = ns ++ [name] := by
        simp [Path.steps, hSlash, hNames]
      rw [hSteps, walk_append (by simp) (by cases follow <;> simp),
        hAdvance] at hWalk
      rcases hEntry.spot_of_walk hWalk with ⟨-, hCases⟩
      cases hNode : fs.node? (place ++ [name]) with
      | none =>
          rw [hNode] at hCases
          contradiction
      | some node =>
          rw [hNode] at hCases
          refine ⟨node, rfl, fun hLeaf => ?_⟩
          have hSpot := hCases (hLeaf.imp (by simp_all) id)
          rw [Spot.found.injEq] at hSpot
          exact Prod.ext hSpot.1 hSpot.2
  | true =>
      rcases stat_eq_ok_iff.mp hStat with ⟨-, hWalk⟩
      rcases hEntry.way with ⟨ns, links, hNames, hAdvance⟩
      have hSteps : p.steps = ns ++ [name, ""] := by
        simp [Path.steps, hSlash, hNames]
      rw [hSteps, walk_append (by simp) (by simp), hAdvance] at hWalk
      simp only at hWalk
      rw [walk_cons (by simp) (by cases follow <;> simp),
        stride_name hPlace hVoid hEntry.isName.2.2.1] at hWalk
      by_cases hLong : Path.longestName < name.length
      · rw [if_pos hLong] at hWalk
        contradiction
      rw [if_neg hLong] at hWalk
      cases hNode : fs.node? (place ++ [name]) with
      | none =>
          rw [hNode] at hWalk
          contradiction
      | some node =>
          refine ⟨node, rfl, fun hLeaf => ?_⟩
          rw [hNode] at hWalk
          cases node with
          | link target => simp at hLeaf
          | directory bits =>
              simp only at hWalk
              rw [walk_void hNode rfl, walk_nil, hNode,
                Except.ok.injEq, Spot.found.injEq] at hWalk
              exact Prod.ext hWalk.1.symm hWalk.2.symm
          | _ =>
              rcases directory_of_walk hWalk with ⟨bits, hDir⟩
              simp [hNode] at hDir

/- Segments that name nothing lead nowhere. -/
theorem place_of_walk_voids
    {aim : Aim}
    {links : Nat}
    {place q : Place}
    {names : List String}
    (hNames : ∀ n ∈ names, Path.isVoid n = true)
    {node : Node}
    (hOk : fs.walk aim links place names = .ok (.found q node)) :
    q = place := by
  induction names with
  | nil =>
      rw [walk_nil] at hOk
      cases hPlace : fs.node? place with
      | none => simp [hPlace] at hOk
      | some found =>
          rw [hPlace, Except.ok.injEq, Spot.found.injEq] at hOk
          exact hOk.1.symm
  | cons name names ih =>
      rcases directory_of_walk hOk with ⟨mode, hPlace⟩
      rcases List.forall_mem_cons.mp hNames with ⟨hVoid, hNames⟩
      rw [walk_void hPlace hVoid] at hOk
      exact ih hNames hOk

/- The names to walk, after the last one that leads anywhere. -/
theorem steps_of_names
    {ns more : List String}
    {name : String}
    (hNames : p.names = ns ++ name :: more)
    (hMore : ∀ n ∈ more, Path.isVoid n = true) :
    ∃ rest,
      p.steps = ns ++ name :: rest ∧
        (∀ n ∈ rest, Path.isVoid n = true) ∧
          (p.EndsInName → rest = []) := by
  cases hSlash : p.endsWithSlash with
  | true =>
      refine ⟨more ++ [""], by simp [Path.steps, hSlash, hNames], ?_, ?_⟩
      · intro n hn
        rcases List.mem_append.mp hn with hn | hn
        · exact hMore n hn
        · rw [List.mem_singleton.mp hn]
          rfl
      · rintro ⟨hNone, -⟩
        rw [hSlash] at hNone
        contradiction
  | false =>
      refine ⟨more, by simp [Path.steps, hSlash, hNames], hMore, ?_⟩
      rintro ⟨-, last, hLast, hIsName⟩
      by_contra hNe
      have hMem : last ∈ more := by
        rw [hNames, List.getLast?_append, List.getLast?_cons,
          List.getLast?_eq_some_getLast hNe] at hLast
        simp only [Option.getD_some, Option.some_or,
          Option.some.injEq] at hLast
        rw [← hLast]
        exact List.getLast_mem hNe
      have hVoid := hMore last hMem
      rw [isVoid_eq_false_of_isName hIsName] at hVoid
      contradiction

/-
  What a path finds without following a link in its last place
  stands under its last name, in the directory of its parent,
  unless a link stands there and something is written after it.
-/
theorem place_of_stat
    {name : String}
    (hName : p.fileName? = some name)
    {place : Place}
    {node : Node}
    (hStat : fs.stat dir false p = .ok (place, node)) :
    ∃ home,
      fs.IsHome dir p home ∧
        (place = home ++ [name] ∨
          ¬ p.EndsInName ∧
            ∃ target,
              fs.node? (home ++ [name]) = some (.link target)) := by
  rcases Path.names_of_fileName? hName with
    ⟨ns, more, hNames, hMore, hParts, hIsName⟩
  rcases Path.exists_parent?_of_parts
    (show p.parts ≠ [] by simp [hParts]) with ⟨parent, hParent⟩
  have hInit : parent.parts = ns.filter fun n => !Path.isVoid n := by
    rcases Path.parts_of_parent? hParent with ⟨last, hLast⟩ | ⟨hNil, -⟩
    · rw [hParts] at hLast
      exact (List.append_inj' hLast rfl).1.symm
    · simp [hParts] at hNil
  rcases stat_eq_ok_iff.mp hStat with ⟨-, hWalk⟩
  rcases steps_of_names hNames hMore with ⟨rest, hSteps, hRest, hEnds⟩
  rw [hSteps, walk_append (by simp) (by simp)] at hWalk
  rcases hAdvance : fs.advance mostLinks (startOf dir p) ns with
    errno | ⟨home, links⟩
  · rw [hAdvance] at hWalk
    contradiction
  rw [hAdvance] at hWalk
  simp only [Bool.false_eq_true, if_false] at hWalk
  refine ⟨home, ⟨parent, links, hParent, ?_⟩, ?_⟩
  · rw [reach_eq_parts, hInit, startOf,
      Path.isAbsolute_of_parent? hParent, ← startOf, ← advance_filter,
      hAdvance]
  rcases directory_of_advance hAdvance with ⟨mode, hHome⟩
  have hVoid := isVoid_eq_false_of_isName hIsName
  by_cases hNil : rest = []
  · subst hNil
    rw [walk_last hHome hVoid hIsName.2.2.1] at hWalk
    by_cases hLong : Path.longestName < name.length
    · rw [if_pos hLong] at hWalk
      contradiction
    rw [if_neg hLong] at hWalk
    cases hNode : fs.node? (home ++ [name]) with
    | none => simp [hNode] at hWalk
    | some found =>
        rw [hNode] at hWalk
        cases found <;> cases links <;>
          exact Or.inl (Spot.found.inj (Except.ok.inj hWalk)).1.symm
  · rw [walk_cons hNil (by simp),
      stride_name hHome hVoid hIsName.2.2.1] at hWalk
    by_cases hLong : Path.longestName < name.length
    · rw [if_pos hLong] at hWalk
      contradiction
    rw [if_neg hLong] at hWalk
    cases hNode : fs.node? (home ++ [name]) with
    | none =>
        rw [hNode] at hWalk
        contradiction
    | some found =>
        rw [hNode] at hWalk
        cases found with
        | link target =>
            exact Or.inr ⟨fun hIn => hNil (hEnds hIn), target, rfl⟩
        | _ => exact Or.inl (place_of_walk_voids hRest hWalk)

end FileSystem

end PluginStudio

------------------------------------------------------------
-- Ways That Agree
------------------------------------------------------------

namespace PluginStudio

/- A walk can pass a directory, and a link leads it on. -/
def Node.IsWay (node : Node) : Prop :=
  node.isDirectory = true ∨ ∃ target, node = .link target

namespace FileSystem

/-
  Where two file systems both have a way, it leads on to the same
  places.
-/
def Agrees (fs fs' : FileSystem) : Prop :=
  ∀ ⦃place : Place⦄ ⦃node node' : Node⦄,
    fs.node? place = some node → fs'.node? place = some node' →
      node.IsWay → node'.IsWay →
        node = node' ∨
          node.isDirectory = true ∧ node'.isDirectory = true

variable {fs fs' : FileSystem}

/- What a name leads to, if a walk can go on from there. -/
theorem stride_name_ok
    {place : Place}
    {name : String}
    {mode : Nat}
    (hPlace : fs.node? place = some (.directory mode))
    (hVoid : Path.isVoid name = false)
    (hUp : name ≠ "..")
    (hHalt : ∀ errno, fs.stride place name ≠ .halt errno)
    (hPass :
      ∀ q, fs.stride place name = .pass q →
        ∃ bits, fs.node? q = some (.directory bits)) :
    ∃ node,
      fs.node? (place ++ [name]) = some node ∧
        node.IsWay ∧
          fs.stride place name =
            match node with
            | .link target => .turn (startOf place target) target.names
            | _ => .pass (place ++ [name]) := by
  rw [stride_name hPlace hVoid hUp] at hHalt hPass ⊢
  by_cases hLong : Path.longestName < name.length
  · exact absurd (if_pos hLong) (hHalt .nameTooLong)
  rw [if_neg hLong] at hHalt hPass ⊢
  cases hNode : fs.node? (place ++ [name]) with
  | none => simp [hNode] at hHalt
  | some node =>
      cases node with
      | link target => exact ⟨_, rfl, Or.inr ⟨target, rfl⟩, rfl⟩
      | directory bits => exact ⟨_, rfl, Or.inl rfl, rfl⟩
      | _ => simp [hNode] at hPass

/- Two walks that both go on along a name go on alike. -/
theorem stride_of_agrees
    (hAgrees : fs.Agrees fs')
    {place : Place}
    {name : String}
    (hHalt : ∀ errno, fs.stride place name ≠ .halt errno)
    (hPass :
      ∀ q, fs.stride place name = .pass q →
        ∃ bits, fs.node? q = some (.directory bits))
    (hHalt' : ∀ errno, fs'.stride place name ≠ .halt errno)
    (hPass' :
      ∀ q, fs'.stride place name = .pass q →
        ∃ bits, fs'.node? q = some (.directory bits)) :
    fs.stride place name = fs'.stride place name := by
  rcases directory_of_stride hHalt with ⟨mode, hPlace⟩
  rcases directory_of_stride hHalt' with ⟨mode', hPlace'⟩
  by_cases hVoid : Path.isVoid name = true
  · rw [stride_void hPlace hVoid, stride_void hPlace' hVoid]
  by_cases hUp : name = ".."
  · rw [hUp, stride_up hPlace, stride_up hPlace']
  rw [Bool.not_eq_true] at hVoid
  rcases stride_name_ok hPlace hVoid hUp hHalt hPass with
    ⟨node, hNode, hWay, hStride⟩
  rcases stride_name_ok hPlace' hVoid hUp hHalt' hPass' with
    ⟨node', hNode', hWay', hStride'⟩
  rw [hStride, hStride']
  rcases hAgrees hNode hNode' hWay hWay' with rfl | ⟨hDir, hDir'⟩
  · rfl
  · cases node <;> cases node' <;>
      simp [Node.isDirectory] at hDir hDir' ⊢

/- The step of an advance that succeeds can be gone on from. -/
theorem stride_of_advance
    {links : Nat}
    {place : Place}
    {name : String}
    {names : List String}
    {r : Place × Nat}
    (hOk : fs.advance links place (name :: names) = .ok r) :
    (∀ errno, fs.stride place name ≠ .halt errno) ∧
      ∀ q, fs.stride place name = .pass q →
        ∃ bits, fs.node? q = some (.directory bits) := by
  rcases advance_cons_ok hOk with
    ⟨q, hStride, hOk⟩ | ⟨q, more, l, rfl, hStride, -⟩
  · constructor
    · simp [hStride]
    · intro q' hPass
      rw [hStride, Stride.pass.injEq] at hPass
      rw [← hPass]
      exact directory_of_advance_start hOk
  · simp [hStride]

/- Names that can be walked in both lead to the same place. -/
theorem advance_of_agrees
    (hAgrees : fs.Agrees fs')
    {links : Nat}
    {place : Place}
    {names : List String}
    {r r' : Place × Nat}
    (hOk : fs.advance links place names = .ok r)
    (hOk' : fs'.advance links place names = .ok r') :
    r = r' := by
  induction links, place, names using walk_induction with
  | step links place names ihLinks ihNames =>
      cases names with
      | nil =>
          rcases directory_of_advance_start hOk with ⟨mode, hPlace⟩
          rcases directory_of_advance_start hOk' with ⟨mode', hPlace'⟩
          rw [advance_nil_of_directory hPlace, Except.ok.injEq] at hOk
          rw [advance_nil_of_directory hPlace',
            Except.ok.injEq] at hOk'
          rw [← hOk, ← hOk']
      | cons name names =>
          have hSame : fs.stride place name = fs'.stride place name :=
            stride_of_agrees hAgrees (stride_of_advance hOk).1
              (stride_of_advance hOk).2 (stride_of_advance hOk').1
              (stride_of_advance hOk').2
          rw [advance_cons] at hOk hOk'
          rw [← hSame] at hOk'
          cases hStride : fs.stride place name with
          | halt errno =>
              rw [hStride] at hOk
              contradiction
          | pass q =>
              rw [hStride] at hOk hOk'
              exact ihNames q names (by simp) hOk hOk'
          | turn q more =>
              rw [hStride] at hOk hOk'
              cases links with
              | zero => contradiction
              | succ l =>
                  exact ihLinks l q (more ++ names) (by omega) hOk hOk'

end FileSystem

end PluginStudio

------------------------------------------------------------
-- What Is Moved Away
------------------------------------------------------------

namespace PluginStudio

/- What has one name is apart from all within another. -/
theorem Place.not_prefix_sibling
    (place : Place)
    {name name' : String}
    (hNe : name ≠ name')
    (rest : List String) :
    ¬ place ++ [name] <+: place ++ [name'] ++ rest := by
  rw [List.append_assoc, List.prefix_append_right_inj]
  simp [hNe]

namespace FileSystem

/-
  All that stood within one place stands within another, nothing
  stands within the first, and nothing else has changed.  What
  stood at the other place was of the same kind, and nothing was
  below it.
-/
structure Moved
    (fs : FileSystem)
    (source target : Place)
    (fs' : FileSystem) : Prop where
  arrived :
    ∀ rest, fs'.node? (target ++ rest) = fs.node? (source ++ rest)
  gone : ∀ rest, fs'.node? (source ++ rest) = none
  other :
    ∀ q, ¬ source <+: q → ¬ target <+: q → fs'.node? q = fs.node? q
  below : ∀ rest, rest ≠ [] → fs.node? (target ++ rest) = none
  kind :
    ∀ node old,
      fs.node? source = some node → fs.node? target = some old →
        node.isDirectory = old.isDirectory

variable {fs fs' : FileSystem} {dir : Place}

/- What gives way is of the kind that comes. -/
theorem isDirectory_of_replaceable
    {node old : Node}
    {target : Place}
    {u : Unit}
    (hOk : fs.replaceable node target = .ok u)
    (hOld : fs.node? target = some old) :
    node.isDirectory = old.isDirectory := by
  rw [replaceable, hOld] at hOk
  cases hNode : node.isDirectory <;>
    cases hKind : old.isDirectory <;>
      simp_all [refuse]

/- To rename an entry to another name of its directory moves it. -/
theorem moved_of_rename
    (hFs : fs.WellFormed)
    {source target : Path}
    {place : Place}
    {name name' : String}
    (hSource : fs.Entry dir source place name)
    (hTarget : fs.Entry dir target place name')
    (hNe : name ≠ name')
    (hOk : fs.rename dir source target = .ok fs') :
    fs.Moved (place ++ [name]) (place ++ [name']) fs' := by
  rcases rename_entries hOk with
    ⟨q, n, q', n', node, hOld, -, hNew, hNode, -, hDone⟩
  rcases hSource.unique hOld with ⟨rfl, rfl⟩
  rcases hTarget.unique hNew with ⟨rfl, rfl⟩
  rcases hDone with ⟨hSame, -⟩ | ⟨-, hFree, rfl⟩
  · simp [Ne.symm hNe] at hSame
  have hNonempty : q' ++ [n] ≠ [] := by simp
  have hMove :=
    node?_move (fs.erase (q' ++ [n'])) hNonempty (by simp)
      (hFs.node?_erase_of_replaceable hFree)
  have hBelow := hFs.node?_eq_none_of_replaceable hFree
  constructor
  · intro rest
    rw [hMove, if_pos (by simp), List.drop_left,
      node?_erase _ (by simp), if_neg]
    intro hEq
    exact Place.not_prefix_sibling q' (Ne.symm hNe) rest
      (hEq ▸ List.prefix_refl _)
  · intro rest
    rw [hMove, if_neg, if_pos (by simp)]
    rw [Place.within_iff]
    exact Place.not_prefix_sibling q' (Ne.symm hNe) rest
  · intro q hOut hApart
    rw [hMove, if_neg (by simpa using hApart),
      if_neg (by simpa using hOut), node?_erase _ (by simp), if_neg]
    rintro rfl
    exact hApart (List.prefix_refl _)
  · intro rest hRest
    exact hBelow _ ((Place.below_iff_exists _ _).mpr ⟨rest, hRest, rfl⟩)
  · intro found old hFound hOld
    rw [hNode, Option.some.injEq] at hFound
    rw [← hFound]
    exact isDirectory_of_replaceable hFree hOld

namespace Moved

variable {source target : Place}

/- Without what had to give way, ways are as they were. -/
theorem agrees_erase
    (hMoved : fs.Moved source target fs')
    (hTarget : target ≠ []) :
    (fs.erase target).Agrees fs' := by
  intro q node node' hNode hNode' _ _
  rw [node?_erase _ hTarget] at hNode
  split_ifs at hNode with hEq
  by_cases hIn : target <+: q
  · rcases hIn with ⟨rest, rfl⟩
    rw [hMoved.below rest (by rintro rfl; simp at hEq)] at hNode
    contradiction
  by_cases hOut : source <+: q
  · rcases hOut with ⟨rest, rfl⟩
    rw [hMoved.gone] at hNode'
    contradiction
  · rw [hMoved.other q hOut hIn, hNode, Option.some.injEq] at hNode'
    exact Or.inl hNode'

/- Nor are they changed unless a link takes the place of a link. -/
theorem agrees
    (hMoved : fs.Moved source target fs')
    (hLinks :
      ¬ ∃ way way',
        fs.node? source = some (.link way) ∧
          fs.node? target = some (.link way')) :
    fs.Agrees fs' := by
  intro q node node' hNode hNode' hWay hWay'
  by_cases hIn : target <+: q
  · rcases hIn with ⟨rest, rfl⟩
    by_cases hRest : rest = []
    · subst hRest
      rw [hMoved.arrived, List.append_nil] at hNode'
      rw [List.append_nil] at hNode
      have hKind := hMoved.kind node' node hNode' hNode
      rcases hWay with hDir | ⟨way, rfl⟩
      · exact Or.inr ⟨hDir, hKind.trans hDir⟩
      · rcases hWay' with hDir' | ⟨way', rfl⟩
        · rw [hDir'] at hKind
          contradiction
        · exact absurd ⟨way', way, hNode', hNode⟩ hLinks
    · rw [hMoved.below rest hRest] at hNode
      contradiction
  by_cases hOut : source <+: q
  · rcases hOut with ⟨rest, rfl⟩
    rw [hMoved.gone] at hNode'
    contradiction
  · rw [hMoved.other q hOut hIn, hNode, Option.some.injEq] at hNode'
    exact Or.inl hNode'

end Moved

/-
  A link that is to take the place of a link over which its own
  path leads: once the other is gone, the path has no entry.
-/
def Crossed
    (fs : FileSystem)
    (dir : Place)
    (p : Path)
    (source target : Place) : Prop :=
  (∃ way way',
      fs.node? source = some (.link way) ∧
        fs.node? target = some (.link way')) ∧
    ∀ place name, ¬ (fs.erase target).Entry dir p place name

/- The path of what was moved away finds nothing. -/
theorem Moved.absent
    {p : Path}
    {place target : Place}
    {name : String}
    (hMoved : fs.Moved (place ++ [name]) target fs')
    (hTarget : target ≠ [])
    (hEntry : fs.Entry dir p place name)
    (hCrossed : ¬ fs.Crossed dir p (place ++ [name]) target)
    (follow : Bool)
    (r : Place × Node) :
    fs'.stat dir follow p ≠ .ok r := by
  intro hStat
  rcases hEntry.way with ⟨ns, links, hNames, hAdvance⟩
  rcases advance_of_stat hNames hStat with ⟨q, links', hAfter⟩
  have hSame : q = place := by
    by_cases hLinks :
        ∃ way way',
          fs.node? (place ++ [name]) = some (.link way) ∧
            fs.node? target = some (.link way')
    · -- Some entry is left without the other link, and it is ours.
      have hLeft :
          ∃ q n, (fs.erase target).Entry dir p q n := by
        by_contra hNone
        exact hCrossed ⟨hLinks, fun q n hOther => hNone ⟨q, n, hOther⟩⟩
      rcases hLeft with ⟨q', n, hOther⟩
      have hKeeps := (includes_erase fs hTarget).keeps
      rcases hEntry.unique (hOther.of_keeps hKeeps) with ⟨rfl, rfl⟩
      rcases hOther.way with ⟨ms, more, hOtherNames, hOtherWay⟩
      rw [hNames] at hOtherNames
      rcases List.append_inj' hOtherNames rfl with ⟨rfl, -⟩
      exact (Prod.mk.inj (advance_of_agrees
        (hMoved.agrees_erase hTarget) hOtherWay hAfter)).1.symm
    · exact (Prod.mk.inj (advance_of_agrees
        (hMoved.agrees hLinks) hAdvance hAfter)).1.symm
  subst hSame
  have hHere : fs'.Entry dir p q name :=
    ⟨hEntry.check, hEntry.isName, ns, links', hNames, hAfter⟩
  rcases hHere.of_stat hStat with ⟨node, hNode, -⟩
  have hGone := hMoved.gone []
  rw [List.append_nil, hNode] at hGone
  contradiction

end FileSystem

end PluginStudio
