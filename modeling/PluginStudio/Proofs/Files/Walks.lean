import PluginStudio.Proofs.Files.Paths

/-
  How a walk goes on.

  Key definitions include:
    * `PluginStudio.FileSystem.Stride`
    * `PluginStudio.FileSystem.stride`
    * `PluginStudio.FileSystem.advance`
    * `PluginStudio.FileSystem.Keeps`

  Main declarations:
    * `walk_induction`
    * `advance_append`, `advance_filter`
    * `walk_append`, `sound_of_walk`, `enter_walk`
    * `advance_of_keeps`, `walk_of_keeps`, `stat_of_keeps`

  A stride is what one name of a walk does when other names come
  after it.  To advance is to walk names that all have to lead to
  directories, and to tell how many links may still be followed.
  Any walk advances along all of its names but the last.
-/

------------------------------------------------------------
-- Strides
------------------------------------------------------------

namespace PluginStudio

namespace FileSystem

/-
  What a name on the way does: end the walk, pass on to a place,
  or turn to another place with more names to walk from there.
-/
inductive Stride where
  | halt (errno : Errno)
  | pass (place : Place)
  | turn (place : Place) (names : List String)
deriving DecidableEq, Repr

/- What a name does at a place, when more names follow it. -/
def stride
    (fs : FileSystem)
    (place : Place)
    (name : String) : Stride :=
  match fs.node? place with
  | none => .halt .noEntry
  | some node =>
    if !node.isDirectory then
      .halt .notDirectory
    else if Path.isVoid name then
      .pass place
    else if name = ".." then
      .pass place.dropLast
    else if Path.longestName < name.length then
      .halt .nameTooLong
    else
      match fs.node? (place ++ [name]) with
      | none => .halt .noEntry
      | some (.link target) =>
        .turn (startOf place target) target.names
      | some _ => .pass (place ++ [name])

/-
  Advance along names from a place, where `links` may still be
  followed.  `detour` goes on when a link is met.
-/
def advanceNames
    (fs : FileSystem)
    (links : Nat)
    (detour : Place → List String → Except Errno (Place × Nat)) :
    Place → List String → Except Errno (Place × Nat)
  | place, [] =>
    match fs.node? place with
    | none => .error .noEntry
    | some node =>
      if node.isDirectory then
        .ok (place, links)
      else
        .error .notDirectory
  | place, name :: names =>
    match fs.stride place name with
    | .halt errno => .error errno
    | .pass q => advanceNames fs links detour q names
    | .turn q more => detour q (more ++ names)

/- Advance, with a number of links that may be followed. -/
def advance
    (fs : FileSystem) :
    Nat → Place → List String → Except Errno (Place × Nat)
  | 0 => fs.advanceNames 0 fun _ _ => .error .linkLoop
  | links + 1 => fs.advanceNames (links + 1) (fs.advance links)

variable {fs : FileSystem}

/- Names stand for themselves only below a directory. -/
theorem stride_of_absent
    {place : Place}
    (hPlace : fs.node? place = none)
    (name : String) :
    fs.stride place name = .halt .noEntry := by
  simp [stride, hPlace]

theorem stride_of_not_directory
    {place : Place}
    {node : Node}
    (hPlace : fs.node? place = some node)
    (hNode : node.isDirectory = false)
    (name : String) :
    fs.stride place name = .halt .notDirectory := by
  simp [stride, hPlace, hNode]

section AtDirectory

variable {place : Place} {mode : Nat}

theorem stride_void
    (hPlace : fs.node? place = some (.directory mode))
    {name : String}
    (hVoid : Path.isVoid name = true) :
    fs.stride place name = .pass place := by
  simp [stride, hPlace, Node.isDirectory, hVoid]

theorem stride_up
    (hPlace : fs.node? place = some (.directory mode)) :
    fs.stride place ".." = .pass place.dropLast := by
  simp [stride, hPlace, Node.isDirectory, Path.isVoid]

/- A name that is no way up leads to what stands under it. -/
theorem stride_name
    (hPlace : fs.node? place = some (.directory mode))
    {name : String}
    (hVoid : Path.isVoid name = false)
    (hUp : name ≠ "..") :
    fs.stride place name =
      if Path.longestName < name.length then
        .halt .nameTooLong
      else
        match fs.node? (place ++ [name]) with
        | none => .halt .noEntry
        | some (.link target) =>
          .turn (startOf place target) target.names
        | some _ => .pass (place ++ [name]) := by
  simp [stride, hPlace, Node.isDirectory, hVoid, hUp]

end AtDirectory

theorem isVoid_eq_false_of_isName
    {name : String}
    (hName : Path.IsName name) :
    Path.isVoid name = false := by
  simp [Path.isVoid, hName.1, hName.2.1]

/- To go on from a place, there has to be a directory. -/
theorem directory_of_stride
    {place : Place}
    {name : String}
    (hHalt : ∀ errno, fs.stride place name ≠ .halt errno) :
    ∃ mode, fs.node? place = some (.directory mode) := by
  cases hPlace : fs.node? place with
  | none => exact absurd (stride_of_absent hPlace name) (hHalt _)
  | some node =>
      cases node with
      | directory mode => exact ⟨mode, rfl⟩
      | _ =>
          exact absurd (stride_of_not_directory hPlace rfl name)
            (hHalt _)

/- A walk turns where a link leads. -/
theorem stride_turn
    {place q : Place}
    {name : String}
    {names : List String}
    (hTurn : fs.stride place name = .turn q names) :
    ∃ target : Path, names = target.names := by
  obtain ⟨mode, hPlace⟩ :=
    directory_of_stride (by simp [hTurn] :
      ∀ errno, fs.stride place name ≠ .halt errno)
  by_cases hVoid : Path.isVoid name = true
  · simp [stride_void hPlace hVoid] at hTurn
  by_cases hUp : name = ".."
  · simp [hUp, stride_up hPlace] at hTurn
  simp only [Bool.not_eq_true] at hVoid
  rw [stride_name hPlace hVoid hUp] at hTurn
  split_ifs at hTurn
  cases hNode : fs.node? (place ++ [name]) with
  | none => simp [hNode] at hTurn
  | some node =>
      cases node with
      | link target =>
          simp only [hNode, Stride.turn.injEq] at hTurn
          exact ⟨target, hTurn.2.symm⟩
      | _ => simp [hNode] at hTurn

end FileSystem

end PluginStudio

------------------------------------------------------------
-- Advancing
------------------------------------------------------------

namespace PluginStudio

namespace FileSystem

variable {fs : FileSystem}

/-
  Induction along a walk: a step takes a name, or follows a link
  and has fewer links left.
-/
theorem walk_induction
    {motive : Nat → Place → List String → Prop}
    (step :
      ∀ links place names,
        (∀ l q ns, l < links → motive l q ns) →
        (∀ q ns, ns.length < names.length → motive links q ns) →
        motive links place names)
    (links : Nat)
    (place : Place)
    (names : List String) :
    motive links place names := by
  induction links using Nat.strongRecOn generalizing place names with
  | _ links ihLinks =>
      induction hLength : names.length using Nat.strongRecOn
        generalizing place names with
      | _ length ihLength =>
          apply step
          · exact fun l q ns hLess => ihLinks l hLess q ns
          · intro q ns hLess
            rw [hLength] at hLess
            exact ihLength ns.length hLess q ns rfl

theorem advance_nil
    (links : Nat)
    (place : Place) :
    fs.advance links place [] =
      match fs.node? place with
      | none => .error .noEntry
      | some node =>
        if node.isDirectory then
          .ok (place, links)
        else
          .error .notDirectory := by
  cases links <;> rfl

theorem advance_nil_of_directory
    {place : Place}
    {mode : Nat}
    (hPlace : fs.node? place = some (.directory mode))
    (links : Nat) :
    fs.advance links place [] = .ok (place, links) := by
  simp [advance_nil, hPlace, Node.isDirectory]

theorem advance_cons
    (links : Nat)
    (place : Place)
    (name : String)
    (names : List String) :
    fs.advance links place (name :: names) =
      match fs.stride place name, links with
      | .halt errno, _ => .error errno
      | .pass q, _ => fs.advance links q names
      | .turn _ _, 0 => .error .linkLoop
      | .turn q more, l + 1 => fs.advance l q (more ++ names) := by
  cases links <;> rw [advance, advanceNames] <;>
    cases fs.stride place name <;> rfl

/- The one step behind an advance that succeeds. -/
theorem advance_cons_ok
    {links : Nat}
    {place : Place}
    {name : String}
    {names : List String}
    {r : Place × Nat}
    (hOk : fs.advance links place (name :: names) = .ok r) :
    (∃ q,
        fs.stride place name = .pass q ∧
          fs.advance links q names = .ok r) ∨
      ∃ q more l,
        links = l + 1 ∧
          fs.stride place name = .turn q more ∧
            fs.advance l q (more ++ names) = .ok r := by
  rw [advance_cons] at hOk
  cases hStride : fs.stride place name with
  | halt errno =>
      rw [hStride] at hOk
      contradiction
  | pass q =>
      rw [hStride] at hOk
      exact Or.inl ⟨q, rfl, hOk⟩
  | turn q more =>
      rw [hStride] at hOk
      cases links with
      | zero => contradiction
      | succ l => exact Or.inr ⟨q, more, l, rfl, rfl, hOk⟩

/- An advance ends at a directory, with no more links than before. -/
theorem directory_of_advance
    {links : Nat}
    {place : Place}
    {names : List String}
    {r : Place × Nat}
    (hOk : fs.advance links place names = .ok r) :
    ∃ mode, fs.node? r.1 = some (.directory mode) := by
  induction links, place, names using walk_induction with
  | step links place names ihLinks ihNames =>
      cases names with
      | nil =>
          rw [advance_nil] at hOk
          cases hPlace : fs.node? place with
          | none => simp [hPlace] at hOk
          | some node =>
              cases node with
              | directory mode =>
                  simp only [hPlace, Node.isDirectory, if_true,
                    Except.ok.injEq] at hOk
                  exact ⟨mode, by rw [← hOk, hPlace]⟩
              | _ => simp [hPlace, Node.isDirectory] at hOk
      | cons name names =>
          rcases advance_cons_ok hOk with
            ⟨q, -, hOk⟩ | ⟨q, more, l, rfl, -, hOk⟩
          · exact ihNames q names (by simp) hOk
          · exact ihLinks l q (more ++ names) (by omega) hOk

/- To advance along two lists is to advance along one, then on. -/
theorem advance_append
    (links : Nat)
    (place : Place)
    (ns ms : List String) :
    fs.advance links place (ns ++ ms) =
      match fs.advance links place ns with
      | .error errno => .error errno
      | .ok (q, l) => fs.advance l q ms := by
  induction links, place, ns using walk_induction with
  | step links place ns ihLinks ihNames =>
      cases ns with
      | nil =>
          rw [List.nil_append, advance_nil]
          cases hPlace : fs.node? place with
          | none =>
              cases ms with
              | nil => simp [advance_nil, hPlace]
              | cons name names =>
                  simp [advance_cons, stride_of_absent hPlace]
          | some node =>
              cases hNode : node.isDirectory with
              | true => simp [hNode]
              | false =>
                  cases ms with
                  | nil => simp [advance_nil, hPlace, hNode]
                  | cons name names =>
                      simp [advance_cons, hNode,
                        stride_of_not_directory hPlace hNode]
      | cons name names =>
          rw [List.cons_append, advance_cons, advance_cons]
          cases fs.stride place name with
          | halt errno => rfl
          | pass q => exact ihNames q names (by simp)
          | turn q more =>
              cases links with
              | zero => rfl
              | succ l =>
                  simp only [← List.append_assoc]
                  exact ihLinks l q (more ++ names) (by omega)

/- Segments that name nothing change nothing. -/
theorem advance_filter
    (links : Nat)
    (place : Place)
    (names : List String) :
    fs.advance links place names =
      fs.advance links place
        (names.filter fun name => !Path.isVoid name) := by
  induction links, place, names using walk_induction with
  | step links place names ihLinks ihNames =>
      cases names with
      | nil => rfl
      | cons name names =>
          have ihNames := fun q => ihNames q names (by simp)
          cases hVoid : Path.isVoid name with
          | false =>
              rw [List.filter_cons_of_pos (by simp [hVoid]),
                advance_cons, advance_cons]
              cases fs.stride place name with
              | halt errno => rfl
              | pass q => exact ihNames q
              | turn q more =>
                  cases links with
                  | zero => rfl
                  | succ l =>
                      have ihLinks := fun ns =>
                        ihLinks l q ns (by omega)
                      simp only
                      rw [ihLinks, ihLinks (more ++ names.filter _)]
                      simp [List.filter_append]
          | true =>
              rw [List.filter_cons_of_neg (by simp [hVoid]),
                ← ihNames]
              cases hPlace : fs.node? place with
              | none =>
                  rw [advance_cons, stride_of_absent hPlace]
                  cases names with
                  | nil => simp [advance_nil, hPlace]
                  | cons next names =>
                      rw [advance_cons, stride_of_absent hPlace]
              | some node =>
                  cases node with
                  | directory mode =>
                      rw [advance_cons, stride_void hPlace hVoid]
                  | _ =>
                      rw [advance_cons,
                        stride_of_not_directory hPlace rfl]
                      cases names with
                      | nil =>
                          simp [advance_nil, hPlace,
                            Node.isDirectory]
                      | cons next names =>
                          rw [advance_cons,
                            stride_of_not_directory hPlace rfl]

end FileSystem

end PluginStudio

------------------------------------------------------------
-- Walks
------------------------------------------------------------

namespace PluginStudio

namespace FileSystem

variable {fs : FileSystem} {aim : Aim}

theorem walk_nil
    (links : Nat)
    (place : Place) :
    fs.walk aim links place [] =
      match fs.node? place with
      | none => .error .noEntry
      | some node => .ok (.found place node) := by
  cases links <;> rfl

/-
  A name on the way is a stride.  Where a file is to be written,
  a slash right after the name refuses it.
-/
private theorem walkNames_cons
    {names : List String}
    (hMore : names ≠ [])
    (hOutput : aim = .output → names ≠ [""])
    (detour : Place → List String → Except Errno Spot)
    (place : Place)
    (name : String) :
    fs.walkNames aim detour place (name :: names) =
      match fs.stride place name with
      | .halt errno => .error errno
      | .pass q => fs.walkNames aim detour q names
      | .turn q more => detour q (more ++ names) := by
  have hEmpty : names.isEmpty = false := by simpa using hMore
  have hSlash : (aim = .output && names = [""]) = false := by
    simpa using hOutput
  rw [walkNames, stride]
  cases fs.node? place with
  | none => rfl
  | some node =>
      simp only [hSlash, hEmpty, stepsOn, Bool.false_and]
      by_cases hDir : node.isDirectory = true
      · by_cases hVoid : Path.isVoid name = true
        · simp [hDir, hVoid]
        by_cases hUp : name = ".."
        · simp [hDir, hUp, Path.isVoid]
        by_cases hLong : Path.longestName < name.length
        · simp [hDir, hVoid, hUp, hLong]
        simp only [hDir, hVoid, hUp, hLong]
        cases fs.node? (place ++ [name]) with
        | none => rfl
        | some node => cases node <;> rfl
      · simp [hDir]

theorem walk_cons
    {names : List String}
    (hMore : names ≠ [])
    (hOutput : aim = .output → names ≠ [""])
    (links : Nat)
    (place : Place)
    (name : String) :
    fs.walk aim links place (name :: names) =
      match fs.stride place name, links with
      | .halt errno, _ => .error errno
      | .pass q, _ => fs.walk aim links q names
      | .turn _ _, 0 => .error .linkLoop
      | .turn q more, l + 1 => fs.walk aim l q (more ++ names) := by
  cases links <;> rw [walk, walkNames_cons hMore hOutput] <;>
    cases fs.stride place name <;> rfl

/- A walk is an advance to the directory of its last names. -/
theorem walk_append
    {ms : List String}
    (hMore : ms ≠ [])
    (hOutput : aim = .output → ms ≠ [""])
    (links : Nat)
    (place : Place)
    (ns : List String) :
    fs.walk aim links place (ns ++ ms) =
      match fs.advance links place ns with
      | .error errno => .error errno
      | .ok (q, l) => fs.walk aim l q ms := by
  induction links, place, ns using walk_induction with
  | step links place ns ihLinks ihNames =>
      cases ns with
      | nil =>
          rw [List.nil_append, advance_nil]
          -- The first name that is left asks for a directory.
          obtain ⟨name, names, rfl⟩ := List.exists_cons_of_ne_nil hMore
          cases hPlace : fs.node? place with
          | none =>
              cases links <;> simp [walk, walkNames, hPlace]
          | some node =>
              cases hNode : node.isDirectory with
              | true => simp [hNode]
              | false =>
                  cases links <;>
                    simp [walk, walkNames, hPlace, hNode]
      | cons name names =>
          have hMore : names ++ ms ≠ [] := by simp [hMore]
          have hOutput : aim = .output → names ++ ms ≠ [""] := by
            intro hAim hEq
            rcases List.append_eq_cons_iff.mp hEq with
              ⟨-, hMs⟩ | ⟨rest, -, hRest⟩
            · exact hOutput hAim hMs
            · simp [‹ms ≠ []›] at hRest
          rw [List.cons_append, walk_cons hMore hOutput, advance_cons]
          cases fs.stride place name with
          | halt errno => rfl
          | pass q => exact ihNames q names (by simp)
          | turn q more =>
              cases links with
              | zero => rfl
              | succ l =>
                  simp only [← List.append_assoc]
                  exact ihLinks l q (more ++ names) (by omega)

/- The last name of a walk, in a directory. -/
theorem walk_last
    {place : Place}
    {mode : Nat}
    (hPlace : fs.node? place = some (.directory mode))
    {name : String}
    (hVoid : Path.isVoid name = false)
    (hUp : name ≠ "..")
    (links : Nat) :
    fs.walk aim links place [name] =
      if Path.longestName < name.length then
        .error .nameTooLong
      else
        match fs.node? (place ++ [name]), links with
        | none, _ => .ok (.vacant place name)
        | some (.link target), 0 =>
          if aim = .entry then
            .ok (.found (place ++ [name]) (.link target))
          else
            .error .linkLoop
        | some (.link target), l + 1 =>
          if aim = .entry then
            .ok (.found (place ++ [name]) (.link target))
          else
            fs.walk aim l (startOf place target) target.steps
        | some node, _ => .ok (.found (place ++ [name]) node) := by
  cases links <;> rw [walk, walkNames] <;>
    simp only [hPlace, Node.isDirectory, hVoid, hUp] <;>
    by_cases hLong : Path.longestName < name.length <;>
    simp [hLong, stepsOn]
  · cases hNode : fs.node? (place ++ [name]) with
    | none => rfl
    | some node => cases node <;> simp [walkNames, hNode]
  · cases hNode : fs.node? (place ++ [name]) with
    | none => rfl
    | some node => cases node <;> simp [walkNames, hNode]

theorem walk_last_found
    {place : Place}
    {mode : Nat}
    (hPlace : fs.node? place = some (.directory mode))
    {name : String}
    (hVoid : Path.isVoid name = false)
    (hUp : name ≠ "..")
    (hLong : ¬ Path.longestName < name.length)
    {node : Node}
    (hNode : fs.node? (place ++ [name]) = some node)
    (hLeaf : ∀ target, node ≠ .link target)
    (links : Nat) :
    fs.walk aim links place [name] =
      .ok (.found (place ++ [name]) node) := by
  rw [walk_last hPlace hVoid hUp, if_neg hLong, hNode]
  cases node with
  | link target => exact absurd rfl (hLeaf target)
  | _ => rfl

theorem walk_void
    {place : Place}
    {mode : Nat}
    (hPlace : fs.node? place = some (.directory mode))
    {name : String}
    (hVoid : Path.isVoid name = true)
    (links : Nat)
    (names : List String) :
    fs.walk aim links place (name :: names) =
      fs.walk aim links place names := by
  cases links <;>
    simp [walk, walkNames, hPlace, Node.isDirectory, hVoid]

theorem walk_up
    {place : Place}
    {mode : Nat}
    (hPlace : fs.node? place = some (.directory mode))
    (links : Nat)
    (names : List String) :
    fs.walk aim links place (".." :: names) =
      fs.walk aim links place.dropLast names := by
  cases links <;>
    simp [walk, walkNames, hPlace, Node.isDirectory, Path.isVoid]

/- A slash after the name of a file to write. -/
theorem walk_output_slash
    {place : Place}
    {mode : Nat}
    (hPlace : fs.node? place = some (.directory mode))
    {name : String}
    (hVoid : Path.isVoid name = false)
    (hUp : name ≠ "..")
    (links : Nat) :
    fs.walk .output links place [name, ""] =
      .error .isDirectory := by
  cases links <;>
    simp [walk, walkNames, hPlace, Node.isDirectory, hVoid, hUp]

/- A walk along names starts at a directory. -/
theorem directory_of_walk
    {links : Nat}
    {place : Place}
    {name : String}
    {names : List String}
    {spot : Spot}
    (hOk : fs.walk aim links place (name :: names) = .ok spot) :
    ∃ mode, fs.node? place = some (.directory mode) := by
  cases hPlace : fs.node? place with
  | none => cases links <;> simp [walk, walkNames, hPlace] at hOk
  | some node =>
      cases node with
      | directory mode => exact ⟨mode, rfl⟩
      | _ =>
          cases links <;>
            simp [walk, walkNames, hPlace, Node.isDirectory] at hOk

/- What is known of the end of a walk. -/
def Spot.Sound
    (fs : FileSystem) :
    Spot → Prop
  | .found place node => fs.node? place = some node
  | .vacant place name =>
    (∃ mode, fs.node? place = some (.directory mode)) ∧
      Path.IsName name ∧ fs.node? (place ++ [name]) = none

private theorem sound_of_walk_last
    {links : Nat}
    {place : Place}
    {mode : Nat}
    (hPlace : fs.node? place = some (.directory mode))
    {name : String}
    (hVoid : Path.isVoid name = false)
    (hUp : name ≠ "..")
    (hName : '/' ∉ name.toList)
    {spot : Spot}
    (ihLinks :
      ∀ l q ns, l < links →
        (∀ name ∈ ns, '/' ∉ name.toList) →
          fs.walk aim l q ns = .ok spot → Spot.Sound fs spot)
    (hOk : fs.walk aim links place [name] = .ok spot) :
    Spot.Sound fs spot := by
  rw [walk_last hPlace hVoid hUp] at hOk
  by_cases hLong : Path.longestName < name.length
  · rw [if_pos hLong] at hOk
    contradiction
  rw [if_neg hLong] at hOk
  cases hEnd : fs.node? (place ++ [name]) with
  | none =>
      rw [hEnd] at hOk
      rw [← Except.ok.inj hOk]
      simp only [Path.isVoid, Bool.or_eq_false_iff,
        decide_eq_false_iff_not] at hVoid
      exact ⟨⟨mode, hPlace⟩, ⟨hVoid.1, hVoid.2, hUp, hName⟩, hEnd⟩
  | some node =>
      rw [hEnd] at hOk
      cases node with
      | link target =>
          by_cases hAim : aim = .entry
          · simp only [hAim, if_true] at hOk
            cases links <;>
              (rw [← Except.ok.inj hOk]; exact hEnd)
          · simp only [hAim, if_false] at hOk
            cases links with
            | zero => contradiction
            | succ l =>
                exact ihLinks l _ _ (by omega)
                  (Path.slash_notMem_of_mem_steps target) hOk
      | _ =>
          rw [← Except.ok.inj hOk]
          exact hEnd

/- A walk finds what is there, or a name that is free. -/
theorem sound_of_walk
    {links : Nat}
    {place : Place}
    {names : List String}
    (hNames : ∀ name ∈ names, '/' ∉ name.toList)
    {spot : Spot}
    (hOk : fs.walk aim links place names = .ok spot) :
    Spot.Sound fs spot := by
  induction links, place, names using walk_induction with
  | step links place names ihLinks ihNames =>
      cases names with
      | nil =>
          rw [walk_nil] at hOk
          cases hPlace : fs.node? place with
          | none => simp [hPlace] at hOk
          | some node =>
              rw [hPlace, Except.ok.injEq] at hOk
              rw [← hOk]
              exact hPlace
      | cons name names =>
          obtain ⟨mode, hPlace⟩ := directory_of_walk hOk
          obtain ⟨hName, hNames⟩ := List.forall_mem_cons.mp hNames
          have ihNames := fun q => ihNames q names (by simp) hNames
          by_cases hVoid : Path.isVoid name = true
          · rw [walk_void hPlace hVoid] at hOk
            exact ihNames place hOk
          by_cases hUp : name = ".."
          · rw [hUp, walk_up hPlace] at hOk
            exact ihNames place.dropLast hOk
          simp only [Bool.not_eq_true] at hVoid
          by_cases hMore : names = []
          · subst hMore
            exact sound_of_walk_last hPlace hVoid hUp hName
              (fun l q ns hLess => ihLinks l q ns hLess) hOk
          by_cases hSlash : aim = .output ∧ names = [""]
          · obtain ⟨rfl, rfl⟩ := hSlash
            rw [walk_output_slash hPlace hVoid hUp] at hOk
            contradiction
          · rw [walk_cons hMore
              (fun hAim hEq => hSlash ⟨hAim, hEq⟩)] at hOk
            cases hStride : fs.stride place name with
            | halt errno =>
                rw [hStride] at hOk
                contradiction
            | pass q =>
                rw [hStride] at hOk
                exact ihNames q hOk
            | turn q more =>
                rw [hStride] at hOk
                cases links with
                | zero => contradiction
                | succ l =>
                    refine ihLinks l q (more ++ names) (by omega)
                      ?_ hOk
                    have hTurn := stride_turn hStride
                    obtain ⟨target, rfl⟩ := hTurn
                    intro n hn
                    rcases List.mem_append.mp hn with hn | hn
                    · exact Path.slash_notMem_of_mem_names hn
                    · exact hNames n hn

end FileSystem

end PluginStudio

------------------------------------------------------------
-- Walks To Directories
------------------------------------------------------------

namespace PluginStudio

namespace FileSystem

variable {fs : FileSystem}

/- A slash at the end of a path does not change the way. -/
theorem advance_steps
    (links : Nat)
    (place : Place)
    (p : Path) :
    fs.advance links place p.steps =
      fs.advance links place p.names := by
  rw [advance_filter, advance_filter _ _ p.names, Path.steps]
  split
  · simp [List.filter_append, Path.isVoid]
  · rfl

private theorem enter_walk_nil
    (links : Nat)
    (place : Place) :
    (fs.walk .target links place []).bind enter =
      (fs.advance links place []).map Prod.fst := by
  rw [walk_nil, advance_nil]
  cases fs.node? place with
  | none => rfl
  | some node =>
      cases hNode : node.isDirectory <;>
        simp [Except.bind, Except.map, enter, hNode]

/- The last name of a walk, where a directory is asked for. -/
private theorem enter_walk_last
    (links : Nat)
    (place : Place)
    (name : String)
    (ihLinks :
      ∀ l q ns, l < links →
        (fs.walk .target l q ns).bind enter =
          (fs.advance l q ns).map Prod.fst) :
    (fs.walk .target links place [name]).bind enter =
      (fs.advance links place [name]).map Prod.fst := by
  cases hPlace : fs.node? place with
  | none =>
      rw [advance_cons, stride_of_absent hPlace]
      cases links <;>
        simp [walk, walkNames, hPlace, Except.bind, Except.map]
  | some node =>
      cases hNode : node.isDirectory with
      | false =>
          rw [advance_cons, stride_of_not_directory hPlace hNode]
          cases links <;>
            simp [walk, walkNames, hPlace, hNode, Except.bind,
              Except.map]
      | true =>
          obtain ⟨mode, rfl⟩ : ∃ mode, node = .directory mode := by
            cases node <;> simp [Node.isDirectory] at hNode ⊢
          cases hVoid : Path.isVoid name with
          | true =>
              rw [walk_void hPlace hVoid, advance_cons,
                stride_void hPlace hVoid]
              exact enter_walk_nil links place
          | false =>
              by_cases hUp : name = ".."
              · subst hUp
                rw [walk_up hPlace, advance_cons, stride_up hPlace]
                exact enter_walk_nil links place.dropLast
              rw [walk_last hPlace hVoid hUp, advance_cons,
                stride_name hPlace hVoid hUp]
              by_cases hLong : Path.longestName < name.length
              · simp [hLong, Except.bind, Except.map]
              simp only [hLong, if_false]
              cases hEnd : fs.node? (place ++ [name]) with
              | none => rfl
              | some node =>
                  cases node with
                  | link target =>
                      cases links with
                      | zero => rfl
                      | succ l =>
                          simp only [List.append_nil, reduceCtorEq,
                            if_false]
                          rw [ihLinks _ _ _ (by omega),
                            advance_steps]
                  | _ =>
                      simp only [advance_nil, hEnd]
                      rfl

/-
  To ask for a directory at the end of a walk is to advance all
  the way.
-/
theorem enter_walk
    (fs : FileSystem)
    (links : Nat)
    (place : Place)
    (names : List String) :
    (fs.walk .target links place names).bind enter =
      (fs.advance links place names).map Prod.fst := by
  induction links, place, names using walk_induction with
  | step links place names ihLinks ihNames =>
      cases names with
      | nil => exact enter_walk_nil links place
      | cons name names =>
          by_cases hMore : names = []
          · subst hMore
            exact enter_walk_last links place name ihLinks
          · rw [walk_cons hMore (by simp), advance_cons]
            cases fs.stride place name with
            | halt errno => rfl
            | pass q => exact ihNames q names (by simp)
            | turn q more =>
                cases links with
                | zero => rfl
                | succ l =>
                    exact ihLinks l q (more ++ names) (by omega)

end FileSystem

end PluginStudio

------------------------------------------------------------
-- Ways That Are Kept
------------------------------------------------------------

namespace PluginStudio

namespace FileSystem

/- All directories and links of one file system are in the other. -/
def Keeps (larger smaller : FileSystem) : Prop :=
  ∀ ⦃place : Place⦄ ⦃node : Node⦄,
    smaller.node? place = some node →
      (node.isDirectory = true ∨ ∃ target, node = .link target) →
        larger.node? place = some node

namespace Keeps

theorem refl (fs : FileSystem) : fs.Keeps fs :=
  fun _ _ h _ => h

theorem trans
    {large middle small : FileSystem}
    (hLarge : large.Keeps middle)
    (hSmall : middle.Keeps small) :
    large.Keeps small :=
  fun _ _ h hWay => hLarge (hSmall h hWay) hWay

theorem directory
    {larger smaller : FileSystem}
    (hKeeps : larger.Keeps smaller)
    {place : Place}
    {mode : Nat}
    (hPlace : smaller.node? place = some (.directory mode)) :
    larger.node? place = some (.directory mode) :=
  hKeeps hPlace (Or.inl rfl)

theorem link
    {larger smaller : FileSystem}
    (hKeeps : larger.Keeps smaller)
    {place : Place}
    {target : Path}
    (hPlace : smaller.node? place = some (.link target)) :
    larger.node? place = some (.link target) :=
  hKeeps hPlace (Or.inr ⟨target, rfl⟩)

end Keeps

variable {larger smaller : FileSystem}

/- An advance starts at a directory. -/
theorem directory_of_advance_start
    {links : Nat}
    {place : Place}
    {names : List String}
    {r : Place × Nat}
    (hOk : smaller.advance links place names = .ok r) :
    ∃ mode, smaller.node? place = some (.directory mode) := by
  cases names with
  | nil =>
      rw [advance_nil] at hOk
      cases hPlace : smaller.node? place with
      | none => simp [hPlace] at hOk
      | some node =>
          cases node with
          | directory mode => exact ⟨mode, rfl⟩
          | _ => simp [hPlace, Node.isDirectory] at hOk
  | cons name names =>
      apply directory_of_stride
      intro errno hHalt
      rw [advance_cons, hHalt] at hOk
      contradiction

/- The last step of an advance finds a directory or a link. -/
theorem node?_of_advance_name
    {links : Nat}
    {place : Place}
    {name : String}
    (hName : Path.IsName name)
    {r : Place × Nat}
    (hOk : smaller.advance links place [name] = .ok r) :
    name.length ≤ Path.longestName ∧
      ∃ node,
        smaller.node? (place ++ [name]) = some node ∧
          (node.isDirectory = true ∨ ∃ target, node = .link target) := by
  obtain ⟨mode, hPlace⟩ := directory_of_advance_start hOk
  rw [advance_cons,
    stride_name hPlace (isVoid_eq_false_of_isName hName)
      hName.2.2.1] at hOk
  by_cases hLong : Path.longestName < name.length
  · rw [if_pos hLong] at hOk
    contradiction
  rw [if_neg hLong] at hOk
  refine ⟨Nat.not_lt.mp hLong, ?_⟩
  cases hNode : smaller.node? (place ++ [name]) with
  | none =>
      rw [hNode] at hOk
      contradiction
  | some node =>
      refine ⟨node, rfl, ?_⟩
      rw [hNode] at hOk
      cases node with
      | directory mode => exact Or.inl rfl
      | link target => exact Or.inr ⟨target, rfl⟩
      | _ => simp [advance_nil, hNode, Node.isDirectory] at hOk

/- A name that led to a directory or a link still does. -/
private theorem stride_of_keeps
    (hKeeps : larger.Keeps smaller)
    {place : Place}
    {name : String}
    (hHalt : ∀ errno, smaller.stride place name ≠ .halt errno)
    (hPass :
      ∀ q, smaller.stride place name = .pass q →
        ∃ mode, smaller.node? q = some (.directory mode)) :
    larger.stride place name = smaller.stride place name := by
  obtain ⟨mode, hPlace⟩ := directory_of_stride hHalt
  have hLarge := hKeeps.directory hPlace
  by_cases hVoid : Path.isVoid name = true
  · rw [stride_void hPlace hVoid, stride_void hLarge hVoid]
  by_cases hUp : name = ".."
  · rw [hUp, stride_up hPlace, stride_up hLarge]
  simp only [Bool.not_eq_true] at hVoid
  rw [stride_name hPlace hVoid hUp] at hHalt hPass ⊢
  rw [stride_name hLarge hVoid hUp]
  by_cases hLong : Path.longestName < name.length
  · simp [hLong]
  simp only [hLong, if_false] at hHalt hPass ⊢
  cases hNode : smaller.node? (place ++ [name]) with
  | none => simp [hNode] at hHalt
  | some node =>
      cases node with
      | link target => rw [hKeeps.link hNode]
      | directory mode => rw [hKeeps.directory hNode]
      | _ => simp [hNode] at hPass

/- An advance succeeds as long as its ways are kept. -/
theorem advance_of_keeps
    (hKeeps : larger.Keeps smaller)
    {links : Nat}
    {place : Place}
    {names : List String}
    {r : Place × Nat}
    (hOk : smaller.advance links place names = .ok r) :
    larger.advance links place names = .ok r := by
  induction links, place, names using walk_induction with
  | step links place names ihLinks ihNames =>
      cases names with
      | nil =>
          obtain ⟨mode, hPlace⟩ := directory_of_advance_start hOk
          rw [advance_nil_of_directory hPlace] at hOk
          rw [advance_nil_of_directory (hKeeps.directory hPlace), hOk]
      | cons name names =>
          rcases advance_cons_ok hOk with
            ⟨q, hStride, hOk⟩ | ⟨q, more, l, rfl, hStride, hOk⟩
          · have hSame :
                larger.stride place name =
                  smaller.stride place name := by
              apply stride_of_keeps hKeeps
              · simp [hStride]
              · intro p hPass
                rw [hStride, Stride.pass.injEq] at hPass
                rw [← hPass]
                exact directory_of_advance_start hOk
            rw [advance_cons, hSame, hStride]
            exact ihNames q names (by simp) hOk
          · have hSame :
                larger.stride place name =
                  smaller.stride place name := by
              apply stride_of_keeps hKeeps <;> simp [hStride]
            rw [advance_cons, hSame, hStride]
            exact ihLinks l q (more ++ names) (by omega) hOk

/-
  The end of a walk is something at a place that leads nowhere
  else, or the place is free for it.
-/
def Spot.Ends
    (q : Place) :
    Spot → Prop
  | .found place node =>
    place = q ∧ node.isDirectory = false ∧ ∀ target, node ≠ .link target
  | .vacant place name => place ++ [name] = q

/- The last name of such a walk, once something stands at the place. -/
private theorem walk_last_of_keeps
    (hKeeps : larger.Keeps smaller)
    {aim : Aim}
    (hAim : aim ≠ .entry)
    {links : Nat}
    {place : Place}
    {mode : Nat}
    (hPlace : smaller.node? place = some (.directory mode))
    {name : String}
    (hVoid : Path.isVoid name = false)
    (hUp : name ≠ "..")
    {q : Place}
    {node : Node}
    (hNode : larger.node? q = some node)
    (hLeaf : ∀ target, node ≠ .link target)
    {spot : Spot}
    (hEnds : Spot.Ends q spot)
    (ihLinks :
      ∀ l p ns, l < links →
        smaller.walk aim l p ns = .ok spot →
          larger.walk .target l p ns = .ok (.found q node))
    (hOk : smaller.walk aim links place [name] = .ok spot) :
    larger.walk .target links place [name] = .ok (.found q node) := by
  have hLarge := hKeeps.directory hPlace
  rw [walk_last hPlace hVoid hUp] at hOk
  by_cases hLong : Path.longestName < name.length
  · rw [if_pos hLong] at hOk
    contradiction
  rw [if_neg hLong] at hOk
  cases hOld : smaller.node? (place ++ [name]) with
  | none =>
      rw [hOld, Except.ok.injEq] at hOk
      subst hOk
      rw [← hEnds] at hNode ⊢
      exact walk_last_found hLarge hVoid hUp hLong hNode hLeaf links
  | some old =>
      rw [hOld] at hOk
      cases old with
      | link target =>
          rw [walk_last hLarge hVoid hUp, if_neg hLong,
            hKeeps.link hOld]
          cases links with
          | zero => simp [hAim] at hOk
          | succ l =>
              simp only [hAim, if_false] at hOk
              exact ihLinks l _ _ (by omega) hOk
      | _ =>
          simp only [Except.ok.injEq] at hOk
          subst hOk
          rw [← hEnds.1] at hNode ⊢
          exact walk_last_found hLarge hVoid hUp hLong hNode hLeaf links

/-
  A walk finds what stands at its end, or what has come to stand
  there, as long as its ways are kept.
-/
theorem walk_of_keeps
    (hKeeps : larger.Keeps smaller)
    {aim : Aim}
    (hAim : aim ≠ .entry)
    {links : Nat}
    {place q : Place}
    {names : List String}
    {node : Node}
    (hNode : larger.node? q = some node)
    (hLeaf : ∀ target, node ≠ .link target)
    {spot : Spot}
    (hEnds : Spot.Ends q spot)
    (hOk : smaller.walk aim links place names = .ok spot) :
    larger.walk .target links place names = .ok (.found q node) := by
  induction links, place, names using walk_induction with
  | step links place names ihLinks ihNames =>
      cases names with
      | nil =>
          rw [walk_nil] at hOk ⊢
          cases hPlace : smaller.node? place with
          | none => simp [hPlace] at hOk
          | some old =>
              rw [hPlace, Except.ok.injEq] at hOk
              subst hOk
              rw [hEnds.1, hNode]
      | cons name names =>
          have hStart := directory_of_walk hOk
          rcases hStart with ⟨mode, hPlace⟩
          have hLarge := hKeeps.directory hPlace
          have ihNames := fun p => ihNames p names (by simp)
          by_cases hVoid : Path.isVoid name = true
          · rw [walk_void hPlace hVoid] at hOk
            rw [walk_void hLarge hVoid]
            exact ihNames place hOk
          by_cases hUp : name = ".."
          · rw [hUp, walk_up hPlace] at hOk
            rw [hUp, walk_up hLarge]
            exact ihNames place.dropLast hOk
          simp only [Bool.not_eq_true] at hVoid
          by_cases hMore : names = []
          · subst hMore
            exact walk_last_of_keeps hKeeps hAim hPlace hVoid hUp hNode
              hLeaf hEnds ihLinks hOk
          have hSlash : aim = .output → names ≠ [""] := by
            rintro rfl rfl
            rw [walk_output_slash hPlace hVoid hUp] at hOk
            contradiction
          rw [walk_cons hMore hSlash] at hOk
          rw [walk_cons hMore (by simp)]
          have hSame :
              larger.stride place name =
                smaller.stride place name := by
            apply stride_of_keeps hKeeps
            · intro errno hHalt
              simp [hHalt] at hOk
            · intro p hPass
              rw [hPass] at hOk
              rcases List.exists_cons_of_ne_nil hMore with
                ⟨next, rest, rfl⟩
              exact directory_of_walk hOk
          rw [hSame]
          cases hStride : smaller.stride place name with
          | halt errno => simp [hStride] at hOk
          | pass p =>
              rw [hStride] at hOk
              exact ihNames p hOk
          | turn p more =>
              rw [hStride] at hOk
              cases links with
              | zero => simp at hOk
              | succ l =>
                  exact ihLinks l p (more ++ names) (by omega) hOk

end FileSystem

end PluginStudio

------------------------------------------------------------
-- Where A Path Leads
------------------------------------------------------------

namespace PluginStudio

namespace FileSystem

/- The directory that a path leads to, and the links left. -/
def reach
    (fs : FileSystem)
    (dir : Place)
    (p : Path) : Except Errno (Place × Nat) :=
  fs.advance mostLinks (startOf dir p) p.names

variable {fs : FileSystem} {dir : Place}

/- Single dots do not matter on the way. -/
theorem advance_names
    (links : Nat)
    (place : Place)
    (p : Path) :
    fs.advance links place p.names =
      fs.advance links place p.parts := by
  rw [advance_filter, advance_filter _ _ p.parts]
  congr 1
  rw [Path.parts, List.filter_filter]
  apply List.filter_congr
  intro name _
  by_cases hDot : name = "." <;> simp [Path.isVoid, hDot]

theorem reach_eq_parts
    (p : Path) :
    fs.reach dir p =
      fs.advance mostLinks (startOf dir p) p.parts :=
  advance_names ..

theorem reach_of_keeps
    {larger smaller : FileSystem}
    (hKeeps : larger.Keeps smaller)
    {p : Path}
    {r : Place × Nat}
    (hOk : smaller.reach dir p = .ok r) :
    larger.reach dir p = .ok r :=
  advance_of_keeps hKeeps hOk

/- What a path names hangs on where the path starts. -/
theorem stat_of_startOf
    {dir' : Place}
    {p : Path}
    (hStart : startOf dir p = startOf dir' p)
    (follow : Bool) :
    fs.stat dir follow p = fs.stat dir' follow p := by
  unfold stat resolve
  rw [hStart]

/- A path that finds anything has nothing wrong with it. -/
theorem stat_eq_ok_iff
    {p : Path}
    {follow : Bool}
    {q : Place}
    {node : Node} :
    fs.stat dir follow p = .ok (q, node) ↔
      p.check = .ok () ∧
        fs.walk (if follow then .target else .entry) mostLinks
            (startOf dir p) p.steps =
          .ok (.found q node) := by
  unfold stat resolve
  cases hCheck : p.check with
  | error fault => simp [bind, Except.bind]
  | ok u =>
      cases hWalk :
          fs.walk (if follow then .target else .entry) mostLinks
            (startOf dir p) p.steps with
      | error errno => simp [bind, Except.bind, liftErrno]
      | ok spot =>
          cases spot <;>
            simp [bind, Except.bind, liftErrno, pure, Except.pure]

theorem stat_file_iff
    {p : Path}
    {q : Place}
    {bits : Nat}
    {content : Bytes} :
    fs.stat dir true p = .ok (q, .file bits content) ↔
      p.check = .ok () ∧
        fs.walk .target mostLinks (startOf dir p) p.steps =
          .ok (.found q (.file bits content)) :=
  stat_eq_ok_iff

/- A path names a file as long as its ways are kept. -/
theorem stat_of_keeps
    {larger smaller : FileSystem}
    (hKeeps : larger.Keeps smaller)
    {p : Path}
    {q : Place}
    {bits bits' : Nat}
    {content content' : Bytes}
    (hFile : larger.node? q = some (.file bits' content'))
    (hStat : smaller.stat dir true p = .ok (q, .file bits content)) :
    larger.stat dir true p = .ok (q, .file bits' content') := by
  rcases stat_file_iff.mp hStat with ⟨hCheck, hWalk⟩
  have hEnds : Spot.Ends q (.found q (.file bits content)) :=
    ⟨rfl, rfl, by simp⟩
  exact stat_file_iff.mpr
    ⟨hCheck, walk_of_keeps hKeeps (by decide) hFile (by simp) hEnds
      hWalk⟩

/- The place of a path's last name is where the others lead. -/
theorem locate_eq
    {p : Path}
    (hCheck : p.check = .ok ())
    {ns : List String}
    {name : String}
    (hNames : p.names = ns ++ [name]) :
    fs.locate dir p =
      match fs.advance mostLinks (startOf dir p) ns with
      | .error errno => .error (.system errno)
      | .ok (q, _) => .ok ⟨q, .ofName name, p.endsWithSlash⟩ := by
  have hEnter := fs.enter_walk mostLinks (startOf dir p) ns
  simp only [locate, hCheck, hNames, List.getLast?_concat,
    List.dropLast_concat]
  cases hWalk : fs.walk .target mostLinks (startOf dir p) ns with
  | error errno =>
      rw [hWalk] at hEnter
      cases hAdvance : fs.advance mostLinks (startOf dir p) ns with
      | error errno' =>
          rw [hAdvance] at hEnter
          simp only [Except.bind, Except.map,
            Except.error.injEq] at hEnter
          rw [hEnter]
          rfl
      | ok r =>
          rw [hAdvance] at hEnter
          simp [Except.bind, Except.map] at hEnter
  | ok spot =>
      rw [hWalk] at hEnter
      change enter spot = _ at hEnter
      cases hAdvance : fs.advance mostLinks (startOf dir p) ns with
      | error errno =>
          rw [hAdvance] at hEnter
          simp only [bind, Except.bind, liftErrno, hEnter]
          rfl
      | ok r =>
          rw [hAdvance] at hEnter
          simp only [bind, Except.bind, liftErrno, hEnter]
          rfl

/- A path names a directory if all of it can be walked. -/
theorem stat_directory_iff
    {p : Path}
    (hCheck : p.check = .ok ())
    (q : Place) :
    (∃ mode, fs.stat dir true p = .ok (q, .directory mode)) ↔
      ∃ links, fs.reach dir p = .ok (q, links) := by
  have hEnter := fs.enter_walk mostLinks (startOf dir p) p.steps
  rw [advance_steps] at hEnter
  rw [reach]
  simp only [stat, resolve, hCheck, if_true, bind, Except.bind,
    liftErrno]
  cases hWalk : fs.walk .target mostLinks (startOf dir p) p.steps with
  | error errno =>
      rw [hWalk] at hEnter
      cases hAdvance :
          fs.advance mostLinks (startOf dir p) p.names with
      | error errno => simp
      | ok r =>
          rw [hAdvance] at hEnter
          simp [Except.bind, Except.map] at hEnter
  | ok spot =>
      rw [hWalk] at hEnter
      change enter spot = _ at hEnter
      cases hAdvance :
          fs.advance mostLinks (startOf dir p) p.names with
      | error errno =>
          rw [hAdvance] at hEnter
          cases spot with
          | vacant place name => simp
          | found place node =>
              cases node <;>
                simp_all [enter, Node.isDirectory, Except.map, pure,
                  Except.pure]
      | ok r =>
          rw [hAdvance] at hEnter
          cases spot with
          | vacant place name => simp [enter, Except.map] at hEnter
          | found place node =>
              obtain ⟨q', l⟩ := r
              cases node <;>
                simp_all [enter, Node.isDirectory, Except.map, pure,
                  Except.pure]

end FileSystem

end PluginStudio
