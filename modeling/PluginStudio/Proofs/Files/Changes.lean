import PluginStudio.Proofs.Files.Walks

/-
  What an operation on a file system can change.

  Main declarations:
    * `locate_name`, `locate_of_name`
    * `create_ok`, `removeDir_ok`, `unlink_ok`
    * `rename_entries`, `rename_ok`
    * `openToWrite_ok`
    * `WellFormed.create`, `WellFormed.removeDir`,
      `WellFormed.unlink`, `WellFormed.rename`,
      `WellFormed.write`
    * `WellFormed.makeDirs`, `WellFormed.removeTree`

  For each operation one lemma says all that it can have done
  when it succeeds, and whatever else is known of the operation
  comes from there.
-/

------------------------------------------------------------
-- Results
------------------------------------------------------------

namespace PluginStudio

/- Two steps succeed if each does. -/
theorem exists_of_bind_ok
    {ε α β : Type}
    {first : Except ε α}
    {next : α → Except ε β}
    {b : β}
    (hOk : (first >>= next) = .ok b) :
    ∃ a, first = .ok a ∧ next a = .ok b := by
  cases first with
  | error e => contradiction
  | ok a => exact ⟨a, rfl, hOk⟩

end PluginStudio

------------------------------------------------------------
-- Entries
------------------------------------------------------------

namespace PluginStudio

namespace FileSystem

variable {fs fs' : FileSystem} {dir : Place} {p : Path}

/- Is a place the directory to which a path's parent leads? -/
def IsHome
    (fs : FileSystem)
    (dir : Place)
    (p : Path)
    (home : Place) : Prop :=
  ∃ parent links,
    p.parent? = some parent ∧ fs.reach dir parent = .ok (home, links)

/-
  A path whose last part is a name, the directory to which the
  names before it lead, and the name.
-/
structure Entry
    (fs : FileSystem)
    (dir : Place)
    (p : Path)
    (place : Place)
    (name : String) : Prop where
  check : p.check = .ok ()
  isName : Path.IsName name
  way :
    ∃ ns links,
      p.names = ns ++ [name] ∧
        fs.advance mostLinks (startOf dir p) ns =
          .ok (place, links)

namespace Entry

variable {place : Place} {name : String}

theorem directory
    (hEntry : fs.Entry dir p place name) :
    ∃ mode, fs.node? place = some (.directory mode) := by
  obtain ⟨ns, links, -, hAdvance⟩ := hEntry.way
  exact directory_of_advance hAdvance

theorem locate
    (hEntry : fs.Entry dir p place name) :
    fs.locate dir p = .ok ⟨place, .name name, p.endsWithSlash⟩ := by
  obtain ⟨ns, links, hNames, hAdvance⟩ := hEntry.way
  rw [locate_eq hEntry.check hNames, hAdvance, LastName.ofName,
    if_neg hEntry.isName.2.1, if_neg hEntry.isName.2.2.1]

theorem of_keeps
    (hKeeps : fs'.Keeps fs)
    (hEntry : fs.Entry dir p place name) :
    fs'.Entry dir p place name := by
  obtain ⟨ns, links, hNames, hAdvance⟩ := hEntry.way
  exact ⟨hEntry.check, hEntry.isName, ns, links, hNames,
    advance_of_keeps hKeeps hAdvance⟩

/- A path is the entry of one name. -/
theorem unique
    {place' : Place}
    {name' : String}
    (hEntry : fs.Entry dir p place name)
    (hOther : fs.Entry dir p place' name') :
    place' = place ∧ name' = name := by
  obtain ⟨ns, links, hNames, hAdvance⟩ := hEntry.way
  obtain ⟨ns', links', hNames', hAdvance'⟩ := hOther.way
  rw [hNames] at hNames'
  obtain ⟨rfl, hLast⟩ := List.append_inj' hNames' rfl
  rw [hAdvance, Except.ok.injEq, Prod.mk.injEq] at hAdvance'
  rw [List.cons.injEq] at hLast
  exact ⟨hAdvance'.1.symm, hLast.1.symm⟩

/- The name is the last of the path. -/
theorem fileName?_eq
    (hEntry : fs.Entry dir p place name) :
    p.fileName? = some name := by
  obtain ⟨ns, -, hNames, -⟩ := hEntry.way
  exact Path.fileName?_of_names hNames hEntry.isName

/- The path leads to what stands under the name, if it can. -/
theorem reach
    (hEntry : fs.Entry dir p place name)
    (hLong : name.length ≤ Path.longestName)
    {mode : Nat}
    (hNode : fs.node? (place ++ [name]) = some (.directory mode)) :
    ∃ links, fs.reach dir p = .ok (place ++ [name], links) := by
  obtain ⟨ns, links, hNames, hAdvance⟩ := hEntry.way
  obtain ⟨bits, hPlace⟩ := hEntry.directory
  refine ⟨links, ?_⟩
  rw [FileSystem.reach, hNames, advance_append, hAdvance]
  simp only
  rw [advance_cons,
    stride_name hPlace (isVoid_eq_false_of_isName hEntry.isName)
      hEntry.isName.2.2.1,
    if_neg (Nat.not_lt.mpr hLong), hNode]
  exact advance_nil_of_directory hNode links

/- What stands under the name, unless it is a link to follow. -/
theorem stat
    (hEntry : fs.Entry dir p place name)
    (hSlash : p.endsWithSlash = false)
    {follow : Bool}
    (hFollow :
      follow = false ∨
        ∀ target, fs.node? (place ++ [name]) ≠ some (.link target)) :
    fs.stat dir follow p =
      if Path.longestName < name.length then
        refuse .nameTooLong
      else
        match fs.node? (place ++ [name]) with
        | none => refuse .noEntry
        | some node => .ok (place ++ [name], node) := by
  obtain ⟨ns, links, hNames, hAdvance⟩ := hEntry.way
  obtain ⟨mode, hPlace⟩ := hEntry.directory
  have hWalk :
      ∀ aim, aim ≠ .output →
        fs.walk aim mostLinks (startOf dir p) p.steps =
          fs.walk aim links place [name] := by
    intro aim hAim
    rw [Path.steps, if_neg (by simp [hSlash]), hNames,
      walk_append (by simp) (by simp [hAim]), hAdvance]
  simp only [FileSystem.stat, resolve, hEntry.check, bind,
    Except.bind]
  rw [hWalk _ (by cases follow <;> simp),
    walk_last hPlace (isVoid_eq_false_of_isName hEntry.isName)
      hEntry.isName.2.2.1]
  by_cases hLong : Path.longestName < name.length
  · simp [hLong, liftErrno, refuse]
  simp only [hLong, if_false]
  cases hNode : fs.node? (place ++ [name]) with
  | none => rfl
  | some node =>
      cases node with
      | link target =>
          rcases hFollow with rfl | hLink
          · cases links <;> rfl
          · exact absurd hNode (hLink target)
      | _ => rfl

/- A directory under the name is all that the path can lead to. -/
theorem node?_of_reach
    (hEntry : fs.Entry dir p place name)
    {r : Place × Nat}
    (hReach : fs.reach dir p = .ok r) :
    name.length ≤ Path.longestName ∧
      ∃ node,
        fs.node? (place ++ [name]) = some node ∧
          (node.isDirectory = true ∨ ∃ target, node = .link target) := by
  obtain ⟨ns, links, hNames, hAdvance⟩ := hEntry.way
  rw [FileSystem.reach, hNames, advance_append, hAdvance] at hReach
  exact node?_of_advance_name hEntry.isName hReach

end Entry

/- A path that ends in a name is an entry, if its way is there. -/
theorem entry_of_advance
    (hCheck : p.check = .ok ())
    {ns : List String}
    {name : String}
    (hNames : p.names = ns ++ [name])
    (hName : Path.IsName name)
    {r : Place × Nat}
    (hOk : fs.advance mostLinks (startOf dir p) ns = .ok r) :
    fs.Entry dir p r.1 name :=
  ⟨hCheck, hName, ns, r.2, hNames, hOk⟩

/- A name in a directory that is there is an entry of it. -/
theorem entry_join
    {q : Path}
    {name : String}
    (hName : Path.IsName name)
    (hCheck : (q.join name).check = .ok ())
    {r : Place × Nat}
    (hReach : fs.reach dir q = .ok r) :
    fs.Entry dir (q.join name) r.1 name := by
  have hRelative := Path.isAbsolute_of_notMem hName.2.2.2
  have hNames : (q.join name).names = q.names ++ [name] := by
    rw [Path.names_join _ hRelative, Path.names_of_isName hName]
  refine entry_of_advance hCheck hNames hName ?_
  rw [startOf, Path.isAbsolute_join _ hRelative, ← startOf]
  exact hReach

/- Whatever a path that ends in a name leads to is an entry. -/
theorem entry_of_reach
    (hCheck : p.check = .ok ())
    (hEnds : p.EndsInName)
    {r : Place × Nat}
    (hReach : fs.reach dir p = .ok r) :
    ∃ place name, fs.Entry dir p place name := by
  obtain ⟨-, name, hLast, hName⟩ := hEnds
  obtain ⟨ns, hNames⟩ := List.getLast?_eq_some_iff.mp hLast
  rw [reach, hNames, advance_append] at hReach
  cases hAdvance : fs.advance mostLinks (startOf dir p) ns with
  | error errno =>
      rw [hAdvance] at hReach
      contradiction
  | ok r =>
      exact ⟨r.1, name,
        entry_of_advance hCheck hNames hName hAdvance⟩

/- A walk along a path that ends in a name ends with its entry. -/
theorem walk_of_resolve
    (hEnds : p.EndsInName)
    {aim : Aim}
    {spot : Spot}
    (hResolve : fs.resolve dir aim p = .ok spot) :
    ∃ place name links,
      fs.Entry dir p place name ∧
        p.names.getLast? = some name ∧
          fs.walk aim links place [name] = .ok spot := by
  obtain ⟨hSlash, name, hLast, hName⟩ := hEnds
  obtain ⟨ns, hNames⟩ := List.getLast?_eq_some_iff.mp hLast
  have hSteps : p.steps = ns ++ [name] := by
    simp [Path.steps, hSlash, hNames]
  obtain ⟨u, hCheck, hLift⟩ := exists_of_bind_ok hResolve
  rw [hSteps, walk_append (by simp) (by simp [hName.1])] at hLift
  rcases hAdvance : fs.advance mostLinks (startOf dir p) ns with
    errno | ⟨place, links⟩
  · rw [hAdvance] at hLift
    contradiction
  rw [hAdvance] at hLift
  simp only at hLift
  cases hWalk : fs.walk aim links place [name] with
  | error errno =>
      rw [hWalk] at hLift
      contradiction
  | ok found =>
      rw [hWalk, liftErrno, Except.ok.injEq] at hLift
      subst hLift
      exact ⟨place, name, links,
        entry_of_advance hCheck hNames hName hAdvance, hLast, hWalk⟩

/- The last step finds what stands there, unless a link leads on. -/
theorem Entry.spot_of_walk
    {place : Place}
    {name : String}
    (hEntry : fs.Entry dir p place name)
    {aim : Aim}
    {links : Nat}
    {spot : Spot}
    (hWalk : fs.walk aim links place [name] = .ok spot) :
    name.length ≤ Path.longestName ∧
      match fs.node? (place ++ [name]) with
      | none => spot = .vacant place name
      | some node =>
        (aim = .entry ∨ ∀ target, node ≠ .link target) →
          spot = .found (place ++ [name]) node := by
  obtain ⟨mode, hPlace⟩ := hEntry.directory
  rw [walk_last hPlace (isVoid_eq_false_of_isName hEntry.isName)
    hEntry.isName.2.2.1] at hWalk
  by_cases hLong : Path.longestName < name.length
  · rw [if_pos hLong] at hWalk
    contradiction
  rw [if_neg hLong] at hWalk
  refine ⟨Nat.not_lt.mp hLong, ?_⟩
  cases hNode : fs.node? (place ++ [name]) with
  | none =>
      rw [hNode] at hWalk
      exact (Except.ok.inj hWalk).symm
  | some node =>
      rw [hNode] at hWalk
      cases node with
      | link target =>
          rintro (rfl | hLink)
          · cases links <;> exact (Except.ok.inj hWalk).symm
          · exact absurd rfl (hLink target)
      | _ => exact fun _ => (Except.ok.inj hWalk).symm

/- What is found under a name is an entry. -/
theorem entry_of_stat
    (hEnds : p.EndsInName)
    {q : Place}
    {node : Node}
    (hStat : fs.stat dir false p = .ok (q, node)) :
    ∃ place name,
      fs.Entry dir p place name ∧
        name.length ≤ Path.longestName ∧
          q = place ++ [name] ∧
            fs.node? (place ++ [name]) = some node := by
  obtain ⟨spot, hSpot, hFound⟩ := exists_of_bind_ok hStat
  obtain ⟨place, name, links, hEntry, -, hWalk⟩ :=
    walk_of_resolve hEnds hSpot
  obtain ⟨hLong, hCases⟩ := hEntry.spot_of_walk hWalk
  refine ⟨place, name, hEntry, hLong, ?_⟩
  cases hNode : fs.node? (place ++ [name]) with
  | none =>
      rw [hNode] at hCases
      subst hCases
      contradiction
  | some found =>
      rw [hNode] at hCases
      obtain rfl := hCases (Or.inl rfl)
      obtain ⟨rfl, rfl⟩ := Prod.mk.inj (Except.ok.inj hFound)
      exact ⟨rfl, rfl⟩

/- A path that names anything has an entry with something in it. -/
theorem entry_of_pathExists
    (hEnds : p.EndsInName)
    (hExists : fs.pathExists dir p = true) :
    ∃ place name node,
      fs.Entry dir p place name ∧
        name.length ≤ Path.longestName ∧
          fs.node? (place ++ [name]) = some node := by
  rw [pathExists] at hExists
  cases hStat : fs.stat dir true p with
  | error fault =>
      rw [hStat] at hExists
      contradiction
  | ok found =>
      obtain ⟨spot, hSpot, hFound⟩ := exists_of_bind_ok hStat
      obtain ⟨place, name, links, hEntry, -, hWalk⟩ :=
        walk_of_resolve hEnds hSpot
      obtain ⟨hLong, hCases⟩ := hEntry.spot_of_walk hWalk
      cases hNode : fs.node? (place ++ [name]) with
      | none =>
          rw [hNode] at hCases
          subst hCases
          contradiction
      | some node => exact ⟨place, name, node, hEntry, hLong, hNode⟩

/- A location that ends with a name is an entry. -/
theorem entry_of_locate
    {location : Location}
    {name : String}
    (hLocate : fs.locate dir p = .ok location)
    (hLast : location.last = .name name) :
    fs.Entry dir p location.dir name := by
  cases hCheck : p.check with
  | error fault =>
      simp [locate, hCheck, bind, Except.bind] at hLocate
  | ok _ =>
      rcases List.eq_nil_or_concat p.names with
        hNames | ⟨ns, last, hNames⟩
      · simp only [locate, hCheck, hNames, bind, Except.bind,
          List.getLast?_nil, pure, Except.pure,
          Except.ok.injEq] at hLocate
        rw [← hLocate] at hLast
        contradiction
      · rw [List.concat_eq_append] at hNames
        rw [locate_eq hCheck hNames] at hLocate
        cases hAdvance :
            fs.advance mostLinks (startOf dir p) ns with
        | error errno =>
            rw [hAdvance] at hLocate
            contradiction
        | ok r =>
            rw [hAdvance, Except.ok.injEq] at hLocate
            subst hLocate
            have hMem : last ∈ p.names := by simp [hNames]
            simp only [LastName.ofName] at hLast
            split_ifs at hLast with hDot hUp
            rw [LastName.name.injEq] at hLast
            subst hLast
            exact ⟨hCheck,
              ⟨Path.ne_empty_of_mem_names hMem, hDot, hUp,
                Path.slash_notMem_of_mem_names hMem⟩,
              ns, r.2, hNames, hAdvance⟩

end FileSystem

end PluginStudio

------------------------------------------------------------
-- Single Operations
------------------------------------------------------------

namespace PluginStudio

namespace FileSystem

variable {fs fs' : FileSystem} {dir : Place} {p : Path}

section OfEntry

variable {place : Place} {name : String}

theorem create_of_entry
    (hEntry : fs.Entry dir p place name)
    (node : Node) :
    fs.create dir p node =
      if Path.longestName < name.length then
        refuse .nameTooLong
      else if (fs.node? (place ++ [name])).isSome then
        refuse .alreadyExists
      else if p.endsWithSlash && !node.isDirectory then
        refuse .noEntry
      else
        .ok (fs.put (place ++ [name]) node) := by
  rw [create, hEntry.locate]
  by_cases hLong : Path.longestName < name.length <;>
    simp only [bind, Except.bind, checkName, hLong, if_true,
      if_false] <;>
    rfl

theorem removeDir_of_entry
    (hEntry : fs.Entry dir p place name) :
    fs.removeDir dir p =
      if Path.longestName < name.length then
        refuse .nameTooLong
      else
        match fs.node? (place ++ [name]) with
        | none => refuse .noEntry
        | some node =>
          if !node.isDirectory then refuse .notDirectory
          else if fs.hasChildren (place ++ [name]) then
            refuse .notEmpty
          else
            .ok (fs.erase (place ++ [name])) := by
  rw [removeDir, hEntry.locate]
  by_cases hLong : Path.longestName < name.length <;>
    simp only [bind, Except.bind, checkName, hLong, if_true,
      if_false] <;>
    rfl

theorem unlink_of_entry
    (hEntry : fs.Entry dir p place name) :
    fs.unlink dir p =
      if Path.longestName < name.length then
        refuse .nameTooLong
      else
        match fs.node? (place ++ [name]) with
        | none => refuse .noEntry
        | some node =>
          if node.isDirectory then refuse .isDirectory
          else if p.endsWithSlash then refuse .notDirectory
          else .ok (fs.erase (place ++ [name])) := by
  rw [unlink, hEntry.locate]
  by_cases hLong : Path.longestName < name.length <;>
    simp only [bind, Except.bind, checkName, hLong, if_true,
      if_false] <;>
    rfl

end OfEntry

/- A new entry stands under a free name. -/
theorem create_ok
    {node : Node}
    (hOk : fs.create dir p node = .ok fs') :
    ∃ place name,
      fs.Entry dir p place name ∧
        name.length ≤ Path.longestName ∧
          fs.node? (place ++ [name]) = none ∧
            fs' = fs.put (place ++ [name]) node := by
  obtain ⟨location, hLocate, hRest⟩ := exists_of_bind_ok hOk
  cases hLast : location.last with
  | name name =>
      have hEntry := entry_of_locate hLocate hLast
      rw [create_of_entry hEntry] at hOk
      split_ifs at hOk with hLong hSome hSlash
      · contradiction
      · contradiction
      · contradiction
      · exact ⟨location.dir, name, hEntry, Nat.not_lt.mp hLong,
          by simpa using hSome, (Except.ok.inj hOk).symm⟩
  | _ =>
      rw [hLast] at hRest
      contradiction

/- A directory that goes has nothing below it. -/
theorem removeDir_ok
    (hOk : fs.removeDir dir p = .ok fs') :
    ∃ place name,
      fs.Entry dir p place name ∧
        fs.hasChildren (place ++ [name]) = false ∧
          fs' = fs.erase (place ++ [name]) := by
  obtain ⟨location, hLocate, hRest⟩ := exists_of_bind_ok hOk
  cases hLast : location.last with
  | name name =>
      have hEntry := entry_of_locate hLocate hLast
      rw [removeDir_of_entry hEntry] at hOk
      refine ⟨location.dir, name, hEntry, ?_⟩
      cases hNode : fs.node? (location.dir ++ [name]) with
      | none =>
          rw [hNode] at hOk
          split_ifs at hOk <;> contradiction
      | some node =>
          rw [hNode] at hOk
          simp only at hOk
          split_ifs at hOk with hLong hDir hMore
          · contradiction
          · contradiction
          · contradiction
          · exact ⟨by simpa using hMore, (Except.ok.inj hOk).symm⟩
  | _ =>
      rw [hLast] at hRest
      contradiction

/- No directory is unlinked. -/
theorem unlink_ok
    (hOk : fs.unlink dir p = .ok fs') :
    ∃ place name node,
      fs.Entry dir p place name ∧
        fs.node? (place ++ [name]) = some node ∧
          node.isDirectory = false ∧
            fs' = fs.erase (place ++ [name]) := by
  obtain ⟨location, hLocate, hRest⟩ := exists_of_bind_ok hOk
  cases hLast : location.last with
  | name name =>
      have hEntry := entry_of_locate hLocate hLast
      rw [unlink_of_entry hEntry] at hOk
      cases hNode : fs.node? (location.dir ++ [name]) with
      | none =>
          rw [hNode] at hOk
          split_ifs at hOk <;> contradiction
      | some node =>
          rw [hNode] at hOk
          simp only at hOk
          refine ⟨location.dir, name, node, hEntry, hNode, ?_⟩
          split_ifs at hOk with hLong hDir hSlash
          · contradiction
          · contradiction
          · contradiction
          · exact ⟨by simpa using hDir, (Except.ok.inj hOk).symm⟩
  | _ =>
      rw [hLast] at hRest
      contradiction

/- An entry that is renamed, to another name. -/
theorem rename_of_entry
    {source target : Path}
    {place place' : Place}
    {name name' : String}
    (hSource : fs.Entry dir source place name)
    (hTarget : fs.Entry dir target place' name')
    (hLong : name.length ≤ Path.longestName) :
    fs.rename dir source target =
      match fs.node? (place ++ [name]) with
      | none => refuse .noEntry
      | some node =>
        if Path.longestName < name'.length then
          refuse .nameTooLong
        else if !node.isDirectory &&
            (source.endsWithSlash || target.endsWithSlash) then
          refuse .notDirectory
        else if place' ++ [name'] = place ++ [name] then
          .ok fs
        else if Place.within (place' ++ [name']) (place ++ [name]) then
          refuse .invalidArgument
        else if Place.within (place ++ [name]) (place' ++ [name']) then
          refuse .notEmpty
        else
          match fs.replaceable node (place' ++ [name']) with
          | .error fault => .error fault
          | .ok _ =>
            .ok
              ((fs.erase (place' ++ [name'])).move
                (place ++ [name]) (place' ++ [name'])) := by
  rw [rename, hSource.locate, hTarget.locate]
  simp only [bind, Except.bind, checkName, Nat.not_lt.mpr hLong,
    if_false]
  cases fs.node? (place ++ [name]) with
  | none => rfl
  | some node =>
      by_cases hLong' : Path.longestName < name'.length
      · simp only [hLong', if_true]
        rfl
      · simp only [hLong', if_false]
        cases fs.replaceable node (place' ++ [name']) <;> rfl

/-
  Both ends of a rename that succeeds.  Only what is no directory
  has to be named without a slash after its name.
-/
theorem rename_entries
    {source target : Path}
    (hOk : fs.rename dir source target = .ok fs') :
    ∃ place name place' name' node,
      fs.Entry dir source place name ∧
        name.length ≤ Path.longestName ∧
          fs.Entry dir target place' name' ∧
            fs.node? (place ++ [name]) = some node ∧
              (node.isDirectory = true ∨
                  source.endsWithSlash = false) ∧
                (place' ++ [name'] = place ++ [name] ∧ fs' = fs ∨
                  ¬ place ++ [name] <+: place' ++ [name'] ∧
                    fs.replaceable node (place' ++ [name']) =
                        .ok () ∧
                      fs' =
                        (fs.erase (place' ++ [name'])).move
                          (place ++ [name])
                          (place' ++ [name'])) := by
  obtain ⟨old, hOld, hRest⟩ := exists_of_bind_ok hOk
  obtain ⟨new, hNew, hRest⟩ := exists_of_bind_ok hRest
  cases hOldLast : old.last with
  | name name =>
      cases hNewLast : new.last with
      | name name' =>
          simp only [hOldLast, hNewLast] at hRest
          obtain ⟨u, hLong, -⟩ := exists_of_bind_ok hRest
          have hLong : name.length ≤ Path.longestName := by
            rw [checkName] at hLong
            split_ifs at hLong with h
            · contradiction
            · exact Nat.not_lt.mp h
          have hSource := entry_of_locate hOld hOldLast
          have hTarget := entry_of_locate hNew hNewLast
          rw [rename_of_entry hSource hTarget hLong] at hOk
          cases hNode : fs.node? (old.dir ++ [name]) with
          | none =>
              rw [hNode] at hOk
              contradiction
          | some node =>
              rw [hNode] at hOk
              simp only at hOk
              split_ifs at hOk with hLong' hSlash hSame hIn hOut
              · contradiction
              · contradiction
              all_goals
                refine ⟨old.dir, name, new.dir, name', node, hSource,
                  hLong, hTarget, hNode, ?_, ?_⟩
                · cases hDir : node.isDirectory with
                  | true => exact Or.inl rfl
                  | false =>
                      simp only [hDir, Bool.not_false, Bool.true_and,
                        Bool.or_eq_true, not_or,
                        Bool.not_eq_true] at hSlash
                      exact Or.inr hSlash.1
              · exact Or.inl ⟨hSame, (Except.ok.inj hOk).symm⟩
              · contradiction
              · contradiction
              · cases hFree :
                    fs.replaceable node (new.dir ++ [name']) with
                | error fault =>
                    rw [hFree] at hOk
                    contradiction
                | ok u =>
                    rw [hFree] at hOk
                    exact Or.inr ⟨by simpa using hIn, rfl,
                      (Except.ok.inj hOk).symm⟩
      | _ =>
          simp only [hOldLast, hNewLast] at hRest
          contradiction
  | _ =>
      simp only [hOldLast] at hRest
      contradiction

/- An entry is moved, unless it is there already. -/
theorem rename_ok
    {source target : Path}
    (hOk : fs.rename dir source target = .ok fs') :
    fs' = fs ∨
      ∃ place name place' name' node,
        fs.Entry dir source place name ∧
          name.length ≤ Path.longestName ∧
            fs.Entry dir target place' name' ∧
              fs.node? (place ++ [name]) = some node ∧
                ¬ place ++ [name] <+: place' ++ [name'] ∧
                  fs.replaceable node (place' ++ [name']) =
                      .ok () ∧
                    fs' =
                      (fs.erase (place' ++ [name'])).move
                        (place ++ [name]) (place' ++ [name']) := by
  obtain ⟨place, name, place', name', node, hSource, hLong, hTarget,
    hNode, -, ⟨-, hSame⟩ | ⟨hApart, hFree, hMoved⟩⟩ :=
    rename_entries hOk
  · exact Or.inl hSame
  · exact Or.inr ⟨place, name, place', name', node, hSource, hLong,
      hTarget, hNode, hApart, hFree, hMoved⟩

/- Room for the content is all that writing asks for in addition. -/
theorem openToWrite_of_write
    {content : Bytes}
    (hOk : fs.write dir p content = .ok fs') :
    ∃ place,
      fs.openToWrite dir (fun _ => content) p = .ok (place, fs') := by
  rcases exists_of_bind_ok hOk with ⟨⟨place, files⟩, hOpen, hRoom⟩
  simp only [withRoom] at hRoom
  split_ifs at hRoom
  · contradiction
  · rw [← Except.ok.inj hRoom]
    exact ⟨place, hOpen⟩

/- A file is written to where it stands or where it can be. -/
theorem openToWrite_ok
    {update : Bytes → Bytes}
    {place : Place}
    (hOk : fs.openToWrite dir update p = .ok (place, fs')) :
    (fs' = fs ∧
        ∃ device,
          fs.resolve dir .output p =
            .ok (.found place (.device device))) ∨
      ∃ mode old,
        ((∃ q name, fs.resolve dir .output p = .ok (.vacant q name) ∧
              place = q ++ [name]) ∨
            ∃ bits, fs.resolve dir .output p =
              .ok (.found place (.file bits old))) ∧
          fs' = fs.put place (.file mode (update old)) := by
  obtain ⟨spot, hSpot, hOk⟩ := exists_of_bind_ok hOk
  cases spot with
  | vacant q name =>
      simp only [pure, Except.pure, Except.ok.injEq,
        Prod.mk.injEq] at hOk
      obtain ⟨rfl, rfl⟩ := hOk
      exact Or.inr ⟨_, _, Or.inl ⟨q, name, hSpot, rfl⟩, rfl⟩
  | found q node =>
      cases node with
      | file mode content =>
          simp only [pure, Except.pure, Except.ok.injEq,
            Prod.mk.injEq] at hOk
          obtain ⟨rfl, rfl⟩ := hOk
          exact Or.inr ⟨_, _, Or.inr ⟨mode, hSpot⟩, rfl⟩
      | device device =>
          cases device with
          | terminal => contradiction
          | _ =>
              simp only [pure, Except.pure, Except.ok.injEq,
                Prod.mk.injEq] at hOk
              obtain ⟨rfl, rfl⟩ := hOk
              exact Or.inl ⟨rfl, _, hSpot⟩
      | _ => contradiction

end FileSystem

end PluginStudio

------------------------------------------------------------
-- Well-Formedness
------------------------------------------------------------

namespace PluginStudio

namespace FileSystem

namespace WellFormed

variable {fs fs' : FileSystem} {dir : Place} {p : Path}

theorem create
    (hFs : fs.WellFormed)
    {node : Node}
    (hOk : fs.create dir p node = .ok fs') :
    fs'.WellFormed := by
  obtain ⟨place, name, hEntry, -, hFree, rfl⟩ := create_ok hOk
  exact hFs.put hEntry.directory hEntry.isName
    (Or.inr (by simp [hFree]))

theorem removeDir
    (hFs : fs.WellFormed)
    (hOk : fs.removeDir dir p = .ok fs') :
    fs'.WellFormed := by
  obtain ⟨place, name, -, hNone, rfl⟩ := removeDir_ok hOk
  exact hFs.erase (by simp) fun q =>
    fs.node?_eq_none_of_not_hasChildren hNone

/- Nothing is below what is no directory. -/
theorem erase_leaf
    (hFs : fs.WellFormed)
    {place : Place}
    {node : Node}
    (hPlace : place ≠ [])
    (hNode : fs.node? place = some node)
    (hLeaf : node.isDirectory = false) :
    (fs.erase place).WellFormed := by
  refine hFs.erase hPlace fun q hBelow => ?_
  obtain ⟨hPrefix, hNe⟩ := (Place.below_iff _ _).mp hBelow
  refine hFs.node?_eq_none_of_prefix ?_ hPrefix hNe
  intro mode hMode
  rw [hNode, Option.some.injEq] at hMode
  simp [hMode, Node.isDirectory] at hLeaf

theorem unlink
    (hFs : fs.WellFormed)
    (hOk : fs.unlink dir p = .ok fs') :
    fs'.WellFormed := by
  obtain ⟨place, name, node, -, hNode, hLeaf, rfl⟩ := unlink_ok hOk
  exact hFs.erase_leaf (by simp) hNode hLeaf

/- What gives way to another node has nothing below it. -/
theorem node?_eq_none_of_replaceable
    (hFs : fs.WellFormed)
    {node : Node}
    {target : Place}
    {u : Unit}
    (hOk : fs.replaceable node target = .ok u)
    (q : Place)
    (hBelow : q.below target = true) :
    fs.node? q = none := by
  rw [replaceable] at hOk
  obtain ⟨hPrefix, hNe⟩ := (Place.below_iff _ _).mp hBelow
  cases hOld : fs.node? target with
  | none => exact hFs.node?_eq_none_of_prefix_absent hOld hPrefix
  | some old =>
      rw [hOld] at hOk
      simp only at hOk
      split_ifs at hOk with hDir hKind hMore hKind
      · contradiction
      · contradiction
      · exact fs.node?_eq_none_of_not_hasChildren
          (by simpa using hMore) hBelow
      · contradiction
      · refine hFs.node?_eq_none_of_prefix ?_ hPrefix hNe
        intro mode hMode
        rw [hOld, Option.some.injEq] at hMode
        simp [hMode, Node.isDirectory] at hKind

/- Once that is erased, there is room for what is moved there. -/
theorem node?_erase_of_replaceable
    (hFs : fs.WellFormed)
    {node : Node}
    {place : Place}
    {name : String}
    {u : Unit}
    (hOk : fs.replaceable node (place ++ [name]) = .ok u)
    (q : Place)
    (hPrefix : place ++ [name] <+: q) :
    (fs.erase (place ++ [name])).node? q = none := by
  rw [node?_erase _ (by simp)]
  split_ifs with hEq
  · rfl
  · exact hFs.node?_eq_none_of_replaceable hOk q
      ((Place.below_iff _ _).mpr ⟨hPrefix, hEq⟩)

theorem rename
    (hFs : fs.WellFormed)
    {source target : Path}
    (hOk : fs.rename dir source target = .ok fs') :
    fs'.WellFormed := by
  rcases rename_ok hOk with
    rfl | ⟨place, name, place', name', node, -, -, hTarget, -,
      hApart, hFree, rfl⟩
  · exact hFs
  have hErased :=
    hFs.erase (by simp) (hFs.node?_eq_none_of_replaceable hFree)
  refine hErased.move (by simp) ?_ hTarget.isName hApart
    (hFs.node?_erase_of_replaceable hFree)
  obtain ⟨mode, hMode⟩ := hTarget.directory
  refine ⟨mode, ?_⟩
  rw [node?_erase _ (by simp), if_neg (by simp), hMode]

/- A node that is no directory gives way to a file. -/
theorem put_file
    (hFs : fs.WellFormed)
    {place : Place}
    {node : Node}
    (hNode : fs.node? place = some node)
    (hLeaf : node.isDirectory = false)
    (mode : Nat)
    (content : Bytes) :
    (fs.put place (.file mode content)).WellFormed := by
  rcases List.eq_nil_or_concat place with
    rfl | ⟨parent, name, hPlace⟩
  · rw [node?_nil, Option.some.injEq] at hNode
    simp [← hNode, Node.isDirectory] at hLeaf
  · rw [List.concat_eq_append] at hPlace
    subst hPlace
    refine hFs.put (hFs.parent hNode) (hFs.named hNode) (Or.inr ?_)
    intro bits hBits
    rw [hNode, Option.some.injEq] at hBits
    simp [hBits, Node.isDirectory] at hLeaf

theorem sound_of_resolve
    {aim : Aim}
    {spot : Spot}
    (hOk : fs.resolve dir aim p = .ok spot) :
    Spot.Sound fs spot := by
  obtain ⟨_, -, hOk⟩ := exists_of_bind_ok hOk
  cases hWalk : fs.walk aim mostLinks (startOf dir p) p.steps with
  | error errno =>
      rw [hWalk] at hOk
      contradiction
  | ok found =>
      rw [hWalk] at hOk
      rw [← Except.ok.inj hOk]
      exact sound_of_walk (Path.slash_notMem_of_mem_steps p) hWalk

theorem write
    (hFs : fs.WellFormed)
    {content : Bytes}
    (hOk : fs.write dir p content = .ok fs') :
    fs'.WellFormed := by
  rcases openToWrite_of_write hOk with ⟨place, hOpen⟩
  rcases openToWrite_ok hOpen with
    ⟨rfl, -⟩ | ⟨mode, old, ⟨q, name, hSpot, rfl⟩ | ⟨bits, hSpot⟩, rfl⟩
  · exact hFs
  · obtain ⟨hDir, hName, hFree⟩ := sound_of_resolve hSpot
    exact hFs.put hDir hName (Or.inr (by simp [hFree]))
  · exact hFs.put_file (sound_of_resolve hSpot) rfl mode content

end WellFormed

/- What a path names stands at the place it leads to. -/
theorem node?_of_stat
    {fs : FileSystem}
    {dir q : Place}
    {p : Path}
    {follow : Bool}
    {node : Node}
    (hStat : fs.stat dir follow p = .ok (q, node)) :
    fs.node? q = some node := by
  obtain ⟨spot, hSpot, hOk⟩ := exists_of_bind_ok hStat
  have hSound := WellFormed.sound_of_resolve hSpot
  cases spot with
  | vacant parent name => contradiction
  | found place found =>
      obtain ⟨rfl, rfl⟩ := Prod.mk.inj (Except.ok.inj hOk)
      exact hSound

end FileSystem

end PluginStudio
