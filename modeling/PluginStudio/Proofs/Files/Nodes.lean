import Mathlib.Data.List.Induction
import PluginStudio.Files.Operation

/-
  What each change of a file system does to the nodes in it.

  Key definitions include:
    * `PluginStudio.Path.IsName`
    * `PluginStudio.FileSystem.WellFormed`

  Main declarations:
    * `node?_put`, `node?_erase`, `node?_eraseBelow`
    * `node?_move`
    * `WellFormed.node?_eq_none_of_prefix`
    * `WellFormed.put`, `WellFormed.erase`,
      `WellFormed.eraseBelow`, `WellFormed.move`
-/

------------------------------------------------------------
-- Places
------------------------------------------------------------

namespace PluginStudio

namespace Place

/- To lie within a place is to start with its names. -/
@[simp] theorem within_iff
    (place dir : Place) :
    place.within dir = true ↔ dir <+: place := by
  simp [within]

@[simp] theorem within_eq_false_iff
    (place dir : Place) :
    place.within dir = false ↔ ¬ dir <+: place := by
  rw [← within_iff, Bool.not_eq_true]

@[simp] theorem below_iff
    (place dir : Place) :
    place.below dir = true ↔ dir <+: place ∧ place ≠ dir := by
  simp [below]

/- A place lies below another if names lead from there to it. -/
theorem below_iff_exists
    (place dir : Place) :
    place.below dir = true ↔
      ∃ names, names ≠ [] ∧ place = dir ++ names := by
  rw [below_iff]
  constructor
  · rintro ⟨⟨names, rfl⟩, hNe⟩
    exact ⟨names, by rintro rfl; simp at hNe, rfl⟩
  · rintro ⟨names, hNe, rfl⟩
    exact ⟨List.prefix_append _ _, by simpa using hNe⟩

/- What lies within a place and above the last name is it. -/
theorem prefix_or_eq_of_prefix_snoc
    {place dir : Place}
    {name : String}
    (hPrefix : dir <+: place ++ [name]) :
    dir <+: place ∨ dir = place ++ [name] := by
  rcases List.prefix_concat_iff.mp hPrefix with hEq | hBelow
  · exact Or.inr hEq
  · exact Or.inl hBelow

/- A place does not lie within what lies in it. -/
theorem not_snoc_prefix
    (place : Place)
    (name : String) :
    ¬ place ++ [name] <+: place := by
  intro hPrefix
  have hLength := hPrefix.length_le
  rw [List.length_append, List.length_singleton] at hLength
  omega

end Place

end PluginStudio

------------------------------------------------------------
-- Nodes After A Change
------------------------------------------------------------

namespace PluginStudio

namespace FileSystem

/- A place other than the root is looked up among the nodes. -/
theorem node?_of_ne_nil
    (fs : FileSystem)
    {place : Place}
    (hPlace : place ≠ []) :
    fs.node? place = fs.nodes.lookup place := by
  cases place with
  | nil => contradiction
  | cons name names => rfl

@[simp] theorem node?_nil
    (fs : FileSystem) :
    fs.node? [] = some (.directory 0o755) :=
  rfl

/- Looking up among the entries whose places satisfy a test. -/
private theorem lookup_filter_place
    (keep : Place → Bool)
    (nodes : List (Place × Node))
    (place : Place) :
    (nodes.filter fun entry => keep entry.1).lookup place =
      if keep place then nodes.lookup place else none := by
  induction nodes with
  | nil => simp
  | cons entry nodes ih =>
      obtain ⟨q, node⟩ := entry
      by_cases hEq : place = q
      · subst hEq
        cases hKeep : keep place with
        | true => simp [hKeep]
        | false => simpa [hKeep] using ih
      · have hBeq : (place == q) = false := by simpa using hEq
        cases hKeep : keep q with
        | true => simp [hKeep, List.lookup_cons, hBeq, ih]
        | false => simp [hKeep, List.lookup_cons, hBeq, ih]

/- A node that is put somewhere stands there, and no other moves. -/
theorem node?_put
    (fs : FileSystem)
    {place : Place}
    (hPlace : place ≠ [])
    (node : Node)
    (q : Place) :
    (fs.put place node).node? q =
      if q = place then some node else fs.node? q := by
  by_cases hRoot : q = []
  · subst hRoot
    simp [Ne.symm hPlace]
  rw [node?_of_ne_nil _ hRoot, node?_of_ne_nil _ hRoot]
  by_cases hEq : q = place
  · simp [put, hEq]
  · have hBeq : (q == place) = false := by simpa using hEq
    simp only [put, List.lookup_cons, hBeq, hEq, if_false]
    rw [lookup_filter_place (fun p => p ≠ place)]
    simp [hEq]

theorem node?_put_snoc
    (fs : FileSystem)
    (place : Place)
    (name : String)
    (node : Node)
    (q : Place) :
    (fs.put (place ++ [name]) node).node? q =
      if q = place ++ [name] then some node else fs.node? q :=
  fs.node?_put (by simp) node q

theorem node?_erase
    (fs : FileSystem)
    {place : Place}
    (hPlace : place ≠ [])
    (q : Place) :
    (fs.erase place).node? q =
      if q = place then none else fs.node? q := by
  by_cases hRoot : q = []
  · subst hRoot
    simp [Ne.symm hPlace]
  rw [node?_of_ne_nil _ hRoot, node?_of_ne_nil _ hRoot]
  simp only [erase]
  rw [lookup_filter_place (fun p => p ≠ place)]
  by_cases hEq : q = place <;> simp [hEq]

theorem node?_eraseBelow
    (fs : FileSystem)
    (place q : Place) :
    (fs.eraseBelow place).node? q =
      if q.below place then none else fs.node? q := by
  by_cases hRoot : q = []
  · subst hRoot
    have hNot : Place.below [] place = false := by
      cases place <;> simp [Place.below]
    simp [hNot]
  rw [node?_of_ne_nil _ hRoot, node?_of_ne_nil _ hRoot]
  simp only [eraseBelow]
  rw [lookup_filter_place (fun p => !p.below place)]
  cases q.below place <;> simp

/- Is nothing below a place, no node is found there. -/
theorem node?_eq_none_of_not_hasChildren
    (fs : FileSystem)
    {place : Place}
    (hNone : fs.hasChildren place = false)
    {q : Place}
    (hBelow : q.below place = true) :
    fs.node? q = none := by
  have hNe : q ≠ [] := by
    rintro rfl
    cases place <;> simp [Place.below] at hBelow
  rw [node?_of_ne_nil _ hNe, List.lookup_eq_none_iff]
  intro entry hEntry
  have hAny : entry.1.below place ≠ true := by
    intro h
    have : fs.hasChildren place = true := by
      simp only [hasChildren, List.any_eq_true]
      exact ⟨entry, hEntry, h⟩
    simp [this] at hNone
  simp only [bne_iff_ne, ne_eq]
  rintro rfl
  exact hAny hBelow

/- Whatever is listed somewhere is found there or hidden there. -/
theorem node?_isSome_of_mem
    (fs : FileSystem)
    {place : Place}
    {node : Node}
    (hPlace : place ≠ [])
    (hMem : (place, node) ∈ fs.nodes) :
    (fs.node? place).isSome = true := by
  rw [node?_of_ne_nil _ hPlace]
  cases hLookup : fs.nodes.lookup place with
  | some _ => rfl
  | none =>
      have := List.lookup_eq_none_iff.mp hLookup _ hMem
      simp at this

end FileSystem

end PluginStudio

------------------------------------------------------------
-- Nodes After A Move
------------------------------------------------------------

namespace PluginStudio

namespace FileSystem

/-
  Looking up after the entries within one place were brought to
  another, within which there was none.
-/
private theorem lookup_map_move
    {source target : Place}
    (q : Place)
    (nodes : List (Place × Node))
    (hFree : ∀ entry ∈ nodes, ¬ target <+: entry.1) :
    (nodes.map fun entry =>
        if entry.1.within source then
          (target ++ entry.1.drop source.length, entry.2)
        else
          entry).lookup q =
      if q.within target then
        nodes.lookup (source ++ q.drop target.length)
      else if q.within source then
        none
      else
        nodes.lookup q := by
  induction nodes with
  | nil => simp
  | cons entry nodes ih =>
      obtain ⟨place, node⟩ := entry
      have ih := ih fun entry hEntry =>
        hFree entry (List.mem_cons_of_mem _ hEntry)
      have hHead : ¬ target <+: place :=
        hFree (place, node) (List.mem_cons_self ..)
      rw [List.map_cons]
      by_cases hWithin : source <+: place
      · -- The first entry is moved, and found below the target.
        obtain ⟨rest, rfl⟩ := hWithin
        have hIf : Place.within (source ++ rest) source = true := by
          simp
        simp only [hIf, if_true, List.drop_left, List.lookup_cons]
        by_cases hQ : q = target ++ rest
        · subst hQ
          simp
        · have hBeq : (q == target ++ rest) = false := by
            simpa using hQ
          simp only [hBeq, ih]
          by_cases hIn : target <+: q
          · obtain ⟨more, rfl⟩ := hIn
            have hMore : more ≠ rest := fun h => hQ (by rw [h])
            have hKey :
                (source ++ more == source ++ rest) = false := by
              simpa using hMore
            simp [hKey]
          · by_cases hOut : source <+: q
            · simp [hIn, hOut]
            · have hKey : (q == source ++ rest) = false := by
                simp only [beq_eq_false_iff_ne]
                rintro rfl
                exact hOut (List.prefix_append _ _)
              simp [hIn, hOut, hKey]
      · -- The first entry stays, and lies in neither place.
        have hIf : place.within source = false := by
          simpa using hWithin
        simp only [hIf, Bool.false_eq_true, if_false,
          List.lookup_cons]
        by_cases hQ : q = place
        · subst hQ
          simp [hHead, hIf]
        · have hBeq : (q == place) = false := by simpa using hQ
          simp only [hBeq, ih]
          by_cases hIn : target <+: q
          · have hKey :
                (source ++ q.drop target.length == place) =
                  false := by
              simp only [beq_eq_false_iff_ne]
              rintro rfl
              exact hWithin (List.prefix_append _ _)
            simp [hIn, hKey]
          · simp [hIn]

/-
  A move takes the nodes of one place to another, in which
  nothing stood.
-/
theorem node?_move
    (fs : FileSystem)
    {source target : Place}
    (hSource : source ≠ [])
    (hTarget : target ≠ [])
    (hFree : ∀ q, target <+: q → fs.node? q = none)
    (q : Place) :
    (fs.move source target).node? q =
      if q.within target then
        fs.node? (source ++ q.drop target.length)
      else if q.within source then
        none
      else
        fs.node? q := by
  have hNotIn :
      ∀ entry ∈ fs.nodes, ¬ target <+: entry.1 := by
    intro entry hEntry hIn
    have hNe : entry.1 ≠ [] := by
      intro hNil
      rw [hNil] at hIn
      exact hTarget (List.prefix_nil.mp hIn)
    have hSome := fs.node?_isSome_of_mem hNe hEntry
    rw [hFree _ hIn] at hSome
    simp at hSome
  by_cases hRoot : q = []
  · subst hRoot
    have hT : ¬ target <+: [] :=
      fun h => hTarget (List.prefix_nil.mp h)
    have hS : ¬ source <+: [] :=
      fun h => hSource (List.prefix_nil.mp h)
    simp [hT, hS]
  · have hKey : source ++ q.drop target.length ≠ [] := by
      simp [hSource]
    rw [node?_of_ne_nil _ hRoot, node?_of_ne_nil _ hRoot,
      node?_of_ne_nil _ hKey]
    exact lookup_map_move q fs.nodes hNotIn

/- Whatever stands somewhere after a move stood somewhere before. -/
theorem exists_of_node?_move
    (fs : FileSystem)
    {source : Place}
    (hSource : source ≠ [])
    (target : Place)
    {q : Place}
    {node : Node}
    (hNode : (fs.move source target).node? q = some node) :
    ∃ place, fs.node? place = some node := by
  by_cases hRoot : q = []
  · subst hRoot
    exact ⟨[], hNode⟩
  rw [node?_of_ne_nil _ hRoot, move, List.lookup_eq_some_iff] at hNode
  obtain ⟨before, after, hSplit, hBefore⟩ := hNode
  obtain ⟨before, rest, hNodes, rfl, hRest⟩ :=
    List.map_eq_append_iff.mp hSplit
  obtain ⟨⟨place, found⟩, after, rfl, hEntry, -⟩ :=
    List.map_eq_cons_iff.mp hRest
  have hFound : found = node := by
    split_ifs at hEntry <;> exact (Prod.mk.inj hEntry).2
  subst hFound
  have hPlace : place ≠ [] := by
    rintro rfl
    have hOut : Place.within [] source = false := by
      simpa using hSource
    simp only [hOut, Bool.false_eq_true, if_false,
      Prod.mk.injEq] at hEntry
    exact hRoot hEntry.1.symm
  refine ⟨place, ?_⟩
  rw [node?_of_ne_nil _ hPlace, List.lookup_eq_some_iff]
  refine ⟨before, after, hNodes, fun entry hMem => ?_⟩
  -- An entry of the same place would have been found first.
  have hOther := hBefore _ (List.mem_map_of_mem hMem)
  rw [bne_iff_ne] at hOther ⊢
  rintro rfl
  refine hOther ?_
  split_ifs at hEntry ⊢ <;> exact (Prod.mk.inj hEntry).1.symm

end FileSystem

end PluginStudio

------------------------------------------------------------
-- Well-Formed File Systems
------------------------------------------------------------

namespace PluginStudio

namespace Path

/- A text that is one step down, written in a path. -/
def IsName (name : String) : Prop :=
  name ≠ "" ∧ name ≠ "." ∧ name ≠ ".." ∧ '/' ∉ name.toList

instance (name : String) : Decidable (IsName name) :=
  inferInstanceAs (Decidable (_ ∧ _ ∧ _ ∧ _))

/- Any text longer than two characters, if it has no slash. -/
theorem isName_of_length
    {name : String}
    (hLength : 2 < name.length)
    (hSlash : '/' ∉ name.toList) :
    IsName name := by
  have hNe :
      ∀ {short : String}, short.length ≤ 2 → name ≠ short := by
    rintro short hShort rfl
    omega
  exact ⟨hNe (by decide), hNe (by decide), hNe (by decide), hSlash⟩

end Path

namespace FileSystem

/-
  Whatever stands somewhere stands in a directory, under a name
  that paths can write.
-/
structure WellFormed (fs : FileSystem) : Prop where
  parent :
    ∀ {place : Place} {name : String} {node : Node},
      fs.node? (place ++ [name]) = some node →
        ∃ mode, fs.node? place = some (.directory mode)
  named :
    ∀ {place : Place} {name : String} {node : Node},
      fs.node? (place ++ [name]) = some node →
        Path.IsName name

namespace WellFormed

variable {fs : FileSystem}

theorem empty : FileSystem.empty.WellFormed where
  parent h := by
    rw [node?_of_ne_nil _ (by simp)] at h
    simp [FileSystem.empty] at h
  named h := by
    rw [node?_of_ne_nil _ (by simp)] at h
    simp [FileSystem.empty] at h

/- It is enough to look at the entries one by one. -/
theorem of_entries
    (hNodes :
      ∀ entry ∈ fs.nodes,
        Path.IsName (entry.1.getLastD "") ∧
          (fs.node? entry.1.dropLast).any Node.isDirectory = true) :
    fs.WellFormed := by
  have hEntry :
      ∀ {place : Place} {name : String} {node : Node},
        fs.node? (place ++ [name]) = some node →
          Path.IsName name ∧
            (fs.node? place).any Node.isDirectory = true := by
    intro place name node hNode
    rw [node?_of_ne_nil _ (by simp)] at hNode
    obtain ⟨before, after, hSplit, -⟩ :=
      List.lookup_eq_some_iff.mp hNode
    simpa using
      hNodes (place ++ [name], node) (by simp [hSplit])
  constructor
  · intro place name node hNode
    obtain ⟨found, hFound, hDir⟩ :=
      (Option.any_eq_true _ _).mp (hEntry hNode).2
    cases found with
    | directory mode => exact ⟨mode, hFound⟩
    | _ => simp [Node.isDirectory] at hDir
  · intro place name node hNode
    exact (hEntry hNode).1

/- Only directories have anything below them. -/
theorem node?_eq_none_of_prefix
    (hFs : fs.WellFormed)
    {place q : Place}
    (hPlace : ∀ mode, fs.node? place ≠ some (.directory mode))
    (hPrefix : place <+: q)
    (hNe : q ≠ place) :
    fs.node? q = none := by
  obtain ⟨rest, rfl⟩ := hPrefix
  -- The names from the place on, from the last one backwards.
  induction rest using List.reverseRecOn with
  | nil => simp at hNe
  | append_singleton rest name ih =>
      cases hNode : fs.node? (place ++ (rest ++ [name])) with
      | none => rfl
      | some node =>
          rw [← List.append_assoc] at hNode
          obtain ⟨mode, hMode⟩ := hFs.parent hNode
          by_cases hRest : rest = []
          · subst hRest
            simp only [List.append_nil] at hMode
            exact absurd hMode (hPlace mode)
          · have hNone := ih (by simpa using hRest)
            rw [hMode] at hNone
            contradiction

theorem node?_eq_none_of_prefix_absent
    (hFs : fs.WellFormed)
    {place q : Place}
    (hPlace : fs.node? place = none)
    (hPrefix : place <+: q) :
    fs.node? q = none := by
  by_cases hEq : q = place
  · rw [hEq, hPlace]
  · exact hFs.node?_eq_none_of_prefix
      (by simp [hPlace]) hPrefix hEq

/-
  A new node goes into a directory, and only a directory can
  take the place of one.
-/
theorem put
    (hFs : fs.WellFormed)
    {place : Place}
    {name : String}
    {node : Node}
    (hDir : ∃ mode, fs.node? place = some (.directory mode))
    (hName : Path.IsName name)
    (hLeaf :
      node.isDirectory = true ∨
        ∀ mode,
          fs.node? (place ++ [name]) ≠ some (.directory mode)) :
    (fs.put (place ++ [name]) node).WellFormed where
  parent := by
    intro q n m hNode
    simp only [node?_put_snoc] at hNode ⊢
    by_cases hEq : q ++ [n] = place ++ [name]
    · obtain ⟨rfl, -⟩ := List.append_inj' hEq rfl
      simpa using hDir
    · rw [if_neg hEq] at hNode
      obtain ⟨mode, hMode⟩ := hFs.parent hNode
      by_cases hQ : q = place ++ [name]
      · subst hQ
        rcases hLeaf with hIsDir | hNotDir
        · cases node with
          | directory bits => exact ⟨bits, by simp⟩
          | _ => simp [Node.isDirectory] at hIsDir
        · exact absurd hMode (hNotDir mode)
      · exact ⟨mode, by simp [hQ, hMode]⟩
  named := by
    intro q n m hNode
    simp only [node?_put_snoc] at hNode
    by_cases hEq : q ++ [n] = place ++ [name]
    · obtain ⟨-, hLast⟩ := List.append_inj' hEq rfl
      simp only [List.cons.injEq, and_true] at hLast
      rwa [hLast]
    · rw [if_neg hEq] at hNode
      exact hFs.named hNode

/- A node that has nothing below it can go. -/
theorem erase
    (hFs : fs.WellFormed)
    {place : Place}
    (hPlace : place ≠ [])
    (hLeaf : ∀ q, q.below place = true → fs.node? q = none) :
    (fs.erase place).WellFormed where
  parent := by
    intro q n m hNode
    simp only [node?_erase _ hPlace] at hNode ⊢
    by_cases hEq : q ++ [n] = place
    · simp [hEq] at hNode
    · rw [if_neg hEq] at hNode
      obtain ⟨mode, hMode⟩ := hFs.parent hNode
      refine ⟨mode, ?_⟩
      rw [if_neg ?_, hMode]
      rintro rfl
      rw [hLeaf (q ++ [n]) (by simp)] at hNode
      contradiction
  named := by
    intro q n m hNode
    simp only [node?_erase _ hPlace] at hNode
    by_cases hEq : q ++ [n] = place
    · simp [hEq] at hNode
    · rw [if_neg hEq] at hNode
      exact hFs.named hNode

/- All below a place can go at once. -/
theorem eraseBelow
    (hFs : fs.WellFormed)
    (place : Place) :
    (fs.eraseBelow place).WellFormed where
  parent := by
    intro q n m hNode
    simp only [node?_eraseBelow] at hNode ⊢
    cases hBelow : (q ++ [n] : Place).below place with
    | true => simp [hBelow] at hNode
    | false =>
        rw [hBelow] at hNode
        obtain ⟨mode, hMode⟩ := hFs.parent hNode
        refine ⟨mode, ?_⟩
        rw [if_neg ?_, hMode]
        intro hQ
        obtain ⟨hPrefix, -⟩ := (Place.below_iff _ _).mp hQ
        have hBoth : (q ++ [n] : Place).below place = true := by
          rw [Place.below_iff]
          refine ⟨hPrefix.trans (List.prefix_append _ _), ?_⟩
          rintro rfl
          exact Place.not_snoc_prefix _ _ hPrefix
        rw [hBoth] at hBelow
        contradiction
  named := by
    intro q n m hNode
    simp only [node?_eraseBelow] at hNode
    split at hNode
    · contradiction
    · exact hFs.named hNode

/- A node and all below it can go to a free name elsewhere. -/
theorem move
    (hFs : fs.WellFormed)
    {source dir : Place}
    {name : String}
    (hSource : source ≠ [])
    (hDir : ∃ mode, fs.node? dir = some (.directory mode))
    (hName : Path.IsName name)
    (hApart : ¬ source <+: dir ++ [name])
    (hFree : ∀ q, dir ++ [name] <+: q → fs.node? q = none) :
    (fs.move source (dir ++ [name])).WellFormed := by
  have hNode := fs.node?_move hSource (by simp) hFree
  have hNotIn : ¬ source <+: dir :=
    fun h => hApart (h.trans (List.prefix_append _ _))
  constructor
  · intro q n m hMoved
    rw [hNode] at hMoved
    by_cases hIn : dir ++ [name] <+: q ++ [n]
    · rw [if_pos (by simpa using hIn)] at hMoved
      rcases Place.prefix_or_eq_of_prefix_snoc hIn with hIn | hEq
      · -- Below the target, the directory was moved along.
        obtain ⟨rest, rfl⟩ := hIn
        rw [List.append_assoc, List.drop_left,
          ← List.append_assoc] at hMoved
        obtain ⟨mode, hMode⟩ := hFs.parent hMoved
        refine ⟨mode, ?_⟩
        rw [hNode, if_pos (by simp), List.drop_left, hMode]
      · -- The target itself stands in a directory that stays.
        obtain ⟨rfl, -⟩ := List.append_inj' hEq rfl
        obtain ⟨mode, hMode⟩ := hDir
        refine ⟨mode, ?_⟩
        have hShort := Place.not_snoc_prefix dir name
        rw [hNode, if_neg (by simpa using hShort),
          if_neg (by simpa using hNotIn), hMode]
    · rw [if_neg (by simpa using hIn)] at hMoved
      by_cases hOut : source <+: q ++ [n]
      · rw [if_pos (by simpa using hOut)] at hMoved
        contradiction
      · rw [if_neg (by simpa using hOut)] at hMoved
        obtain ⟨mode, hMode⟩ := hFs.parent hMoved
        refine ⟨mode, ?_⟩
        have hInQ : ¬ dir ++ [name] <+: q :=
          fun h => hIn (h.trans (List.prefix_append _ _))
        have hOutQ : ¬ source <+: q :=
          fun h => hOut (h.trans (List.prefix_append _ _))
        rw [hNode, if_neg (by simpa using hInQ),
          if_neg (by simpa using hOutQ), hMode]
  · intro q n m hMoved
    rw [hNode] at hMoved
    by_cases hIn : dir ++ [name] <+: q ++ [n]
    · rw [if_pos (by simpa using hIn)] at hMoved
      rcases Place.prefix_or_eq_of_prefix_snoc hIn with hIn | hEq
      · obtain ⟨rest, rfl⟩ := hIn
        rw [List.append_assoc, List.drop_left,
          ← List.append_assoc] at hMoved
        exact hFs.named hMoved
      · obtain ⟨-, hLast⟩ := List.append_inj' hEq rfl
        simp only [List.cons.injEq, and_true] at hLast
        rwa [← hLast]
    · rw [if_neg (by simpa using hIn)] at hMoved
      split at hMoved
      · contradiction
      · exact hFs.named hMoved

end WellFormed

end FileSystem

end PluginStudio
