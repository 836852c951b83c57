import PluginStudio.Proofs.Files.Nodes

/-
  What stands below a place, as a file system of its own.

  Key definitions include:
    * `PluginStudio.FileSystem.inside`
    * `PluginStudio.FileSystem.Plain`
    * `PluginStudio.FileSystem.graft`

  Main declarations:
    * `FileSystem.node?_inside`, `FileSystem.inside_put`
    * `FileSystem.node?_graft`, `FileSystem.children_graft`
    * `FileSystem.WellFormed.graft`
-/

------------------------------------------------------------
-- What Is Inside
------------------------------------------------------------

namespace PluginStudio

namespace FileSystem

/- What stands below a place, as seen from there. -/
def inside
    (fs : FileSystem)
    (place : Place) : FileSystem where
  nodes :=
    fs.nodes.filterMap fun entry =>
      if entry.1.below place then
        some (entry.1.drop place.length, entry.2)
      else
        none

/- The place of an entry below another, as seen from there. -/
private theorem drop_eq_iff
    {place q r : Place}
    (hBelow : q.below place = true) :
    q.drop place.length = r ↔ q = place ++ r := by
  obtain ⟨names, -, rfl⟩ := (Place.below_iff_exists _ _).mp hBelow
  rw [List.drop_left]
  constructor
  · rintro rfl
    rfl
  · exact fun h => List.append_cancel_left h

private theorem lookup_inside
    (place : Place)
    {r : Place}
    (hNe : r ≠ [])
    (nodes : List (Place × Node)) :
    (nodes.filterMap fun entry =>
        if entry.1.below place then
          some (entry.1.drop place.length, entry.2)
        else
          none).lookup r =
      nodes.lookup (place ++ r) := by
  induction nodes with
  | nil => rfl
  | cons entry nodes ih =>
      obtain ⟨q, node⟩ := entry
      cases hBelow : q.below place with
      | false =>
          have hKey : (place ++ r == q) = false := by
            rw [beq_eq_false_iff_ne]
            rintro rfl
            rw [← Bool.not_eq_true, Place.below_iff_exists]
              at hBelow
            exact hBelow ⟨r, hNe, rfl⟩
          simp only [List.filterMap_cons, hBelow,
            Bool.false_eq_true, if_false, List.lookup_cons, hKey, ih]
      | true =>
          have hIff := drop_eq_iff (r := r) hBelow
          simp only [List.filterMap_cons, hBelow, if_true,
            List.lookup_cons, ih]
          by_cases hEq : q = place ++ r
          · rw [beq_iff_eq.mpr (hIff.mpr hEq).symm,
              beq_iff_eq.mpr hEq.symm]
          · rw [beq_eq_false_iff_ne.mpr
                fun h => hEq (hIff.mp h.symm),
              beq_eq_false_iff_ne.mpr (Ne.symm hEq)]

theorem node?_inside
    (fs : FileSystem)
    (place : Place)
    {r : Place}
    (hNe : r ≠ []) :
    (fs.inside place).node? r = fs.node? (place ++ r) := by
  rw [node?_of_ne_nil _ hNe, node?_of_ne_nil _ (by simp [hNe])]
  exact lookup_inside place hNe fs.nodes

/- To put something below a place is to put it inside. -/
theorem inside_put
    (fs : FileSystem)
    (place : Place)
    {r : Place}
    (hNe : r ≠ [])
    (node : Node) :
    (fs.put (place ++ r) node).inside place =
      (fs.inside place).put r node := by
  have hBelow : Place.below (place ++ r) place = true :=
    (Place.below_iff_exists _ _).mpr ⟨r, hNe, rfl⟩
  simp only [inside, put, FileSystem.mk.injEq]
  simp only [List.filterMap_cons, hBelow, if_true, List.drop_left,
    List.filter_filterMap, List.filterMap_filter]
  congr 2
  funext entry
  obtain ⟨q, old⟩ := entry
  cases hQ : q.below place with
  | false => simp
  | true =>
      have hIff := drop_eq_iff (r := r) hQ
      by_cases hEq : q = place ++ r
      · simp [hEq, Option.filter]
      · have hDrop : q.drop place.length ≠ r :=
          fun h => hEq (hIff.mp h)
        simp [hEq, hDrop, Option.filter]

/- Where nothing is found below, nothing is inside. -/
theorem inside_eq_empty
    {fs : FileSystem}
    {place : Place}
    (hNone : ∀ q, q.below place = true → fs.node? q = none) :
    fs.inside place = empty := by
  simp only [inside, empty, FileSystem.mk.injEq,
    List.filterMap_eq_nil_iff]
  rintro ⟨q, node⟩ hMem
  simp only
  rw [if_neg]
  intro hBelow
  have hNe : q ≠ [] := by
    rintro rfl
    cases place <;> simp [Place.below] at hBelow
  have hSome := fs.node?_isSome_of_mem hNe hMem
  rw [hNone q hBelow] at hSome
  contradiction

/- A file system without links. -/
def Plain (fs : FileSystem) : Prop :=
  ∀ place target, fs.node? place ≠ some (.link target)

theorem plain_empty : empty.Plain := by
  intro place target
  cases place with
  | nil => simp
  | cons name names => simp [empty, node?]

theorem plain_of_entries
    {fs : FileSystem}
    (hNodes : ∀ entry ∈ fs.nodes, ∀ target, entry.2 ≠ .link target) :
    fs.Plain := by
  intro place target hLink
  cases place with
  | nil => simp at hLink
  | cons name names =>
      rcases List.lookup_eq_some_iff.mp hLink with
        ⟨before, after, hSplit, -⟩
      exact hNodes (name :: names, .link target) (by simp [hSplit])
        target rfl

theorem Plain.put
    {fs : FileSystem}
    (hPlain : fs.Plain)
    {place : Place}
    (hPlace : place ≠ [])
    {node : Node}
    (hNode : ∀ target, node ≠ .link target) :
    (fs.put place node).Plain := by
  intro q target
  rw [node?_put _ hPlace]
  split_ifs with hEq
  · simpa using hNode target
  · exact hPlain q target

/- No link comes from taking away or moving what is there. -/
theorem Plain.of_nodes
    {fs fs' : FileSystem}
    (hPlain : fs.Plain)
    (hNodes :
      ∀ q node, fs'.node? q = some node →
        ∃ place, fs.node? place = some node) :
    fs'.Plain := by
  intro q target hLink
  obtain ⟨place, hPlace⟩ := hNodes q _ hLink
  exact hPlain place target hPlace

theorem Plain.erase
    {fs : FileSystem}
    (hPlain : fs.Plain)
    {place : Place}
    (hPlace : place ≠ []) :
    (fs.erase place).Plain := by
  refine hPlain.of_nodes fun q node hNode => ⟨q, ?_⟩
  rw [node?_erase _ hPlace] at hNode
  split_ifs at hNode
  exact hNode

theorem Plain.eraseBelow
    {fs : FileSystem}
    (hPlain : fs.Plain)
    (place : Place) :
    (fs.eraseBelow place).Plain := by
  refine hPlain.of_nodes fun q node hNode => ⟨q, ?_⟩
  rw [node?_eraseBelow] at hNode
  split_ifs at hNode
  exact hNode

theorem Plain.move
    {fs : FileSystem}
    (hPlain : fs.Plain)
    {source : Place}
    (hSource : source ≠ [])
    (target : Place) :
    (fs.move source target).Plain :=
  hPlain.of_nodes fun _ _ hNode =>
    fs.exists_of_node?_move hSource target hNode

end FileSystem

end PluginStudio

------------------------------------------------------------
-- Entries Of Directories
------------------------------------------------------------

namespace PluginStudio

namespace FileSystem

/- What is told of a place stands there, if none is told twice. -/
theorem node?_eq_some_iff_mem
    {fs : FileSystem}
    (hDistinct : (fs.nodes.map Prod.fst).Nodup)
    {place : Place}
    (hPlace : place ≠ [])
    {node : Node} :
    fs.node? place = some node ↔ (place, node) ∈ fs.nodes := by
  rw [node?_of_ne_nil _ hPlace, List.lookup_eq_some_iff]
  constructor
  · rintro ⟨before, after, hSplit, -⟩
    simp [hSplit]
  · intro hMem
    obtain ⟨before, after, hSplit⟩ := List.append_of_mem hMem
    refine ⟨before, after, hSplit, fun entry hBefore => ?_⟩
    rw [hSplit, List.map_append, List.nodup_append] at hDistinct
    rw [bne_iff_ne]
    exact (hDistinct.2.2 _ (List.mem_map_of_mem hBefore) _
      (by simp)).symm

/- What a directory lists stands there, if no place is told twice. -/
theorem node?_of_mem_children
    {fs : FileSystem}
    (hDistinct : (fs.nodes.map Prod.fst).Nodup)
    {place : Place}
    {name : String}
    {node : Node}
    (hMem : (name, node) ∈ fs.children place) :
    fs.node? (place ++ [name]) = some node := by
  rw [children, List.mem_filterMap] at hMem
  obtain ⟨⟨q, found⟩, hEntry, hChild⟩ := hMem
  rcases List.eq_nil_or_concat q with rfl | ⟨init, last, rfl⟩
  · simp at hChild
  simp only [List.concat_eq_append, List.getLast?_concat,
    List.dropLast_concat] at hEntry hChild
  split_ifs at hChild with hInit
  obtain ⟨rfl, rfl⟩ := Prod.mk.inj (Option.some.inj hChild)
  subst hInit
  exact (node?_eq_some_iff_mem hDistinct (by simp)).mpr hEntry

end FileSystem

end PluginStudio

------------------------------------------------------------
-- Other Contents
------------------------------------------------------------

namespace PluginStudio

namespace FileSystem

/- With other contents below a place. -/
def graft
    (fs : FileSystem)
    (place : Place)
    (contents : FileSystem) : FileSystem where
  nodes :=
    ((contents.nodes.filter fun entry => entry.1 ≠ []).map
        fun entry => (place ++ entry.1, entry.2)) ++
      (fs.eraseBelow place).nodes

variable (fs contents : FileSystem) (place : Place)

private theorem lookup_map_append
    {r : Place}
    (hNe : r ≠ [])
    (nodes : List (Place × Node)) :
    (((nodes.filter fun entry => entry.1 ≠ []).map
        fun entry => (place ++ entry.1, entry.2)).lookup
          (place ++ r)) =
      nodes.lookup r := by
  induction nodes with
  | nil => rfl
  | cons entry nodes ih =>
      obtain ⟨q, node⟩ := entry
      by_cases hQ : q = []
      · have hKey : (r == q) = false := by simp [hQ, hNe]
        rw [List.filter_cons_of_neg (by simp [hQ]), ih,
          List.lookup_cons, hKey]
      · have hKey : (place ++ r == place ++ q) = (r == q) := by
          rw [Bool.eq_iff_iff, beq_iff_eq, beq_iff_eq]
          exact ⟨List.append_cancel_left, congrArg _⟩
        rw [List.filter_cons_of_pos (by simp [hQ]), List.map_cons,
          List.lookup_cons, List.lookup_cons, hKey, ih]

/- Below the place stand the new contents. -/
theorem node?_graft
    {r : Place}
    (hNe : r ≠ []) :
    (fs.graft place contents).node? (place ++ r) =
      contents.node? r := by
  have hBelow : Place.below (place ++ r) place = true :=
    (Place.below_iff_exists _ _).mpr ⟨r, hNe, rfl⟩
  have hGone : (fs.eraseBelow place).node? (place ++ r) = none := by
    rw [node?_eraseBelow, if_pos hBelow]
  rw [node?_of_ne_nil _ (by simp [hNe])] at hGone
  rw [node?_of_ne_nil _ (by simp [hNe]), node?_of_ne_nil _ hNe,
    graft, List.lookup_append, lookup_map_append place hNe, hGone]
  cases contents.nodes.lookup r <;> rfl

/- Elsewhere nothing changes. -/
theorem node?_graft_of_not_below
    {q : Place}
    (hBelow : q.below place = false) :
    (fs.graft place contents).node? q = fs.node? q := by
  by_cases hNe : q = []
  · subst hNe
    rfl
  have hNone :
      ((contents.nodes.filter fun entry => entry.1 ≠ []).map
        fun entry => (place ++ entry.1, entry.2)).lookup q =
          none := by
    rw [List.lookup_eq_none_iff]
    intro entry hMem
    simp only [List.mem_map, List.mem_filter] at hMem
    obtain ⟨⟨r, node⟩, ⟨-, hR⟩, rfl⟩ := hMem
    rw [bne_iff_ne]
    rintro rfl
    rw [(Place.below_iff_exists _ _).mpr
      ⟨r, by simpa using hR, rfl⟩] at hBelow
    contradiction
  have hSame := fs.node?_eraseBelow place q
  rw [hBelow, node?_of_ne_nil _ hNe] at hSame
  rw [node?_of_ne_nil _ hNe, graft, List.lookup_append, hNone,
    Option.none_or, hSame]
  rfl

/- The directories below the place list the new contents. -/
theorem children_graft
    (r : Place) :
    (fs.graft place contents).children (place ++ r) =
      contents.children r := by
  have hOld : (fs.eraseBelow place).children (place ++ r) = [] := by
    rw [children, List.filterMap_eq_nil_iff]
    rintro ⟨q, node⟩ hMem
    rw [eraseBelow, List.mem_filter] at hMem
    rcases List.eq_nil_or_concat q with rfl | ⟨init, last, rfl⟩
    · rfl
    rw [List.concat_eq_append] at hMem ⊢
    simp only [List.getLast?_concat, List.dropLast_concat]
    rw [if_neg]
    rintro rfl
    have hBelow : Place.below (place ++ r ++ [last]) place = true :=
      (Place.below_iff_exists _ _).mpr
        ⟨r ++ [last], by simp, List.append_assoc ..⟩
    rw [hBelow] at hMem
    exact absurd hMem.2 (by simp)
  have hNew :
      ∀ nodes : List (Place × Node),
        (FileSystem.mk
          ((nodes.filter fun entry => entry.1 ≠ []).map
            fun entry =>
              (place ++ entry.1, entry.2))).children (place ++ r) =
          (FileSystem.mk nodes).children r := by
    intro nodes
    induction nodes with
    | nil => rfl
    | cons entry nodes ih =>
        obtain ⟨q, node⟩ := entry
        rcases List.eq_nil_or_concat q with rfl | ⟨init, last, rfl⟩
        · rw [List.filter_cons_of_neg (by simp), ih]
          rfl
        · simp only [children, List.concat_eq_append] at ih ⊢
          rw [List.filter_cons_of_pos (by simp), List.map_cons,
            List.filterMap_cons, List.filterMap_cons, ih]
          simp [← List.append_assoc]
  rw [children] at hOld
  rw [children, graft, List.filterMap_append, hOld,
    List.append_nil]
  exact hNew contents.nodes

variable {fs contents : FileSystem} {place : Place}

/- New contents fit below a directory. -/
theorem WellFormed.graft
    (hFs : fs.WellFormed)
    {mode : Nat}
    (hPlace : fs.node? place = some (.directory mode))
    (hContents : contents.WellFormed) :
    (fs.graft place contents).WellFormed := by
  have hCases :
      ∀ q name,
        (∃ r,
            q = place ++ r ∧
              (fs.graft place contents).node? (q ++ [name]) =
                contents.node? (r ++ [name])) ∨
          (q.below place = false ∧
            (fs.graft place contents).node? (q ++ [name]) =
              fs.node? (q ++ [name])) := by
    intro q name
    by_cases hPrefix : place <+: q
    · obtain ⟨r, rfl⟩ := hPrefix
      left
      refine ⟨r, rfl, ?_⟩
      rw [List.append_assoc, node?_graft _ _ _ (by simp)]
    · right
      have hNot :
          ∀ q' : Place,
            (place <+: q' → place <+: q ∨ q' = place) →
              q'.below place = false := by
        intro q' hUp
        rw [← Bool.not_eq_true, Place.below_iff]
        rintro ⟨hPre, hNe⟩
        rcases hUp hPre with hIn | hEq
        · exact hPrefix hIn
        · exact hNe hEq
      refine ⟨hNot q Or.inl, node?_graft_of_not_below _ _ _
        (hNot _ fun hPre => ?_)⟩
      exact (Place.prefix_or_eq_of_prefix_snoc hPre).imp_right
        Eq.symm
  constructor
  · intro q name node hNode
    rcases hCases q name with ⟨r, rfl, hSame⟩ | ⟨hBelow, hSame⟩
    · rw [hSame] at hNode
      obtain ⟨bits, hDir⟩ := hContents.parent hNode
      by_cases hR : r = []
      · subst hR
        refine ⟨mode, ?_⟩
        rw [List.append_nil,
          node?_graft_of_not_below _ _ _ (by simp [Place.below]),
          hPlace]
      · exact ⟨bits, by rw [node?_graft _ _ _ hR, hDir]⟩
    · rw [hSame] at hNode
      obtain ⟨bits, hDir⟩ := hFs.parent hNode
      exact ⟨bits, by
        rw [node?_graft_of_not_below _ _ _ hBelow, hDir]⟩
  · intro q name node hNode
    rcases hCases q name with ⟨r, rfl, hSame⟩ | ⟨-, hSame⟩
    · rw [hSame] at hNode
      exact hContents.named hNode
    · rw [hSame] at hNode
      exact hFs.named hNode

end FileSystem

end PluginStudio
