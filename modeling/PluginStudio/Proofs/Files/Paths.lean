import PluginStudio.Proofs.Files.Nodes

/-
  The names that a path is made of.

  Key definitions include:
    * `PluginStudio.Path.parts`

  Main declarations:
    * `Path.names_join`, `Path.isAbsolute_join`
    * `Path.parts_of_parent?`, `Path.isAbsolute_of_parent?`
    * `Path.fileName?_of_names`, `Path.names_of_fileName?`

  Joining writes the names of two paths one after the other, and
  a parent has one name less.  Segments of one dot, which lead
  nowhere, are not among the parts of a path.
-/

------------------------------------------------------------
-- Splitting
------------------------------------------------------------

namespace PluginStudio

namespace Path

theorem splitOn_cons_self
    (sep : Char)
    (cs : List Char) :
    splitOn sep (sep :: cs) = [] :: splitOn sep cs := by
  simp [splitOn]

theorem splitOn_ne_nil
    (sep : Char)
    (cs : List Char) :
    splitOn sep cs ≠ [] := by
  cases cs with
  | nil => simp [splitOn]
  | cons c cs =>
      simp only [splitOn, List.foldr_cons]
      split
      · simp
      · split <;> simp

theorem splitOn_cons_of_ne
    {sep c : Char}
    (hNe : c ≠ sep)
    {cs part : List Char}
    {parts : List (List Char)}
    (hCs : splitOn sep cs = part :: parts) :
    splitOn sep (c :: cs) = (c :: part) :: parts := by
  rw [splitOn] at hCs ⊢
  rw [List.foldr_cons, if_neg hNe, hCs]

/- A separator ends one part and starts another. -/
theorem splitOn_append_sep
    (sep : Char)
    (as bs : List Char) :
    splitOn sep (as ++ sep :: bs) =
      splitOn sep as ++ splitOn sep bs := by
  induction as with
  | nil => exact splitOn_cons_self sep bs
  | cons a as ih =>
      by_cases hSep : a = sep
      · subst hSep
        rw [List.cons_append, splitOn_cons_self,
          splitOn_cons_self, ih]
        rfl
      · obtain ⟨part, parts, hAs⟩ :=
          List.exists_cons_of_ne_nil (splitOn_ne_nil sep as)
        rw [hAs, List.cons_append] at ih
        rw [List.cons_append, splitOn_cons_of_ne hSep ih,
          splitOn_cons_of_ne hSep hAs]
        rfl

/- A text without separators is one part. -/
theorem splitOn_of_notMem
    {sep : Char}
    {cs : List Char}
    (hNot : sep ∉ cs) :
    splitOn sep cs = [cs] := by
  induction cs with
  | nil => rfl
  | cons c cs ih =>
      simp only [List.mem_cons, not_or] at hNot
      exact splitOn_cons_of_ne (Ne.symm hNot.1) (ih hNot.2)

/- No part holds a separator. -/
theorem notMem_of_mem_splitOn
    {sep : Char}
    {cs part : List Char}
    (hPart : part ∈ splitOn sep cs) :
    sep ∉ part := by
  induction cs generalizing part with
  | nil =>
      simp only [splitOn, List.foldr_nil, List.mem_singleton] at hPart
      simp [hPart]
  | cons c cs ih =>
      by_cases hSep : c = sep
      · subst hSep
        rw [splitOn_cons_self, List.mem_cons] at hPart
        rcases hPart with rfl | hPart
        · simp
        · exact ih hPart
      · obtain ⟨first, parts, hCs⟩ :=
          List.exists_cons_of_ne_nil (splitOn_ne_nil sep cs)
        rw [splitOn_cons_of_ne hSep hCs, List.mem_cons] at hPart
        rcases hPart with rfl | hPart
        · have hFirst := ih (hCs ▸ List.mem_cons_self ..)
          simp [hFirst, Ne.symm hSep]
        · exact ih (hCs ▸ List.mem_cons_of_mem _ hPart)

/- Every character of a part comes from the text. -/
theorem mem_of_mem_splitOn
    {sep c : Char}
    {cs part : List Char}
    (hPart : part ∈ splitOn sep cs)
    (hChar : c ∈ part) :
    c ∈ cs := by
  induction cs generalizing part with
  | nil =>
      simp only [splitOn, List.foldr_nil, List.mem_singleton] at hPart
      simp [hPart] at hChar
  | cons d cs ih =>
      by_cases hSep : d = sep
      · subst hSep
        rw [splitOn_cons_self, List.mem_cons] at hPart
        rcases hPart with rfl | hPart
        · simp at hChar
        · exact List.mem_cons_of_mem _ (ih hPart hChar)
      · obtain ⟨first, parts, hCs⟩ :=
          List.exists_cons_of_ne_nil (splitOn_ne_nil sep cs)
        rw [splitOn_cons_of_ne hSep hCs, List.mem_cons] at hPart
        rcases hPart with rfl | hPart
        · rcases List.mem_cons.mp hChar with rfl | hChar
          · exact List.mem_cons_self ..
          · exact List.mem_cons_of_mem _
              (ih (hCs ▸ List.mem_cons_self ..) hChar)
        · exact List.mem_cons_of_mem _
            (ih (hCs ▸ List.mem_cons_of_mem _ hPart) hChar)

end Path

end PluginStudio

------------------------------------------------------------
-- Names
------------------------------------------------------------

namespace PluginStudio

namespace Path

theorem segments_append_slash (p q : Path) :
    segments (p ++ "/" ++ q) = p.segments ++ q.segments := by
  have hList : (p ++ "/" ++ q).toList = p.toList ++ '/' :: q.toList := by
    simp
  rw [segments, hList, splitOn_append_sep, List.map_append]
  rfl

theorem names_append_slash (p q : Path) :
    names (p ++ "/" ++ q) = p.names ++ q.names := by
  rw [names, segments_append_slash, List.filter_append]
  rfl

theorem segments_ne_nil (p : Path) : p.segments ≠ [] := by
  simp [segments, splitOn_ne_nil]

@[simp] theorem names_empty : names "" = [] := by
  simp [names, segments, splitOn]

/- No name of a path is empty or holds a slash. -/
theorem slash_notMem_of_mem_segments
    {p : Path}
    {name : String}
    (hName : name ∈ p.segments) :
    '/' ∉ name.toList := by
  obtain ⟨part, hPart, rfl⟩ := List.mem_map.mp hName
  simpa using notMem_of_mem_splitOn hPart

theorem slash_notMem_of_mem_names
    {p : Path}
    {name : String}
    (hName : name ∈ p.names) :
    '/' ∉ name.toList :=
  slash_notMem_of_mem_segments (List.mem_filter.mp hName).1

theorem slash_notMem_of_mem_steps
    (p : Path) :
    ∀ name ∈ p.steps, '/' ∉ name.toList := by
  intro name hName
  rw [steps] at hName
  split_ifs at hName
  · rcases List.mem_append.mp hName with hName | hName
    · exact slash_notMem_of_mem_names hName
    · simp only [List.mem_singleton] at hName
      simp [hName]
  · exact slash_notMem_of_mem_names hName

theorem ne_empty_of_mem_names
    {p : Path}
    {name : String}
    (hName : name ∈ p.names) :
    name ≠ "" := by
  simpa using (List.mem_filter.mp hName).2

theorem segments_of_notMem
    {name : String}
    (hSlash : '/' ∉ name.toList) :
    segments name = [name] := by
  rw [segments, splitOn_of_notMem hSlash]
  simp

/- A name, taken as a path, is its only name. -/
theorem names_of_isName
    {name : String}
    (hName : IsName name) :
    names name = [name] := by
  rw [names, segments_of_notMem hName.2.2.2]
  simp [hName.1]

theorem isAbsolute_of_notMem
    {p : Path}
    (hSlash : '/' ∉ p.toList) :
    p.isAbsolute = false := by
  cases hList : p.toList with
  | nil => simp [isAbsolute, hList]
  | cons c cs =>
      rw [hList] at hSlash
      simp only [List.mem_cons, not_or] at hSlash
      simp [isAbsolute, hList, Ne.symm hSlash.1]

/- A path that ends with a slash, without it. -/
theorem exists_of_endsWithSlash
    {p : Path}
    (hEnds : p.endsWithSlash = true) :
    ∃ q : Path, p = q ++ "/" := by
  simp only [endsWithSlash, decide_eq_true_eq] at hEnds
  obtain ⟨cs, hList⟩ := List.getLast?_eq_some_iff.mp hEnds
  refine ⟨String.ofList cs, ?_⟩
  rw [← String.toList_inj, hList]
  simp

/- What joining writes, if the second path is not absolute. -/
theorem join_cases
    (dir : Path)
    {p : Path}
    (hRelative : p.isAbsolute = false) :
    (dir = "" ∧ dir.join p = p) ∨
      (∃ d : Path, dir = d ++ "/" ∧ dir.join p = d ++ "/" ++ p) ∨
      (dir ≠ "" ∧ dir.join p = dir ++ "/" ++ p) := by
  by_cases hEmpty : dir = ""
  · left
    simp [hEmpty, join, hRelative]
  · cases hEnds : dir.endsWithSlash with
    | true =>
        obtain ⟨d, rfl⟩ := exists_of_endsWithSlash hEnds
        right
        left
        refine ⟨d, rfl, ?_⟩
        simp [join, hRelative, hEnds]
    | false =>
        right
        right
        simp [join, hRelative, hEmpty, hEnds]

/- Joining writes the names of both paths. -/
theorem names_join
    (dir : Path)
    {p : Path}
    (hRelative : p.isAbsolute = false) :
    (dir.join p).names = dir.names ++ p.names := by
  rcases join_cases dir hRelative with
    ⟨hEmpty, hJoin⟩ | ⟨d, hDir, hJoin⟩ | ⟨_, hJoin⟩
  · rw [hJoin, hEmpty]
    simp
  · have hNames : dir.names = d.names := by
      have h := names_append_slash d ""
      simpa [hDir] using h
    rw [hJoin, names_append_slash, hNames]
  · rw [hJoin, names_append_slash]

theorem isAbsolute_append
    {p : Path}
    (hNonempty : p ≠ "")
    (q : Path) :
    (p ++ q).isAbsolute = p.isAbsolute := by
  cases hList : p.toList with
  | nil => simp [hNonempty] at hList
  | cons c cs => simp [isAbsolute, hList]

/- Joining starts where the first path starts. -/
theorem isAbsolute_join
    (dir : Path)
    {p : Path}
    (hRelative : p.isAbsolute = false) :
    (dir.join p).isAbsolute = dir.isAbsolute := by
  rcases join_cases dir hRelative with
    ⟨hEmpty, hJoin⟩ | ⟨d, hDir, hJoin⟩ | ⟨hNonempty, hJoin⟩
  · rw [hJoin, hRelative, hEmpty]
    rfl
  · rw [hJoin, hDir]
    exact isAbsolute_append (by simp) p
  · rw [hJoin, isAbsolute_append (by simp),
      isAbsolute_append hNonempty]

end Path

end PluginStudio

------------------------------------------------------------
-- Parts
------------------------------------------------------------

namespace PluginStudio

namespace Path

/- The names of a path that lead somewhere. -/
def parts (p : Path) : List String :=
  p.names.filter fun name => name ≠ "."

theorem parts_eq_filter_segments (p : Path) :
    p.parts = p.segments.filter fun name => !isVoid name := by
  simp only [parts, names, List.filter_filter]
  congr 1
  funext name
  by_cases hEmpty : name = "" <;> by_cases hDot : name = "." <;>
    simp [isVoid, hEmpty, hDot]

theorem parts_eq_filter_names (p : Path) :
    p.parts = p.names.filter fun name => !isVoid name := by
  rw [parts]
  apply List.filter_congr
  intro name hMem
  simp [isVoid, ne_empty_of_mem_names hMem]

theorem parts_join
    (dir : Path)
    {p : Path}
    (hRelative : p.isAbsolute = false) :
    (dir.join p).parts = dir.parts ++ p.parts := by
  rw [parts, names_join dir hRelative, List.filter_append]
  rfl

theorem parts_of_isName
    {name : String}
    (hName : IsName name) :
    parts name = [name] := by
  simp [parts, names_of_isName hName, hName.2.1]

/- What is not void, not two dots and among the parts is a name. -/
theorem isName_of_mem_parts
    {p : Path}
    {name : String}
    (hName : name ∈ p.parts)
    (hUp : name ≠ "..") :
    IsName name := by
  obtain ⟨hMem, hDot⟩ := List.mem_filter.mp hName
  exact ⟨ne_empty_of_mem_names hMem, by simpa using hDot, hUp,
    slash_notMem_of_mem_names hMem⟩

end Path

end PluginStudio

------------------------------------------------------------
-- Parents
------------------------------------------------------------

namespace PluginStudio

namespace Path

/- Trimming takes away void segments only. -/
theorem filter_trimmedRev (names : List String) :
    (trimmedRev names).filter (fun name => !isVoid name) =
      names.filter fun name => !isVoid name := by
  fun_induction trimmedRev names with
  | case1 => rfl
  | case2 => rfl
  | case3 name names hNames hVoid ih => simp [ih, hVoid]
  | case4 => rfl

theorem trimmedRev_ne_nil
    {names : List String}
    (hNames : names ≠ []) :
    trimmedRev names ≠ [] := by
  fun_induction trimmedRev names with
  | case1 => exact hNames
  | case2 => simp
  | case3 name names hTail hVoid ih => exact ih hTail
  | case4 => simp

/- What is left of several segments ends with a name. -/
theorem not_isVoid_of_trimmedRev
    {names rest : List String}
    {first second : String}
    (hTrimmed : trimmedRev names = first :: second :: rest) :
    isVoid first = false := by
  fun_induction trimmedRev names with
  | case1 => simp at hTrimmed
  | case2 => simp at hTrimmed
  | case3 name names hTail hVoid ih => exact ih hTrimmed
  | case4 name names hTail hVoid =>
      simp only [List.cons.injEq] at hTrimmed
      rw [← hTrimmed.1]
      simpa using hVoid

theorem trimmedRev_suffix (names : List String) :
    trimmedRev names <:+ names := by
  fun_induction trimmedRev names with
  | case1 => exact List.suffix_refl _
  | case2 => exact List.suffix_refl _
  | case3 name names hTail hVoid ih =>
      exact ih.trans (List.suffix_cons _ _)
  | case4 => exact List.suffix_refl _

theorem trimmed_isPrefix (names : List String) :
    trimmed names <+: names := by
  rw [← List.reverse_suffix]
  simpa [trimmed] using trimmedRev_suffix names.reverse

theorem filter_trimmed (names : List String) :
    (trimmed names).filter (fun name => !isVoid name) =
      names.filter fun name => !isVoid name := by
  simp [trimmed, List.filter_reverse, filter_trimmedRev]

theorem trimmed_ne_nil
    {names : List String}
    (hNames : names ≠ []) :
    trimmed names ≠ [] := by
  have hReverse : names.reverse ≠ [] := by simpa using hNames
  simpa [trimmed] using trimmedRev_ne_nil hReverse

/- Trimmed segments are one segment, or end with a name. -/
theorem trimmed_cases
    {names : List String}
    (hNames : names ≠ []) :
    (∃ name, trimmed names = [name]) ∨
      ∃ init last, init ≠ [] ∧ isVoid last = false ∧
        trimmed names = init ++ [last] := by
  cases hTrimmed : trimmedRev names.reverse with
  | nil =>
      exact absurd hTrimmed (trimmedRev_ne_nil (by simpa using hNames))
  | cons first rest =>
      cases rest with
      | nil =>
          left
          exact ⟨first, by simp [trimmed, hTrimmed]⟩
      | cons second rest =>
          right
          refine ⟨(second :: rest).reverse, first, by simp,
            not_isVoid_of_trimmedRev hTrimmed, ?_⟩
          simp [trimmed, hTrimmed]

/- Segments that hold no slash are those of the path they make. -/
theorem segments_ofSegments
    {names : List String}
    (hNames : names ≠ [])
    (hSlash : ∀ name ∈ names, '/' ∉ name.toList) :
    segments (ofSegments names) = names := by
  induction names with
  | nil => contradiction
  | cons name names ih =>
      cases names with
      | nil =>
          simpa [ofSegments] using
            segments_of_notMem (hSlash name (by simp))
      | cons next names =>
          have ih := ih (by simp) fun n hn =>
            hSlash n (List.mem_cons_of_mem _ hn)
          rw [ofSegments, String.intercalate_cons_cons,
            segments_append_slash, segments_of_notMem
              (hSlash name (by simp))]
          rw [ofSegments] at ih
          rw [ih]
          rfl

/- An absolute path starts with an empty segment before a slash. -/
theorem isAbsolute_iff_segments (p : Path) :
    p.isAbsolute = true ↔
      ∃ second rest, p.segments = "" :: second :: rest := by
  cases hList : p.toList with
  | nil => simp [isAbsolute, segments, hList, splitOn]
  | cons c cs =>
      obtain ⟨part, parts, hCs⟩ :=
        List.exists_cons_of_ne_nil (splitOn_ne_nil '/' cs)
      by_cases hSlash : c = '/'
      · subst hSlash
        simp [isAbsolute, segments, hList, splitOn_cons_self, hCs]
      · simp [isAbsolute, segments, hList,
          splitOn_cons_of_ne hSlash hCs, hSlash]

theorem parts_ofTrimmed
    (absolute : Bool)
    {names : List String}
    (hNames : names ≠ [])
    (hSlash : ∀ name ∈ names, '/' ∉ name.toList) :
    parts (ofTrimmed absolute names) =
      names.filter fun name => !isVoid name := by
  unfold ofTrimmed
  split
  case isTrue hRoot =>
    simp only [Bool.and_eq_true, decide_eq_true_eq] at hRoot
    rw [hRoot.2]
    decide
  case isFalse =>
    rw [parts_eq_filter_segments, segments_ofSegments hNames hSlash]

/- What the parent of a path is made of. -/
private theorem parent?_cases
    {p parent : Path}
    (hParent : p.parent? = some parent) :
    (parent = "" ∧ p.isAbsolute = false ∧
        ∃ name, trimmed p.segments = [name]) ∨
      ∃ init last, init ≠ [] ∧ isVoid last = false ∧
        trimmed p.segments = init ++ [last] ∧
        parent = ofTrimmed p.isAbsolute (trimmed init) := by
  rcases trimmed_cases p.segments_ne_nil with
    ⟨name, hOne⟩ | ⟨init, last, hInit, hLast, hMany⟩
  · left
    simp only [parent?, hOne] at hParent
    split at hParent
    · contradiction
    · rename_i hNot
      simp only [Bool.or_eq_true, decide_eq_true_eq, not_or,
        Bool.not_eq_true] at hNot
      exact ⟨(Option.some.inj hParent).symm, hNot.1, name, hOne⟩
  · right
    refine ⟨init, last, hInit, hLast, hMany, ?_⟩
    obtain ⟨first, rest, rfl⟩ := List.exists_cons_of_ne_nil hInit
    cases rest with
    | nil =>
        simp only [parent?, hMany, List.cons_append,
          List.nil_append] at hParent
        exact (Option.some.inj hParent).symm
    | cons second rest =>
        simp only [parent?, hMany, List.cons_append] at hParent
        rw [← Option.some.inj hParent]
        congr 2
        show ((first :: second :: rest) ++ [last]).dropLast = _
        exact List.dropLast_concat

/- The parent lacks the last part, if there is any. -/
theorem parts_of_parent?
    {p parent : Path}
    (hParent : p.parent? = some parent) :
    (∃ last, p.parts = parent.parts ++ [last]) ∨
      (p.parts = [] ∧ parent = "") := by
  have hParts : p.parts =
      (trimmed p.segments).filter fun name => !isVoid name := by
    rw [filter_trimmed, parts_eq_filter_segments]
  rcases parent?_cases hParent with
    ⟨rfl, -, name, hOne⟩ | ⟨init, last, hInit, hLast, hMany, rfl⟩
  · rw [hParts, hOne]
    cases hVoid : isVoid name with
    | true => simp [hVoid]
    | false => simp [hVoid, parts]
  · left
    refine ⟨last, ?_⟩
    have hSlash : ∀ name ∈ trimmed init, '/' ∉ name.toList := by
      intro name hName
      apply slash_notMem_of_mem_segments (p := p)
      apply (trimmed_isPrefix p.segments).subset
      rw [hMany]
      exact List.mem_append_left _
        ((trimmed_isPrefix init).subset hName)
    rw [parts_ofTrimmed _ (trimmed_ne_nil hInit) hSlash,
      filter_trimmed, hParts, hMany]
    simp [hLast]

theorem isAbsolute_ofTrimmed
    {absolute : Bool}
    {first : String}
    {rest : List String}
    (hFirst : absolute = true ↔ first = "")
    (hSlash : ∀ name ∈ first :: rest, '/' ∉ name.toList) :
    isAbsolute (ofTrimmed absolute (first :: rest)) = absolute := by
  have hSegments := segments_ofSegments (by simp) hSlash
  cases absolute with
  | true =>
      rw [hFirst.mp rfl] at hSegments ⊢
      cases rest with
      | nil => decide
      | cons next rest =>
          simp only [ofTrimmed, Bool.true_and]
          rw [if_neg (by simp), isAbsolute_iff_segments]
          exact ⟨next, rest, hSegments⟩
  | false =>
      have hNonempty : first ≠ "" := by simpa using hFirst
      simp only [ofTrimmed, Bool.false_and]
      rw [if_neg (by simp), ← Bool.not_eq_true,
        isAbsolute_iff_segments, hSegments]
      simp [hNonempty]

/- A parent starts where the path starts. -/
theorem isAbsolute_of_parent?
    {p parent : Path}
    (hParent : p.parent? = some parent) :
    parent.isAbsolute = p.isAbsolute := by
  rcases parent?_cases hParent with
    ⟨rfl, hRelative, -⟩ | ⟨init, last, hInit, -, hMany, rfl⟩
  · rw [hRelative]
    rfl
  · obtain ⟨first, rest, hFirst⟩ :=
      List.exists_cons_of_ne_nil (trimmed_ne_nil hInit)
    have hPrefix : first :: rest <+: p.segments := by
      rw [← hFirst]
      refine (trimmed_isPrefix init).trans ?_
      refine List.IsPrefix.trans ?_ (trimmed_isPrefix p.segments)
      rw [hMany]
      exact List.prefix_append _ _
    -- The first segment stays, with the slash that follows it.
    obtain ⟨second, more, hSegments⟩ :
        ∃ second more, p.segments = first :: second :: more := by
      have hLength := (trimmed_isPrefix p.segments).length_le
      rw [hMany, List.length_append, List.length_singleton]
        at hLength
      have hPos := List.length_pos_iff.mpr hInit
      obtain ⟨tail, hTail⟩ := hPrefix
      rw [← hTail] at hLength ⊢
      cases hMore : rest ++ tail with
      | nil =>
          simp only [List.cons_append, hMore,
            List.length_singleton] at hLength
          omega
      | cons second more =>
          exact ⟨second, more, by rw [← hMore]; rfl⟩
    rw [hFirst]
    apply isAbsolute_ofTrimmed
    · rw [isAbsolute_iff_segments, hSegments]
      simp
    · exact fun name hName =>
        slash_notMem_of_mem_segments (hPrefix.subset hName)

/- The name with which a path ends is its last name. -/
theorem fileName?_of_names
    {p : Path}
    {ns : List String}
    {name : String}
    (hNames : p.names = ns ++ [name])
    (hName : IsName name) :
    p.fileName? = some name := by
  have hVoid : isVoid name = false := by
    simp [isVoid, hName.1, hName.2.1]
  have hLast :
      ((trimmed p.segments).filter fun n => !isVoid n).getLast? =
        some name := by
    rw [filter_trimmed, ← parts_eq_filter_segments,
      parts_eq_filter_names, hNames, List.filter_append]
    simp [hVoid]
  have hTrimmed : (trimmed p.segments).getLast? = some name := by
    rcases trimmed_cases p.segments_ne_nil with
      ⟨only, hOne⟩ | ⟨init, last, -, hKeep, hMany⟩
    · rw [hOne] at hLast ⊢
      cases hOnly : isVoid only with
      | true => simp [hOnly] at hLast
      | false => simpa [hOnly] using hLast
    · rw [hMany, List.filter_append] at hLast
      rw [hMany]
      simpa [hKeep] using hLast
  rw [fileName?, hTrimmed]
  simp [hVoid, hName.2.2.1]

/- The last name of a path that ends with a name. -/
theorem fileName?_join
    (dir : Path)
    {name : String}
    (hName : IsName name) :
    (dir.join name).fileName? = some name := by
  have hNames : (dir.join name).names = dir.names ++ [name] := by
    rw [names_join dir (isAbsolute_of_notMem hName.2.2.2),
      names_of_isName hName]
  exact fileName?_of_names hNames hName

/- Only segments that name nothing come after the last name. -/
theorem names_of_fileName?
    {p : Path}
    {name : String}
    (hLast : p.fileName? = some name) :
    ∃ ns more,
      p.names = ns ++ name :: more ∧
        (∀ n ∈ more, isVoid n = true) ∧
          p.parts = (ns.filter fun n => !isVoid n) ++ [name] ∧
            IsName name := by
  have hTrimmed :
      (trimmed p.segments).getLast? = some name ∧
        isVoid name = false ∧ name ≠ ".." := by
    rw [fileName?] at hLast
    cases hEnd : (trimmed p.segments).getLast? with
    | none => simp [hEnd] at hLast
    | some last =>
        simp only [hEnd, Option.ite_none_left_eq_some,
          Option.some.injEq] at hLast
        rcases hLast with ⟨hNot, rfl⟩
        simpa using hNot
  rcases hTrimmed with ⟨hEnd, hVoid, hUp⟩
  rcases List.getLast?_eq_some_iff.mp hEnd with ⟨init, hInit⟩
  have hParts :
      p.names.filter (fun n => !isVoid n) =
        init.filter (fun n => !isVoid n) ++ [name] := by
    rw [← parts_eq_filter_names, parts_eq_filter_segments,
      ← filter_trimmed, hInit, List.filter_append]
    simp [hVoid]
  rcases List.filter_eq_append_iff.mp hParts with
    ⟨front, back, hNames, hFront, hBack⟩
  rcases List.filter_eq_cons_iff.mp hBack with
    ⟨lead, more, rfl, hLead, -, hMore⟩
  have hMem : name ∈ p.names := by simp [hNames]
  have hLeadNone : lead.filter (fun n => !isVoid n) = [] :=
    List.filter_eq_nil_iff.mpr hLead
  refine ⟨front ++ lead, more, ?_, ?_, ?_, ?_⟩
  · rw [hNames, List.append_assoc]
  · intro n hn
    simpa using List.filter_eq_nil_iff.mp hMore n hn
  · rw [parts_eq_filter_names, hParts, List.filter_append, hFront,
      hLeadNone, List.append_nil]
  · apply isName_of_mem_parts (p := p) _ hUp
    rw [parts_eq_filter_names, hParts]
    simp

/- A path that names anything has a parent. -/
theorem exists_parent?_of_parts
    {p : Path}
    (hParts : p.parts ≠ []) :
    ∃ parent, p.parent? = some parent := by
  have hFilter :
      ((trimmed p.segments).filter fun name => !isVoid name) ≠ [] := by
    rwa [filter_trimmed, ← parts_eq_filter_segments]
  rcases trimmed_cases p.segments_ne_nil with
    ⟨name, hOne⟩ | ⟨init, last, hInit, -, hMany⟩
  · rw [hOne] at hFilter
    have hName : isVoid name = false := by
      cases hVoid : isVoid name with
      | false => rfl
      | true => simp [hVoid] at hFilter
    have hNe : name ≠ "" := by
      rintro rfl
      contradiction
    have hRelative : p.isAbsolute = false := by
      rw [← Bool.not_eq_true, isAbsolute_iff_segments]
      rintro ⟨second, more, hSegments⟩
      have hFirst := trimmed_isPrefix p.segments
      rw [hOne, hSegments, List.cons_prefix_cons] at hFirst
      exact hNe hFirst.1
    exact ⟨"", by simp [parent?, hOne, hRelative, hNe]⟩
  · obtain ⟨first, more, rfl⟩ := List.exists_cons_of_ne_nil hInit
    rw [parent?, hMany]
    cases more <;> exact ⟨_, rfl⟩

/- So has one that ends with a name. -/
theorem exists_parent?_join
    (dir : Path)
    {name : String}
    (hName : IsName name) :
    ∃ parent, (dir.join name).parent? = some parent := by
  apply exists_parent?_of_parts
  rw [parts_join _ (isAbsolute_of_notMem hName.2.2.2),
    parts_of_isName hName]
  simp

end Path

end PluginStudio

------------------------------------------------------------
-- Last Names
------------------------------------------------------------

namespace PluginStudio

namespace Path

/- Does the path end with a name and no slash? -/
def EndsInName (p : Path) : Prop :=
  p.endsWithSlash = false ∧
    ∃ last, p.names.getLast? = some last ∧ IsName last

theorem EndsInName.ne_empty
    {p : Path}
    (hEnds : p.EndsInName) :
    p ≠ "" := by
  rintro rfl
  obtain ⟨-, last, hLast, -⟩ := hEnds
  simp [show names "" = [] from by decide] at hLast

/- The last slash of a text divides it. -/
private theorem split_at_last
    (cs : List Char) :
    '/' ∉ cs ∨ ∃ as bs, cs = as ++ '/' :: bs ∧ '/' ∉ bs := by
  induction cs with
  | nil => simp
  | cons c cs ih =>
      rcases ih with hNone | ⟨as, bs, rfl, hBs⟩
      · by_cases hC : c = '/'
        · exact Or.inr ⟨[], cs, by simp [hC], hNone⟩
        · left
          simp [Ne.symm hC, hNone]
      · exact Or.inr ⟨c :: as, bs, rfl, hBs⟩

/- A text without a slash ends without one. -/
theorem endsWithSlash_append
    (p : Path)
    {text : String}
    (hText : text.toList ≠ [])
    (hSlash : '/' ∉ text.toList) :
    endsWithSlash (p ++ text) = false := by
  simp only [endsWithSlash, String.toList_append,
    List.getLast?_append, decide_eq_false_iff_not]
  cases hLast : text.toList.getLast? with
  | none => exact absurd (List.getLast?_eq_none_iff.mp hLast) hText
  | some c =>
      simp only [Option.some_or, Option.some.injEq]
      rintro rfl
      exact hSlash (List.mem_of_getLast? hLast)

/-
  A text without a slash that ends a path ends its last name.  The
  names are those before the last slash and that one.
-/
theorem exists_names_append
    (p : Path)
    {text : String}
    (hText : text.toList ≠ [])
    (hSlash : '/' ∉ text.toList) :
    ∃ ns bs,
      '/' ∉ bs ∧
        (p ++ text).names =
          ns ++ [String.ofList (bs ++ text.toList)] := by
  rcases split_at_last p.toList with hNone | ⟨as, bs, hAs, hBs⟩
  · refine ⟨[], p.toList, hNone, ?_⟩
    have hAll : '/' ∉ (p ++ text).toList := by
      simp [hNone, hSlash]
    rw [names, segments_of_notMem hAll]
    have hNe : p ++ text ≠ "" := by
      intro hEmpty
      have := congrArg String.toList hEmpty
      simp [hText] at this
    rw [← String.toList_append, String.ofList_toList]
    simp [hNe]
  · refine ⟨names (String.ofList as), bs, hBs, ?_⟩
    have hSplit :
        p ++ text =
          String.ofList as ++ "/" ++
            String.ofList (bs ++ text.toList) := by
      rw [← String.toList_inj]
      simp [hAs]
    have hLast : '/' ∉
        (String.ofList (bs ++ text.toList)).toList := by
      simp [hBs, hSlash]
    rw [hSplit, names_append_slash]
    congr 1
    rw [names, segments_of_notMem hLast]
    apply List.filter_eq_self.mpr
    rintro name hMem
    rw [List.mem_singleton.mp hMem, decide_eq_true_eq]
    intro hEmpty
    have := congrArg String.toList hEmpty
    simp [hText] at this

/- So the path ends in a name, if the text is no row of dots. -/
theorem endsInName_append
    (p : Path)
    {text : String}
    (hSlash : '/' ∉ text.toList)
    (hLong : 2 < text.length) :
    EndsInName (p ++ text) := by
  have hText : text.toList ≠ [] := by
    intro hNil
    have : text.length = 0 := by
      rw [← String.length_toList, hNil, List.length_nil]
    omega
  obtain ⟨ns, bs, hBs, hNames⟩ := exists_names_append p hText hSlash
  refine ⟨?_, _, by rw [hNames, List.getLast?_concat], ?_⟩
  · exact endsWithSlash_append p hText hSlash
  · apply isName_of_length
    · simp only [String.length_ofList, List.length_append,
        String.length_toList]
      omega
    · simp [hBs, hSlash]

/- A name at the end of a path. -/
theorem endsInName_join
    (dir : Path)
    {name : String}
    (hName : IsName name) :
    EndsInName (dir.join name) := by
  have hRelative := isAbsolute_of_notMem hName.2.2.2
  refine ⟨?_, name, ?_, hName⟩
  · have hNe : name.toList ≠ [] := by simp [hName.1]
    have hEnd := fun p =>
      endsWithSlash_append p hNe hName.2.2.2
    rcases join_cases dir hRelative with
      ⟨-, hJoin⟩ | ⟨d, -, hJoin⟩ | ⟨-, hJoin⟩
    · rw [hJoin]
      simpa using hEnd ""
    · rw [hJoin, hEnd]
    · rw [hJoin, hEnd]
  · rw [names_join dir hRelative, names_of_isName hName,
      List.getLast?_concat]

end Path

end PluginStudio
