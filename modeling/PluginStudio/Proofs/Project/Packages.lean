import PluginStudio.Proofs.Project.Tree

/-
  Where the sources of a package lie.

  Key definitions include:
    * `PluginStudio.Path.followedBy`
    * `PluginStudio.Project.dotted`

  Main declarations:
    * `Path.foldl_join_of_absolute`
    * `Path.foldl_join_eq_followedBy`
    * `Path.names_foldl_join`
    * `Project.packageNames_eq_dotted`
    * `Project.isName_of_dotted`
    * `Project.sourceDir_of_package`

  The dots of a package are gone once it is split at them, so none
  of its texts is a way up.  A text that starts with a slash is a
  path of its own, and what comes before it does not count.
-/

------------------------------------------------------------
-- Joining One After Another
------------------------------------------------------------

namespace PluginStudio

namespace Path

/- A path with texts after it, and a slash in front of each. -/
def followedBy : Path → List String → Path
  | p, [] => p
  | p, text :: texts =>
    followedBy
      (if p.endsWithSlash then p ++ text else p ++ "/" ++ text) texts

/- A text is absolute when it is written if it starts so. -/
theorem isAbsolute_ofText_iff (text : String) :
    (ofText text).isAbsolute = true ↔ text.toList.head? = some '/' := by
  constructor
  · intro hAbsolute
    by_contra hHead
    rw [isAbsolute_ofText hHead] at hAbsolute
    contradiction
  · intro hHead
    rcases List.head?_eq_some_iff.mp hHead with ⟨rest, hList⟩
    have hText : text = "/" ++ String.ofList rest := by
      rw [← String.toList_inj, hList]
      simp
    have hSlash : ofText "/" = "/" := by decide
    rw [hText, ofText_append, hSlash, isAbsolute_append (by decide)]
    decide

/- An absolute path makes up for all that comes before it. -/
theorem foldl_join_of_absolute
    {p : Path}
    (hAbsolute : p.isAbsolute = true)
    (dir : Path)
    (before after : List Path) :
    (before ++ p :: after).foldl join dir = after.foldl join p := by
  rw [List.foldl_append, List.foldl_cons]
  congr 1
  rw [join, if_pos hAbsolute]

/- Other paths are written one after another. -/
theorem foldl_join_eq_followedBy
    {p : Path}
    {qs : List Path}
    (hNonempty : p ≠ "")
    (hRelative : ∀ q ∈ qs, q.isAbsolute = false) :
    qs.foldl join p = followedBy p qs := by
  induction qs generalizing p with
  | nil => rfl
  | cons q qs ih =>
      rw [List.forall_mem_cons] at hRelative
      have hJoin :
          p.join q =
            if p.endsWithSlash then p ++ q else p ++ "/" ++ q := by
        rw [join, hRelative.1]
        simp [hNonempty]
      have hNe : p.join q ≠ "" := by
        rw [hJoin]
        split_ifs <;> simp [hNonempty]
      rw [List.foldl_cons, ih hNe hRelative.2, followedBy, hJoin]

theorem names_foldl_join
    {p : Path}
    {qs : List Path}
    (hRelative : ∀ q ∈ qs, q.isAbsolute = false) :
    (qs.foldl join p).names = p.names ++ qs.flatMap names := by
  induction qs generalizing p with
  | nil => simp
  | cons q qs ih =>
      rw [List.forall_mem_cons] at hRelative
      rw [List.foldl_cons, ih hRelative.2, names_join p hRelative.1,
        List.flatMap_cons, List.append_assoc]

/- A text without dots and slashes is a name. -/
theorem isName_of_dotless
    {name : String}
    (hNe : name ≠ "")
    (hDot : '.' ∉ name.toList)
    (hSlash : '/' ∉ name.toList) :
    IsName name := by
  refine ⟨hNe, ?_, ?_, hSlash⟩ <;>
  · rintro rfl
    exact hDot (by decide)

/- So are the names of a path without dots. -/
theorem isName_of_mem_names
    {p : Path}
    (hDot : '.' ∉ p.toList)
    {name : String}
    (hName : name ∈ p.names) :
    IsName name := by
  refine isName_of_dotless (ne_empty_of_mem_names hName) ?_
    (slash_notMem_of_mem_names hName)
  intro hMem
  rcases List.mem_map.mp (List.mem_filter.mp hName).1 with
    ⟨part, hPart, rfl⟩
  rw [String.toList_ofList] at hMem
  exact hDot (mem_of_mem_splitOn hPart hMem)

end Path

end PluginStudio

------------------------------------------------------------
-- Packages
------------------------------------------------------------

namespace PluginStudio

namespace Path

theorem splitOn_eq
    (sep : Char)
    (cs : List Char) :
    splitOn sep cs = cs.splitOn sep := by
  induction cs with
  | nil => rw [List.splitOn_nil]; rfl
  | cons c cs ih =>
      rw [List.splitOn_cons_eq_if_modifyHead, ← ih]
      rcases List.exists_cons_of_ne_nil (splitOn_ne_nil sep cs) with
        ⟨part, parts, hParts⟩
      by_cases hSep : c = sep
      · rw [hSep, splitOn_cons_self]
        simp
      · rw [splitOn_cons_of_ne hSep hParts, hParts]
        simp [hSep]

end Path

namespace Project

/- The texts between the dots of a package that are not empty. -/
def dotted (package : String) : List String :=
  ((package.toList.splitOn '.').filter fun part => part ≠ []).map
    String.ofList

theorem packageNames_eq_dotted (package : String) :
    packageNames package = dotted package := by
  rw [packageNames, dotted, ← Path.splitOn_eq, List.filter_map]
  congr 1
  apply List.filter_congr
  intro part _
  rw [Function.comp_apply, decide_eq_decide, ne_eq,
    ← String.toList_inj, String.toList_ofList]
  rfl

/- What each of these texts is like. -/
theorem of_mem_dotted
    {package text : String}
    (hText : text ∈ dotted package) :
    text ≠ "" ∧
      '.' ∉ text.toList ∧ ∀ c ∈ text.toList, c ∈ package.toList := by
  rw [dotted, ← Path.splitOn_eq] at hText
  rcases List.mem_map.mp hText with ⟨part, hPart, rfl⟩
  rcases List.mem_filter.mp hPart with ⟨hMem, hNe⟩
  rw [← String.toList_inj.ne, String.toList_ofList]
  exact ⟨by simpa using hNe, Path.notMem_of_mem_splitOn hMem,
    fun c hChar => Path.mem_of_mem_splitOn hMem hChar⟩

/- The names that a text adds to a path are all ways down. -/
theorem isName_of_dotted
    {package text name : String}
    (hText : text ∈ dotted package)
    (hName : name ∈ (Path.ofText text).names) :
    Path.IsName name := by
  refine Path.isName_of_mem_names ?_ hName
  rw [Path.ofText, Octets.mem_ofString_iff (by decide)]
  exact (of_mem_dotted hText).2.1

/- Without slashes it adds itself. -/
theorem names_of_dotted
    {package text : String}
    (hSlash : '/' ∉ package.toList)
    (hText : text ∈ dotted package) :
    (Path.ofText text).names = [Path.ofText text] := by
  rcases of_mem_dotted hText with ⟨hNe, hDot, hChars⟩
  have hName : Path.IsName text :=
    Path.isName_of_dotless hNe hDot fun hMem =>
      hSlash (hChars _ hMem)
  exact Path.names_of_isName (Path.isName_ofText hName)

theorem sourceDir_eq
    (root : Path)
    (package : String) :
    sourceDir root package =
      ((dotted package).map Path.ofText).foldl Path.join
        (root.join sourceRoot) := by
  rw [sourceDir, packageNames_eq_dotted]

/- Texts that do not start with a slash are joined to a path. -/
theorem isAbsolute_of_mem_map
    {texts : List String}
    (hTexts : ∀ text ∈ texts, text.toList.head? ≠ some '/') :
    ∀ q ∈ texts.map Path.ofText, Path.isAbsolute q = false := by
  intro q hMem
  rcases List.mem_map.mp hMem with ⟨text, hText, rfl⟩
  exact Path.isAbsolute_ofText (hTexts text hText)

/- The names of a package with no slash in front of a text. -/
theorem names_sourceDir
    (root : Path)
    {package : String}
    (hTexts : ∀ text ∈ dotted package, text.toList.head? ≠ some '/') :
    (sourceDir root package).names =
      root.names ++ ["src", "main", "java"] ++
        ((dotted package).map Path.ofText).flatMap Path.names := by
  rw [sourceDir_eq, Path.names_foldl_join (isAbsolute_of_mem_map hTexts),
    Path.names_join root (by decide)]
  congr 2

/- They lead down from the root of the project. -/
theorem beneath_sourceDir
    (root : Path)
    {package : String}
    (hTexts : ∀ text ∈ dotted package, text.toList.head? ≠ some '/') :
    (sourceDir root package).Beneath root := by
  have hDown :
      (sourceDir root package).Descends (root.join sourceRoot) := by
    rw [sourceDir_eq]
    refine Path.Descends.join_all (.refl _) fun q hMem => ?_
    refine ⟨isAbsolute_of_mem_map hTexts q hMem, fun hUp => ?_⟩
    rcases List.mem_map.mp hMem with ⟨text, hText, rfl⟩
    exact (isName_of_dotted hText (List.mem_filter.mp hUp).1).2.2.1 rfl
  refine hDown.beneath (Request.Safe.descends_root root) ?_
  rw [Path.parts_join _ (by decide)]
  simp [show Path.parts sourceRoot = ["src", "main", "java"] from
    by decide]

/- Without slashes, the texts themselves are the names. -/
theorem parts_sourceDir
    (root : Path)
    {package : String}
    (hSlash : '/' ∉ package.toList) :
    (sourceDir root package).parts =
      root.parts ++ ["src", "main", "java"] ++
        (dotted package).map Path.ofText := by
  have hHead :
      ∀ text ∈ dotted package, text.toList.head? ≠ some '/' :=
    fun text hText hFirst =>
      hSlash ((of_mem_dotted hText).2.2 _
        (List.mem_of_mem_head? hFirst))
  have hNames :
      ((dotted package).map Path.ofText).flatMap Path.names =
        (dotted package).map Path.ofText := by
    rw [List.flatMap_map, List.flatMap_congr fun text hText =>
      names_of_dotted hSlash hText, ← List.map_eq_flatMap]
  have hDots :
      ((dotted package).map Path.ofText).filter (fun name => name ≠ ".") =
        (dotted package).map Path.ofText := by
    rw [List.filter_eq_self, List.forall_mem_map]
    intro text hText
    have hMem := List.mem_singleton_self (Path.ofText text)
    rw [← names_of_dotted hSlash hText] at hMem
    simpa using (isName_of_dotted hText hMem).2.1
  rw [Path.parts, names_sourceDir root hHead, hNames,
    List.filter_append, List.filter_append, hDots, Path.parts]
  rfl

/- So they can be told from the directory. -/
theorem dotted_of_parts
    (root : Path)
    {package other : String}
    (hPackage : '/' ∉ package.toList)
    (hOther : '/' ∉ other.toList)
    (hSame :
      (sourceDir root package).parts = (sourceDir root other).parts) :
    dotted package = dotted other := by
  rw [parts_sourceDir root hPackage, parts_sourceDir root hOther,
    List.append_cancel_left_eq] at hSame
  exact List.map_injective_iff.mpr
    (fun _ _ hEq => Octets.ofString_injective hEq) hSame

/-
  The sources of a package lie where its last absolute text says,
  or else in the source directory, with the later texts written
  after it.  In the latter case all names after the source
  directory lead down.  Packages without slashes share their
  directory only if they have the same texts.
-/
theorem sourceDir_of_package
    (root : Path)
    (package : String) :
    (∀ before text after,
      dotted package = before ++ text :: after →
        text.toList.head? = some '/' →
          (∀ later ∈ after, later.toList.head? ≠ some '/') →
            sourceDir root package =
              (Path.ofText text).followedBy (after.map Path.ofText)) ∧
      ((∀ text ∈ dotted package, text.toList.head? ≠ some '/') →
        sourceDir root package =
            (root.join "src/main/java").followedBy
              ((dotted package).map Path.ofText) ∧
          (sourceDir root package).Beneath root ∧
            ∃ names,
              (sourceDir root package).names =
                  root.names ++ ["src", "main", "java"] ++ names ∧
                ∀ name ∈ names, Path.IsName name) ∧
        ('/' ∉ package.toList →
          ∀ other : String, '/' ∉ other.toList →
            (sourceDir root package = sourceDir root other ↔
                dotted package = dotted other) ∧
              ((sourceDir root package).parts =
                  (sourceDir root other).parts ↔
                dotted package = dotted other)) := by
  refine ⟨?_, ?_, ?_⟩
  · intro before text after hSplit hHead hAfter
    have hAbsolute := (Path.isAbsolute_ofText_iff text).mpr hHead
    have hNonempty : Path.ofText text ≠ "" := by
      intro hEmpty
      rw [hEmpty] at hAbsolute
      contradiction
    rw [sourceDir_eq, hSplit, List.map_append, List.map_cons,
      Path.foldl_join_of_absolute hAbsolute,
      Path.foldl_join_eq_followedBy hNonempty
        (isAbsolute_of_mem_map hAfter)]
  · intro hTexts
    have hNames := names_sourceDir root hTexts
    have hWays :
        ∀ name ∈ ((dotted package).map Path.ofText).flatMap Path.names,
          Path.IsName name := by
      simp only [List.mem_flatMap, List.mem_map]
      rintro name ⟨-, ⟨text, hText, rfl⟩, hName⟩
      exact isName_of_dotted hText hName
    have hNonempty : root.join sourceRoot ≠ "" := by
      intro hEmpty
      have hSource := Path.names_join root
        (show Path.isAbsolute sourceRoot = false from by decide)
      rw [hEmpty, Path.names_empty, eq_comm,
        List.append_eq_nil_iff] at hSource
      exact absurd hSource.2 (by decide)
    refine ⟨?_, beneath_sourceDir root hTexts, _, hNames, hWays⟩
    rw [sourceDir_eq, Path.foldl_join_eq_followedBy hNonempty
      (isAbsolute_of_mem_map hTexts)]
    rfl
  · intro hPackage other hOther
    have hBack : dotted package = dotted other →
        sourceDir root package = sourceDir root other := by
      intro hSame
      rw [sourceDir_eq, sourceDir_eq, hSame]
    refine ⟨⟨fun hSame => ?_, hBack⟩,
      ⟨dotted_of_parts root hPackage hOther,
        fun hSame => congrArg Path.parts (hBack hSame)⟩⟩
    exact dotted_of_parts root hPackage hOther
      (congrArg Path.parts hSame)

/- Slashes within a package, and dots that mean nothing. -/
theorem sourceDir_of_package_slashed :
    sourceDir "/w/X" ".a./lib/.b//c..d." = "/lib/b//c/d" ∧
      sourceDir "/w/X" "..com./../" = "/" ∧
        sourceDir "w" "com..b/c." = "w/src/main/java/com/b/c" ∧
          sourceDir "w" "a..b" = sourceDir "w" ".a.b." := by
  refine ⟨?_, ?_, ?_, ?_⟩
  · rw [(sourceDir_of_package "/w/X" ".a./lib/.b//c..d.").1
      ["a"] "/lib/" ["b//c", "d"] (by decide) (by decide) (by decide)]
    decide +kernel
  · rw [(sourceDir_of_package "/w/X" "..com./../").1
      ["com", "/"] "/" [] (by decide) (by decide) (by decide)]
    decide +kernel
  · rw [((sourceDir_of_package "w" "com..b/c.").2.1 (by decide)).1]
    decide +kernel
  · exact ((sourceDir_of_package "w" "a..b").2.2 (by decide) ".a.b."
      (by decide)).1.mpr (by decide)

end Project

end PluginStudio
