import PluginStudio.Proofs.Files.Enclosure
import PluginStudio.Proofs.Text.Utf8
import PluginStudio.Project.Materialize

/-
  The paths of a project's files.

  Key definitions include:
    * `PluginStudio.Request.Named`
    * `PluginStudio.Request.Safe`

  Main declarations:
    * `Project.names_dir`, `Project.isAbsolute_dir`
    * `Project.beneath_of_mem_contents`
    * `Project.endsInName_of_mem_contents`
    * `Request.Safe.sources`, `Request.Safe.sourceFile`

  The name of a plugin is one name in the workspace.  The places
  of its files lie beneath it, except for those that a package or
  a main class can lead astray.
-/

------------------------------------------------------------
-- Written Texts
------------------------------------------------------------

namespace PluginStudio

namespace Path

theorem slash_mem_ofText_iff
    (text : String) :
    '/' ∈ (ofText text).toList ↔ '/' ∈ text.toList :=
  Octets.mem_ofString_iff (by decide) text

/- A name is a name when it is written. -/
theorem isName_ofText
    {text : String}
    (hName : IsName text) :
    IsName (ofText text) := by
  have hNe :
      ∀ {plain : String},
        ofText plain = plain → text ≠ plain →
          ofText text ≠ plain := by
    intro plain hPlain hNe hEq
    rw [← hPlain] at hEq
    exact hNe (Octets.ofString_injective hEq)
  refine ⟨hNe (by decide) hName.1, hNe (by decide) hName.2.1,
    hNe (by decide) hName.2.2.1, ?_⟩
  rw [slash_mem_ofText_iff]
  exact hName.2.2.2

theorem ofText_append
    (s t : String) :
    ofText (s ++ t) = ofText s ++ ofText t := by
  rw [← String.toList_inj]
  simp [ofText, Octets.ofString, Octets.text, Utf8.encode]

/- A written text starts with a slash only if the text does. -/
theorem isAbsolute_ofText
    {text : String}
    (hHead : text.toList.head? ≠ some '/') :
    (ofText text).isAbsolute = false := by
  rw [isAbsolute, decide_eq_false_iff_not]
  cases hList : text.toList with
  | nil =>
      simp [ofText, Octets.ofString, Octets.text, Utf8.encode, hList]
  | cons c cs =>
      rw [hList, List.head?_cons, ne_eq, Option.some.injEq] at hHead
      intro hFirst
      obtain ⟨b, bs, hBytes⟩ :
          ∃ b bs, Utf8.encodeChar c = b :: bs := by
        simp only [Utf8.encodeChar]
        split_ifs <;> exact ⟨_, _, rfl⟩
      simp only [ofText, Octets.ofString, Octets.text, Utf8.encode,
        hList, List.flatMap_cons, String.toList_ofList, hBytes,
        List.map_cons, List.cons_append, List.head?_cons,
        Option.some.injEq] at hFirst
      refine hHead ?_
      exact (Octets.exists_mem_encodeChar_iff (by decide) c).mp
        ⟨b, by simp [hBytes], hFirst⟩

/-
  A path that starts as another does and goes on from there
  without a way up.
-/
def Descends (p root : Path) : Prop :=
  p.isAbsolute = root.isAbsolute ∧
    ∃ rest, p.parts = root.parts ++ rest ∧ ".." ∉ rest

theorem Descends.refl (root : Path) : Descends root root :=
  ⟨rfl, [], by simp, by simp⟩

theorem Descends.join
    {dir root q : Path}
    (hDir : dir.Descends root)
    (hRelative : q.isAbsolute = false)
    (hUp : ".." ∉ q.parts) :
    (dir.join q).Descends root := by
  obtain ⟨hStart, rest, hParts, hRest⟩ := hDir
  refine ⟨by rw [isAbsolute_join dir hRelative, hStart],
    rest ++ q.parts, ?_, by simp [hRest, hUp]⟩
  rw [parts_join dir hRelative, hParts, List.append_assoc]

theorem Descends.trans
    {p q root : Path}
    (hFirst : p.Descends q)
    (hNext : q.Descends root) :
    p.Descends root := by
  obtain ⟨hStart, rest, hParts, hRest⟩ := hFirst
  obtain ⟨hStart', rest', hParts', hRest'⟩ := hNext
  refine ⟨hStart.trans hStart', rest' ++ rest, ?_,
    by simp [hRest, hRest']⟩
  rw [hParts, hParts', List.append_assoc]

/- One way down after another. -/
theorem Descends.join_all
    {dir root : Path}
    {qs : List Path}
    (hDir : dir.Descends root)
    (hAll :
      ∀ q ∈ qs, q.isAbsolute = false ∧ ".." ∉ q.parts) :
    (qs.foldl Path.join dir).Descends root := by
  induction qs generalizing dir with
  | nil => exact hDir
  | cons q qs ih =>
      obtain ⟨hRelative, hUp⟩ := hAll q (by simp)
      exact ih (hDir.join hRelative hUp)
        fun q' hMem => hAll q' (List.mem_cons_of_mem _ hMem)

/- One step further down. -/
theorem Descends.beneath_join
    {dir root q : Path}
    (hDir : dir.Descends root)
    (hRelative : q.isAbsolute = false)
    (hUp : ".." ∉ q.parts)
    (hNe : q.parts ≠ []) :
    (dir.join q).Beneath root := by
  obtain ⟨hStart, rest, hParts, hRest⟩ := hDir
  refine ⟨by rw [isAbsolute_join dir hRelative, hStart],
    rest ++ q.parts, by simp [hNe], ?_, ?_⟩
  · rw [parts_join dir hRelative, hParts, List.append_assoc]
  · exact stays_of_notMem 0 (by simp [hRest, hUp])

/- Further down from another path. -/
theorem Descends.beneath
    {p q root : Path}
    (hFirst : p.Descends q)
    (hNext : q.Descends root)
    (hNe : q.parts ≠ root.parts) :
    p.Beneath root := by
  obtain ⟨hStart, rest, hParts, hRest⟩ := hFirst
  obtain ⟨hStart', rest', hParts', hRest'⟩ := hNext
  refine ⟨hStart.trans hStart', rest' ++ rest, ?_, ?_,
    stays_of_notMem 0 (by simp [hRest, hRest'])⟩
  · intro hNil
    rw [List.append_eq_nil_iff] at hNil
    rw [hNil.1, List.append_nil] at hParts'
    exact hNe hParts'
  · rw [hParts, hParts', List.append_assoc]

theorem Descends.beneath_name
    {dir root : Path}
    (hDir : dir.Descends root)
    {name : String}
    (hName : IsName name) :
    (dir.join name).Beneath root := by
  apply hDir.beneath_join (isAbsolute_of_notMem hName.2.2.2)
  · rw [parts_of_isName hName]
    simpa using Ne.symm hName.2.2.1
  · rw [parts_of_isName hName]
    simp

end Path

end PluginStudio

------------------------------------------------------------
-- Projects
------------------------------------------------------------

namespace PluginStudio

namespace Request

/- Is the plugin's name one name that a path can write? -/
def Named (request : Request) : Prop :=
  Path.IsName request.pluginName ∧
    '\x00' ∉ request.pluginName.toList

instance (request : Request) : Decidable request.Named :=
  inferInstanceAs (Decidable (_ ∧ _))

/-
  A named request whose package and main class write no path
  of their own.
-/
structure Safe (request : Request) : Prop where
  named : request.Named
  package :
    ∀ name ∈ Project.packageNames request.packageName,
      name.toList.head? ≠ some '/'
  main : '/' ∉ request.mainClass.toList

end Request

namespace Project

variable (workspace : Path) {request : Request}

/- The project's name in the workspace. -/
def entryName (request : Request) : String :=
  Path.ofText request.pluginName

theorem isName_entryName
    (hNamed : request.Named) :
    Path.IsName (entryName request) :=
  Path.isName_ofText hNamed.1

theorem names_dir
    (hNamed : request.Named) :
    (dir workspace request).names =
      workspace.names ++ [entryName request] := by
  have hName := isName_entryName hNamed
  rw [dir, ← entryName, Path.names_join _
    (Path.isAbsolute_of_notMem hName.2.2.2),
    Path.names_of_isName hName]

theorem parts_dir
    (hNamed : request.Named) :
    (dir workspace request).parts =
      workspace.parts ++ [entryName request] := by
  have hName := isName_entryName hNamed
  rw [dir, ← entryName, Path.parts_join _
    (Path.isAbsolute_of_notMem hName.2.2.2),
    Path.parts_of_isName hName]

theorem isAbsolute_dir
    (hNamed : request.Named) :
    (dir workspace request).isAbsolute = workspace.isAbsolute :=
  Path.isAbsolute_join _
    (Path.isAbsolute_of_notMem (isName_entryName hNamed).2.2.2)

theorem endsInName_dir
    (hNamed : request.Named) :
    (dir workspace request).EndsInName :=
  Path.endsInName_join workspace (isName_entryName hNamed)

end Project

end PluginStudio

------------------------------------------------------------
-- Files Of A Project
------------------------------------------------------------

namespace PluginStudio

namespace Project

variable (workspace : Path) (request : Request)

theorem root_eq :
    (tree workspace request).root = dir workspace request := by
  simp only [tree]

theorem resources_eq :
    (tree workspace request).resources =
      (tree workspace request).root.join resourceRoot := by
  simp only [tree]

theorem sources_eq :
    (tree workspace request).sources =
      ((packageNames request.packageName).map Path.ofText).foldl
        Path.join ((tree workspace request).root.join sourceRoot) := by
  simp only [tree, sourceDir]

theorem manifest_eq :
    (tree workspace request).manifest =
      (tree workspace request).root.join manifestFile := by
  simp only [tree]

theorem metadata_eq :
    (tree workspace request).metadata =
      (tree workspace request).resources.join metadataFile := by
  simp only [tree]

theorem config_eq
    {p : Path}
    (hConfig : (tree workspace request).config? = some p) :
    p = (tree workspace request).resources.join configFile := by
  simp only [tree, Option.map_eq_some_iff] at hConfig ⊢
  obtain ⟨text, -, hEq⟩ := hConfig
  exact hEq.symm

/- A project has a configuration if its request gives one. -/
theorem config?_eq :
    (tree workspace request).config? =
      if request.configYml = "" then
        none
      else
        some ((tree workspace request).resources.join "config.yml") := by
  by_cases hEmpty : request.configYml = ""
  · simp [tree, Request.override?, Request.get, hEmpty]
  · simp [tree, Request.override?, Request.get, hEmpty, configFile]

theorem descends_resources :
    (tree workspace request).resources.Descends
      (tree workspace request).root := by
  rw [resources_eq]
  exact Path.Descends.join (Path.Descends.refl _)
    (by decide) (by decide)

theorem beneath_resources :
    (tree workspace request).resources.Beneath
      (tree workspace request).root := by
  rw [resources_eq]
  exact Path.Descends.beneath_join (Path.Descends.refl _)
    (by decide) (by decide) (by decide)

/- A descriptor is what the request gives, or is rendered. -/
theorem text_eq
    (descriptor : Descriptor) :
    descriptor.text request =
      if request.get descriptor.field = "" then
        descriptor.render request
      else
        request.get descriptor.field := by
  rw [Descriptor.text, Request.override?]
  split_ifs <;> rfl

/-
  A file of a project is the one of the main class, or has a
  fixed name at the root or among the resources.
-/
theorem path_of_mem_contents
    {file : Path × String}
    (hFile : file ∈ contents (tree workspace request) request) :
    file.1 = (tree workspace request).sourceFile ∨
      ∃ (dir : Path) (name : String),
        dir.Descends (tree workspace request).root ∧
          Path.IsName name ∧ file.1 = dir.join name := by
  have hRoot := Path.Descends.refl (tree workspace request).root
  have hResources := descends_resources workspace request
  simp only [contents, List.mem_append, List.mem_cons,
    List.not_mem_nil, or_false, List.mem_map,
    Option.mem_toList] at hFile
  rcases hFile with ((rfl | rfl) | ⟨p, hConfig, rfl⟩) | rfl
  · refine Or.inr ⟨_, manifestFile, hRoot, by decide, ?_⟩
    simp only [manifest_eq]
  · refine Or.inr ⟨_, metadataFile, hResources, by decide, ?_⟩
    simp only [metadata_eq]
  · refine Or.inr ⟨_, configFile, hResources, by decide, ?_⟩
    exact config_eq workspace request hConfig
  · left
    simp only

/- All files lie beneath the root if that of the main class does. -/
theorem beneath_of_mem_contents
    (hSource :
      (tree workspace request).sourceFile.Beneath
        (tree workspace request).root)
    {file : Path × String}
    (hFile : file ∈ contents (tree workspace request) request) :
    file.1.Beneath (tree workspace request).root := by
  rcases path_of_mem_contents workspace request hFile with
    hEq | ⟨dir, name, hDir, hName, hEq⟩
  · rw [hEq]
    exact hSource
  · rw [hEq]
    exact hDir.beneath_name hName

theorem sourceFile_eq :
    (tree workspace request).sourceFile =
      (tree workspace request).sources.join
        (Path.ofText request.mainClass ++ ".java") := by
  have hText :
      Path.ofText (request.mainClass ++ "." ++ sourceExtension) =
        Path.ofText request.mainClass ++ ".java" := by
    rw [String.append_assoc, Path.ofText_append]
    congr 1
  simp only [tree, hText]

/- Whatever the main class is, its file keeps the extension. -/
theorem exists_sourceFile :
    ∃ p : Path,
      (tree workspace request).sourceFile = p ++ ".java" := by
  rw [sourceFile_eq, Path.join]
  split_ifs
  · exact ⟨_, rfl⟩
  · exact ⟨_, (String.append_assoc ..).symm⟩
  · exact ⟨_, (String.append_assoc ..).symm⟩

theorem endsInName_sourceFile :
    (tree workspace request).sourceFile.EndsInName := by
  obtain ⟨p, hEq⟩ := exists_sourceFile workspace request
  rw [hEq]
  exact Path.endsInName_append p (by decide) (by decide)

/- Every file of a project has a name. -/
theorem endsInName_of_mem_contents
    {file : Path × String}
    (hFile : file ∈ contents (tree workspace request) request) :
    file.1.EndsInName := by
  rcases path_of_mem_contents workspace request hFile with
    hEq | ⟨dir, name, -, hName, hEq⟩
  · rw [hEq]
    exact endsInName_sourceFile workspace request
  · rw [hEq]
    exact Path.endsInName_join dir hName

end Project

namespace Request

open Project

variable {request : Request}

/- No name of a package is a way up. -/
theorem up_notMem_parts_of_mem_packageNames
    {package name : String}
    (hMem : name ∈ packageNames package) :
    ".." ∉ (Path.ofText name).parts := by
  simp only [packageNames, List.mem_filter, List.mem_map] at hMem
  obtain ⟨⟨cs, hCs, rfl⟩, -⟩ := hMem
  have hDot : '.' ∉ (Path.ofText (String.ofList cs)).toList := by
    rw [Path.ofText, Octets.mem_ofString_iff (by decide)]
    simpa using Path.notMem_of_mem_splitOn hCs
  intro hUp
  rw [Path.parts_eq_filter_segments, List.mem_filter, Path.segments,
    List.mem_map] at hUp
  obtain ⟨⟨part, hPart, hEq⟩, -⟩ := hUp
  refine hDot (Path.mem_of_mem_splitOn hPart ?_)
  have hList := congrArg String.toList hEq
  rw [String.toList_ofList] at hList
  rw [hList]
  decide

namespace Safe

theorem descends_sources
    (hSafe : request.Safe)
    (workspace : Path) :
    (tree workspace request).sources.Descends
      ((tree workspace request).root.join sourceRoot) := by
  rw [sources_eq]
  refine Path.Descends.join_all (.refl _) ?_
  intro q hMem
  obtain ⟨name, hName, rfl⟩ := List.mem_map.mp hMem
  exact ⟨Path.isAbsolute_ofText (hSafe.package name hName),
    up_notMem_parts_of_mem_packageNames hName⟩

theorem descends_root
    (root : Path) :
    (root.join sourceRoot).Descends root :=
  (Path.Descends.refl root).join (by decide) (by decide)

/- The sources of a safe request lie beneath its directory. -/
theorem sources
    (hSafe : request.Safe)
    (workspace : Path) :
    (tree workspace request).sources.Beneath
      (tree workspace request).root := by
  refine (hSafe.descends_sources workspace).beneath
    (descends_root _) ?_
  rw [Path.parts_join _ (by decide)]
  simp [show Path.parts sourceRoot = ["src", "main", "java"] from
    by decide]

/- The file of the main class has a name of its own. -/
theorem isName_main
    (hSafe : request.Safe) :
    Path.IsName (Path.ofText request.mainClass ++ ".java") := by
  have hSlash : '/' ∉ (Path.ofText request.mainClass).toList := by
    rw [Path.slash_mem_ofText_iff]
    exact hSafe.main
  apply Path.isName_of_length
  · have : ".java".length = 5 := by decide
    rw [String.length_append]
    omega
  · simp [hSlash]

/- It lies beneath the project's directory as well. -/
theorem sourceFile
    (hSafe : request.Safe)
    (workspace : Path) :
    (tree workspace request).sourceFile.Beneath
      (tree workspace request).root := by
  rw [sourceFile_eq]
  exact ((hSafe.descends_sources workspace).trans
    (descends_root _)).beneath_name hSafe.isName_main

end Safe

end Request

end PluginStudio
