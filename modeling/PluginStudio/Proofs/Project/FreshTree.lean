import PluginStudio.Proofs.Build.Outcome
import PluginStudio.Proofs.Files.Placement

/-
  What a project consists of when it has been laid out.

  Key definitions include:
    * `PluginStudio.Project.sourceNames`
    * `PluginStudio.Project.Laid`
    * `PluginStudio.Project.inventory`
    * `PluginStudio.Project.Complete`

  Main declarations:
    * `Project.dirs_onward`, `Project.writes_onward`
    * `Project.laid_of_furnish`, `Project.furnish_again`
    * `Project.materialize_exact`
    * `Project.materialize_keeps_stale`

  A project is made in an empty directory, so its request tells
  all that is in it.  What was in the way of an earlier project is
  removed, so to lay it out again gives the same.
-/

------------------------------------------------------------
-- Several Directories And Files
------------------------------------------------------------

namespace PluginStudio

namespace Project

open FileSystem

variable {root : Path} {place : Place} {contents : FileSystem}

/- Directories with the places they belong at. -/
theorem dirs_onward
    {items : List (Place × Path)}
    (hOnward :
      ∀ item ∈ items, item.1 ≠ [] ∧ item.2.Onward root item.1)
    (hPlain : contents.Plain)
    {world after : World}
    (hHolds : world.files.Holds world.dir root place contents)
    (hOk :
      (items.map Prod.snd).forM createDir world = (.ok (), after)) :
    after.dir = world.dir ∧
      ∃ contents',
        contents'.Plain ∧
          after.files.Holds world.dir root place contents' ∧
            ∀ q,
              contents'.node? q =
                (contents.node? q).or
                  (if ∃ item ∈ items, q <+: item.1 then
                    some (.directory dirMode)
                  else
                    none) := by
  induction items generalizing contents world with
  | nil =>
      cases hOk
      exact ⟨rfl, contents, hPlain, hHolds, by simp⟩
  | cons item items ih =>
      rcases List.forall_mem_cons.mp hOnward with
        ⟨⟨hNe, hItem⟩, hOnward⟩
      change (createDir item.2 >>= fun _ =>
        (items.map Prod.snd).forM createDir) world = _ at hOk
      rw [Studio.except_bind_apply, createDir_apply] at hOk
      rcases hMade : world.files.makeDirs world.dir item.2 with
        ⟨fault | _, files⟩
      · rw [hMade] at hOk
        cases hOk
      rw [hMade] at hOk
      obtain ⟨contents', hPlain', hHolds', hNodes⟩ :=
        hHolds.makeDirs_onward hPlain hItem hNe hMade
      obtain ⟨hDir, contents'', hPlain'', hAfter, hNodes'⟩ :=
        ih hOnward hPlain' hHolds' hOk
      refine ⟨hDir, contents'', hPlain'', hAfter, fun q => ?_⟩
      rw [hNodes', hNodes, Option.or_assoc]
      congr 1
      by_cases hQ : q <+: item.1
      · have hSome : ∃ other ∈ item :: items, q <+: other.1 :=
          ⟨item, by simp, hQ⟩
        rw [if_pos hQ, if_pos hSome, Option.some_or]
      · rw [if_neg hQ, Option.none_or]
        exact if_congr (by simp [hQ]) rfl rfl

/- A file at a free place beneath a directory. -/
private theorem writeFile_onward
    {p : Path}
    {rest : Place}
    (hNe : rest ≠ [])
    (hOnward : p.Onward root rest)
    (hEnds : p.EndsInName)
    (hFree : contents.node? rest = none)
    (hPlain : contents.Plain)
    {text : String}
    {world after : World}
    (hHolds : world.files.Holds world.dir root place contents)
    (hOk : writeFile p text world = (.ok (), after)) :
    after.dir = world.dir ∧
      after.files.Holds world.dir root place
          (contents.put rest (.file fileMode (Utf8.encode text))) ∧
        after.files.Keeps world.files ∧
          after.files.stat world.dir true p =
            .ok (place ++ rest,
              .file fileMode (Utf8.encode text)) := by
  rw [writeFile_apply] at hOk
  cases hWrite :
      world.files.write world.dir p (Utf8.encode text) with
  | error fault =>
      rw [hWrite] at hOk
      cases hOk
  | ok files =>
      rw [hWrite] at hOk
      cases hOk
      rcases List.eq_nil_or_concat rest with
        rfl | ⟨init, name, rfl⟩
      · contradiction
      rw [List.concat_eq_append] at hOnward hFree ⊢
      exact ⟨rfl,
        hHolds.write_onward hPlain hOnward hEnds hFree hWrite⟩

/-
  Files with the places they belong at.  If all of these are free
  and none is used twice, writing the files puts each of them
  there and nothing else.
-/
theorem writes_onward
    {items : List (Place × Path × String)}
    (hOnward :
      ∀ item ∈ items,
        item.1 ≠ [] ∧
          item.2.1.Onward root item.1 ∧ item.2.1.EndsInName)
    (hDistinct : (items.map Prod.fst).Nodup)
    (hFree : ∀ item ∈ items, contents.node? item.1 = none)
    (hPlain : contents.Plain)
    {world after : World}
    (hHolds : world.files.Holds world.dir root place contents)
    (hOk :
      ((items.map Prod.snd).forM fun file =>
        writeFile file.1 file.2) world = (.ok (), after)) :
    after.dir = world.dir ∧
      ∃ contents',
        after.files.Holds world.dir root place contents' ∧
          after.files.Keeps world.files ∧
            (∀ q node,
              contents'.node? q = some node ↔
                contents.node? q = some node ∨
                  ∃ item ∈ items,
                    q = item.1 ∧
                      node =
                        .file fileMode (Utf8.encode item.2.2)) ∧
              ∀ item ∈ items,
                after.files.stat world.dir true item.2.1 =
                  .ok (place ++ item.1,
                    .file fileMode (Utf8.encode item.2.2)) := by
  induction items generalizing contents world with
  | nil =>
      cases hOk
      exact ⟨rfl, contents, hHolds, .refl _, by simp, by simp⟩
  | cons item items ih =>
      rcases List.forall_mem_cons.mp hOnward with
        ⟨⟨hNe, hItem, hEnds⟩, hOnward⟩
      rcases List.forall_mem_cons.mp hFree with ⟨hFirst, hFree⟩
      rw [List.map_cons, List.nodup_cons] at hDistinct
      change (writeFile item.2.1 item.2.2 >>= fun _ =>
        (items.map Prod.snd).forM fun file =>
          writeFile file.1 file.2) world = _ at hOk
      rw [Studio.except_bind_apply] at hOk
      rcases hWrite : writeFile item.2.1 item.2.2 world with
        ⟨failure | _, made⟩
      · rw [hWrite] at hOk
        cases hOk
      rw [hWrite] at hOk
      obtain ⟨hDir, hMade, hKeeps, hStat⟩ :=
        writeFile_onward hNe hItem hEnds hFirst hPlain hHolds hWrite
      have hOther :
          ∀ other ∈ items, other.1 ≠ item.1 := by
        intro other hMem hEq
        exact hDistinct.1 (hEq ▸ List.mem_map_of_mem hMem)
      have hPlain' :
          (contents.put item.1
            (.file fileMode (Utf8.encode item.2.2))).Plain :=
        hPlain.put hNe (by simp)
      obtain ⟨hDir', contents', hAfter, hKeeps', hNodes, hStats⟩ :=
        ih hOnward hDistinct.2
          (fun other hMem => by
            rw [node?_put _ hNe, if_neg (hOther other hMem)]
            exact hFree other hMem)
          hPlain' (by rwa [hDir]) hOk
      rw [hDir] at hDir' hAfter hStats
      have hNodes' :
          ∀ q node,
            contents'.node? q = some node ↔
              contents.node? q = some node ∨
                ∃ other ∈ item :: items,
                  q = other.1 ∧
                    node =
                      .file fileMode (Utf8.encode other.2.2) := by
        intro q node
        rw [hNodes, node?_put _ hNe]
        by_cases hQ : q = item.1
        · -- The place was free, and no other file belongs there.
          rw [if_pos hQ, hQ, hFirst, Option.some.injEq]
          constructor
          · rintro (rfl | ⟨other, hMem, hEq, -⟩)
            · exact .inr ⟨item, by simp, rfl, rfl⟩
            · exact absurd hEq.symm (hOther other hMem)
          · rintro (hNone | ⟨other, hMem, hEq, rfl⟩)
            · contradiction
            · rcases List.mem_cons.mp hMem with rfl | hMem
              · exact .inl rfl
              · exact absurd hEq.symm (hOther other hMem)
        · simp [hQ]
      refine ⟨hDir', contents', hAfter, hKeeps'.trans hKeeps, hNodes',
        List.forall_mem_cons.mpr ⟨?_, hStats⟩⟩
      refine stat_of_keeps hKeeps' ?_ hStat
      rw [hAfter.node?]
      exact (hNodes' _ _).mpr (.inr ⟨item, by simp, rfl, rfl⟩)

end Project

end PluginStudio

------------------------------------------------------------
-- The Whole Project
------------------------------------------------------------

namespace PluginStudio

namespace Project

open FileSystem

/- The names on the way from a project to its sources. -/
def sourceNames (request : Request) : List String :=
  ["src", "main", "java"] ++
    (packageNames request.packageName).flatMap fun name =>
      (Path.ofText name).parts

/- The name of the file of the main class. -/
def mainName (request : Request) : String :=
  Path.ofText request.mainClass ++ ".java"

/- All that is in a project, as seen from its directory. -/
inductive Laid (request : Request) : Place → Node → Prop where
  | sources
      {q : Place}
      (hNe : q ≠ [])
      (hWay : q <+: sourceNames request) :
      Laid request q (.directory dirMode)
  | resources
      {q : Place}
      (hNe : q ≠ [])
      (hWay : q <+: ["src", "main", "resources"]) :
      Laid request q (.directory dirMode)
  | manifest :
      Laid request ["pom.xml"]
        (.file fileMode (Utf8.encode
          (if request.pomXml = "" then
            Descriptor.manifest.render request
          else
            request.pomXml)))
  | metadata :
      Laid request ["src", "main", "resources", "plugin.yml"]
        (.file fileMode (Utf8.encode
          (if request.pluginYml = "" then
            Descriptor.metadata.render request
          else
            request.pluginYml)))
  | config
      (hGiven : request.configYml ≠ "") :
      Laid request ["src", "main", "resources", "config.yml"]
        (.file fileMode (Utf8.encode request.configYml))
  | main :
      Laid request (sourceNames request ++ [mainName request])
        (.file fileMode (Utf8.encode request.javaCode))

/- The directories of a project with their places. -/
def outline
    (workspace : Path)
    (request : Request) : List (Place × Path) :=
  [(sourceNames request, (tree workspace request).sources),
    (["src", "main", "resources"], (tree workspace request).resources)]

/- The files of a project with their places and texts. -/
def inventory
    (workspace : Path)
    (request : Request) : List (Place × Path × String) :=
  [(["pom.xml"], (tree workspace request).manifest,
        Descriptor.manifest.text request),
      (["src", "main", "resources", "plugin.yml"],
        (tree workspace request).metadata,
        Descriptor.metadata.text request)] ++
    ((tree workspace request).config?.toList.map fun p =>
      (["src", "main", "resources", "config.yml"], p,
        request.configYml)) ++
    [(sourceNames request ++ [mainName request],
      (tree workspace request).sourceFile, request.javaCode)]

theorem dirs_eq_outline
    (workspace : Path)
    (request : Request) :
    [(tree workspace request).sources,
        (tree workspace request).resources] =
      (outline workspace request).map Prod.snd := by
  simp only [outline, List.map_cons, List.map_nil]

theorem contents_eq_inventory
    (workspace : Path)
    (request : Request) :
    contents (tree workspace request) request =
      (inventory workspace request).map Prod.snd := by
  simp [contents, inventory]

theorem mem_inventory_iff
    {workspace : Path}
    {request : Request}
    {item : Place × Path × String} :
    item ∈ inventory workspace request ↔
      item =
          (["pom.xml"], (tree workspace request).manifest,
            Descriptor.manifest.text request) ∨
        item =
            (["src", "main", "resources", "plugin.yml"],
              (tree workspace request).metadata,
              Descriptor.metadata.text request) ∨
          (request.configYml ≠ "" ∧
              item =
                (["src", "main", "resources", "config.yml"],
                  (tree workspace request).resources.join "config.yml",
                  request.configYml)) ∨
            item =
              (sourceNames request ++ [mainName request],
                (tree workspace request).sourceFile,
                request.javaCode) := by
  rw [inventory, config?_eq]
  by_cases hEmpty : request.configYml = ""
  · simp [hEmpty]
  · simp [hEmpty]

variable {request : Request}

/- The paths of a safe request go on from its directory. -/
theorem onward_sources
    (workspace : Path)
    (hSafe : request.Safe) :
    (tree workspace request).sources.Onward
      (tree workspace request).root (sourceNames request) := by
  have hJava :
      ((tree workspace request).root.join sourceRoot).Onward
        (tree workspace request).root ["src", "main", "java"] :=
    (Path.Onward.refl _).join (by decide) (by decide)
  have hPackage :
      ∀ q ∈ (packageNames request.packageName).map Path.ofText,
        q.isAbsolute = false ∧ ".." ∉ q.parts := by
    intro q hMem
    obtain ⟨name, hName, rfl⟩ := List.mem_map.mp hMem
    exact ⟨Path.isAbsolute_ofText (hSafe.package name hName),
      Request.up_notMem_parts_of_mem_packageNames hName⟩
  have hAll := hJava.join_all hPackage
  rw [List.flatMap_map, ← sources_eq] at hAll
  exact hAll

theorem onward_resources
    (workspace : Path)
    (request : Request) :
    (tree workspace request).resources.Onward
      (tree workspace request).root ["src", "main", "resources"] := by
  rw [resources_eq]
  exact (Path.Onward.refl _).join (by decide) (by decide)

theorem onward_of_mem_inventory
    (workspace : Path)
    (hSafe : request.Safe)
    {item : Place × Path × String}
    (hMem : item ∈ inventory workspace request) :
    item.1 ≠ [] ∧
      item.2.1.Onward (tree workspace request).root item.1 ∧
        item.2.1.EndsInName := by
  have hResources := onward_resources workspace request
  rcases mem_inventory_iff.mp hMem with
    rfl | rfl | ⟨-, rfl⟩ | rfl
  · simp only [manifest_eq]
    exact ⟨by simp, (Path.Onward.refl _).join_name (by decide),
      Path.endsInName_join _ (by decide)⟩
  · simp only [metadata_eq]
    exact ⟨by simp, hResources.join_name (by decide),
      Path.endsInName_join _ (by decide)⟩
  · dsimp only
    exact ⟨by simp, hResources.join_name (by decide),
      Path.endsInName_join _ (by decide)⟩
  · simp only [sourceFile_eq]
    exact ⟨by simp,
      (onward_sources workspace hSafe).join_name hSafe.isName_main,
      Path.endsInName_join _ hSafe.isName_main⟩

theorem onward_of_mem_outline
    (workspace : Path)
    (hSafe : request.Safe)
    {item : Place × Path}
    (hMem : item ∈ outline workspace request) :
    item.1 ≠ [] ∧
      item.2.Onward (tree workspace request).root item.1 := by
  simp only [outline, List.mem_cons, List.not_mem_nil,
    or_false] at hMem
  rcases hMem with rfl | rfl
  · dsimp only
    exact ⟨by simp [sourceNames], onward_sources workspace hSafe⟩
  · dsimp only
    exact ⟨by simp, onward_resources workspace request⟩

/- No file belongs where a directory does. -/
theorem not_prefix_of_mem_inventory
    {workspace : Path}
    {item : Place × Path × String}
    (hMem : item ∈ inventory workspace request) :
    ¬ item.1 <+: sourceNames request ∧
      ¬ item.1 <+: ["src", "main", "resources"] := by
  rcases mem_inventory_iff.mp hMem with
    rfl | rfl | ⟨-, rfl⟩ | rfl
  · simp [sourceNames]
  · simp [sourceNames]
  · simp [sourceNames]
  · refine ⟨fun hPrefix => ?_, by simp [sourceNames]⟩
    have hLength := hPrefix.length_le
    simp only [List.length_append, List.length_singleton] at hLength
    omega

/- No two files belong at one place. -/
theorem nodup_inventory
    (workspace : Path)
    (request : Request) :
    ((inventory workspace request).map Prod.fst).Nodup := by
  simp only [inventory, config?_eq]
  split_ifs
  · simp [sourceNames]
  · simp [sourceNames]

/- The entries of a project are its directories and its files. -/
theorem laid_iff
    (workspace : Path)
    (request : Request)
    (q : Place)
    (node : Node) :
    Laid request q node ↔
      (q ≠ [] ∧
          (q <+: sourceNames request ∨
            q <+: ["src", "main", "resources"]) ∧
          node = .directory dirMode) ∨
        ∃ item ∈ inventory workspace request,
          q = item.1 ∧
            node = .file fileMode (Utf8.encode item.2.2) := by
  constructor
  · intro hLaid
    cases hLaid with
    | sources hNe hWay => exact .inl ⟨hNe, .inl hWay, rfl⟩
    | resources hNe hWay => exact .inl ⟨hNe, .inr hWay, rfl⟩
    | manifest =>
        exact .inr ⟨_, mem_inventory_iff.mpr (.inl rfl), rfl,
          by rw [text_eq]; rfl⟩
    | metadata =>
        exact .inr ⟨_, mem_inventory_iff.mpr (.inr (.inl rfl)), rfl,
          by rw [text_eq]; rfl⟩
    | config hGiven =>
        exact .inr ⟨_,
          mem_inventory_iff.mpr (.inr (.inr (.inl ⟨hGiven, rfl⟩))),
          rfl, rfl⟩
    | main =>
        exact .inr ⟨_,
          mem_inventory_iff.mpr (.inr (.inr (.inr rfl))), rfl, rfl⟩
  · rintro (⟨hNe, hWay | hWay, rfl⟩ | ⟨item, hMem, rfl, rfl⟩)
    · exact .sources hNe hWay
    · exact .resources hNe hWay
    rcases mem_inventory_iff.mp hMem with
      rfl | rfl | ⟨hGiven, rfl⟩ | rfl
    · rw [text_eq]
      exact .manifest
    · rw [text_eq]
      exact .metadata
    · exact .config hGiven
    · exact .main

/-
  Where a project is furnished in an empty directory, its request
  tells all that is in there, and its paths lead to its files.
-/
theorem laid_of_furnish
    {workspace : Path}
    (hSafe : request.Safe)
    {world after : World}
    {place : Place}
    (hHolds :
      world.files.Holds world.dir (dir workspace request) place empty)
    (hOk :
      furnish (tree workspace request) request world =
        (.ok (), after)) :
    (∀ q node,
      q ≠ [] →
        (after.files.node? (place ++ q) = some node ↔
          Laid request q node)) ∧
      ∀ item ∈ inventory workspace request,
        after.files.stat world.dir true item.2.1 =
          .ok (place ++ item.1,
            .file fileMode (Utf8.encode item.2.2)) := by
  rw [← root_eq] at hHolds
  rw [furnish, dirs_eq_outline, contents_eq_inventory,
    Studio.except_bind_apply] at hOk
  rcases hMade :
      ((outline workspace request).map Prod.snd).forM createDir
        world with
    ⟨failure | _, made⟩
  · rw [hMade] at hOk
    cases hOk
  rw [hMade] at hOk
  obtain ⟨hDir, contents, hPlain, hHolds', hNodes⟩ :=
    dirs_onward
      (fun _ => onward_of_mem_outline workspace hSafe)
      plain_empty hHolds hMade
  have hDirs :
      ∀ q node,
        q ≠ [] →
          (contents.node? q = some node ↔
            (q <+: sourceNames request ∨
                q <+: ["src", "main", "resources"]) ∧
              node = .directory dirMode) := by
    intro q node hNe
    have hEmpty : empty.node? q = none := by
      rw [node?_of_ne_nil _ hNe]
      rfl
    rw [hNodes, hEmpty, Option.none_or]
    by_cases hWay :
        q <+: sourceNames request ∨ q <+: ["src", "main", "resources"]
    · rw [if_pos (by simpa [outline] using hWay), Option.some.injEq]
      exact ⟨fun hEq => ⟨hWay, hEq.symm⟩, fun h => h.2.symm⟩
    · rw [if_neg (by simpa [outline] using hWay)]
      simp [hWay]
  have hFree :
      ∀ item ∈ inventory workspace request,
        contents.node? item.1 = none := by
    intro item hMem
    rw [Option.eq_none_iff_forall_ne_some]
    intro node hNode
    have hNe := (onward_of_mem_inventory workspace hSafe hMem).1
    have hNot := not_prefix_of_mem_inventory hMem
    rcases ((hDirs _ _ hNe).mp hNode).1 with hWay | hWay
    · exact hNot.1 hWay
    · exact hNot.2 hWay
  obtain ⟨-, contents', hAfter, -, hNodes', hStats⟩ :=
    writes_onward
      (fun _ => onward_of_mem_inventory workspace hSafe)
      (nodup_inventory workspace request) hFree hPlain
      (by rwa [hDir]) hOk
  rw [hDir] at hAfter hStats
  refine ⟨fun q node hNe => ?_, hStats⟩
  rw [hAfter.node?, hNodes', laid_iff workspace, hDirs q node hNe]
  simp [hNe]

end Project

end PluginStudio

------------------------------------------------------------
-- Laying Out Once And Again
------------------------------------------------------------

namespace PluginStudio

namespace Project

open FileSystem

variable {workspace : Path} {request : Request}
variable {start place : Place} {contents clear files left : FileSystem}

/- A path names a file at a place. -/
def NamesFile
    (fs : FileSystem)
    (start : Place)
    (p : Path)
    (place : Place) : Prop :=
  ∃ mode content,
    fs.stat start true p = .ok (place, .file mode content)

/-
  A tree whose root is a directory with all that its request asks
  for and nothing else in it, and whose paths name the files.
-/
structure Complete
    (request : Request)
    (tree : Tree)
    (fs : FileSystem)
    (start : Place)
    (place : Place) : Prop where
  root :
    ∃ mode, fs.stat start true tree.root = .ok (place, .directory mode)
  entries :
    ∀ q node,
      q ≠ [] →
        (fs.node? (place ++ q) = some node ↔ Laid request q node)
  manifest : NamesFile fs start tree.manifest (place ++ ["pom.xml"])
  metadata :
    NamesFile fs start tree.metadata
      (place ++ ["src", "main", "resources", "plugin.yml"])
  configured : tree.config? = none ↔ request.configYml = ""
  config :
    ∀ p, tree.config? = some p →
      NamesFile fs start p
        (place ++ ["src", "main", "resources", "config.yml"])
  sourceFile :
    NamesFile fs start tree.sourceFile
      (place ++ (sourceNames request ++ [mainName request]))

/- A project that is furnished from nothing is complete. -/
theorem complete_of_furnish
    (hSafe : request.Safe)
    {world after : World}
    (hSite :
      Site workspace request empty world.files world.dir clear place)
    (hOk :
      furnish (tree workspace request) request world =
        (.ok (), after)) :
    after.dir = world.dir ∧
      Complete request (tree workspace request) after.files after.dir
        (place ++ [entryName request]) := by
  obtain ⟨result, contents, hRun⟩ := site_furnish workspace hSafe
  obtain ⟨-, hDir, hAfter⟩ := hRun world clear place hSite
  rw [hOk] at hDir hAfter
  obtain ⟨hEntries, hStats⟩ := laid_of_furnish hSafe hSite.holds hOk
  have hFile :
      ∀ {q : Place} {p : Path} {text : String},
        (q, p, text) ∈ inventory workspace request →
          NamesFile after.files after.dir p
            (place ++ [entryName request] ++ q) := by
    intro q p text hMem
    rw [hDir]
    exact ⟨fileMode, Utf8.encode text, hStats (q, p, text) hMem⟩
  have hConfig := config?_eq workspace request
  refine ⟨hDir, ?_, hEntries,
    hFile (mem_inventory_iff.mpr (.inl rfl)),
    hFile (mem_inventory_iff.mpr (.inr (.inl rfl))), ?_, ?_,
    hFile (mem_inventory_iff.mpr (.inr (.inr (.inr rfl))))⟩
  · rw [root_eq, hDir]
    exact (stat_directory_iff hAfter.check _).mpr hAfter.holds.reach
  · rw [hConfig]
    by_cases hEmpty : request.configYml = "" <;> simp [hEmpty]
  · intro p hSome
    rw [hConfig] at hSome
    split_ifs at hSome with hGiven
    rw [← Option.some.inj hSome]
    exact hFile
      (mem_inventory_iff.mpr (.inr (.inr (.inl ⟨hGiven, rfl⟩))))

/- A project is cleared away before it is laid out again. -/
theorem Site.node?_cleared
    (hSite :
      Site workspace request contents files start clear place)
    (hNamed : request.Named)
    (hLeft :
      ∀ q, q.below (place ++ [entryName request]) = false →
        left.node? q = files.node? q)
    (millis : Nat)
    (q : Place) :
    (cleared left start (dir workspace request) millis).node? q =
      clear.node? q := by
  have hHere := hSite.occupied hNamed hLeft
  have hExists :
      left.pathExists start (dir workspace request) = true := by
    rw [pathExists,
      hHere.entry.stat (endsInName_dir workspace hNamed).1
        (.inr fun target => by
          rw [hHere.node]
          simp),
      if_neg (Nat.not_lt.mpr hHere.long), hHere.node]
    rfl
  obtain ⟨hOk, hNodes⟩ := hSite.removeTree hNamed hLeft
  rw [cleared, if_pos hExists]
  rcases hRemoved : left.removeTree start (dir workspace request) with
    ⟨fault | _, removed⟩
  · rw [hRemoved] at hOk
    exact absurd hOk (by simp)
  · rw [hRemoved] at hNodes
    exact hNodes q

/-
  Where a project was furnished, it is laid out again, whatever
  has been done in it.
-/
theorem furnish_again
    (hSafe : request.Safe)
    (hSite :
      Site workspace request contents files start clear place)
    {later : World}
    (hLater : later.files.WellFormed)
    (hDir : later.dir = start)
    (hLeft :
      ∀ q, q.below (place ++ [entryName request]) = false →
        later.files.node? q = files.node? q) :
    ∃ clear' made,
      Site workspace request empty made.files made.dir clear' place ∧
        made.dir = later.dir ∧
          layOut (tree workspace request) request
              (reconcile .standard (dir workspace request) later).2 =
            furnish (tree workspace request) request made := by
  have hNamed := hSafe.named
  have hEnds := endsInName_dir workspace hNamed
  obtain ⟨hClear, hClearDir⟩ :=
    reconcile_files (dir workspace request) later
  subst hDir
  have hNodes := hSite.node?_cleared hNamed hLeft later.clock
  have hKeeps :
      (cleared later.files later.dir (dir workspace request)
        later.clock).Keeps clear :=
    fun q node hNode _ => by rw [hNodes, hNode]
  obtain ⟨links, hReach⟩ := hSite.reach
  have hReach' := reach_of_keeps hKeeps hReach
  have hFree :
      (cleared later.files later.dir (dir workspace request)
        later.clock).node? (place ++ [entryName request]) = none := by
    rw [hNodes, hSite.free]
  have hMake :=
    makeDirs_dir hNamed hReach'
      ((clears_cleared later.files later.dir hEnds
        later.clock).not_directory hLater hEnds)
  rw [hSite.check] at hMake
  simp only [if_neg (Nat.not_lt.mpr hSite.long), hFree,
    Option.isSome_none, Bool.false_eq_true, if_false] at hMake
  refine ⟨_,
    { (reconcile .standard (dir workspace request) later).2 with
      files :=
        (cleared later.files later.dir (dir workspace request)
          later.clock).put (place ++ [entryName request])
            (.directory dirMode)
      dir := later.dir },
    site_put hNamed hSite.check hSite.long
      (wellFormed_cleared hLater ..) hReach' hFree, rfl, ?_⟩
  rw [layOut_apply, root_eq, hClear, hClearDir, hMake]

/-
  A project that was laid out consists of what its request asks
  for, and it does so again when it is laid out again.
-/
theorem materialize_exact
    (hSafe : request.Safe)
    {world after : World}
    (hFiles : world.files.WellFormed)
    (hWorkspace :
      ".." ∉ workspace.parts ∨
        (reconcile .standard (dir workspace request)
          world).2.files.names world.dir Node.isDirectory
            workspace = true)
    {tree : Tree}
    (hLaid :
      materialize workspace request world = (.ok tree, after)) :
    after.files.WellFormed ∧
      after.dir = world.dir ∧
        ∃ place,
          Complete request tree after.files after.dir place ∧
            ∀ later : World,
              later.files.WellFormed →
                later.dir = after.dir →
                  (∀ q, q.below place = false →
                    later.files.node? q = after.files.node? q) →
                    ∃ again,
                      materialize workspace request later =
                          (.ok tree, again) ∧
                        Complete request tree again.files again.dir
                          place := by
  obtain rfl : tree = Project.tree workspace request :=
    Coordinator.tree_of_materialize (by rw [hLaid])
  have hSound := sound_materialize workspace request world hFiles
  rw [hLaid] at hSound
  obtain ⟨most, place, made, -, hSite, hDir, done, hDone, hAfter,
      hAfterDir⟩ :=
    furnish_of_materialize hSafe.named hFiles hWorkspace hLaid
  rw [← hDir] at hSite
  obtain ⟨hDoneDir, hComplete⟩ := complete_of_furnish hSafe hSite hDone
  rw [← hAfter, ← hAfterDir] at hComplete
  refine ⟨hSound, by rw [hAfterDir, hDoneDir, hDir], _, hComplete, ?_⟩
  intro later hLater hLaterDir hLeft
  obtain ⟨result, contents, hRun⟩ := site_furnish workspace hSafe
  obtain ⟨hResult, -, hFurnished⟩ := hRun made most place hSite
  rw [hDone] at hResult hFurnished
  rw [hAfter] at hLeft
  obtain ⟨clear, made', hSite', hMadeDir, hLayOut⟩ :=
    furnish_again hSafe hFurnished hLater
      (by rw [hLaterDir, hAfterDir, hDoneDir]) hLeft
  obtain ⟨hResult', -, -⟩ := hRun made' clear place hSite'
  rcases hDone' : furnish (Project.tree workspace request) request
      made' with
    ⟨outcome, done'⟩
  rw [hDone', ← hResult] at hResult'
  simp only at hResult'
  rw [hDone', hResult', ← root_eq] at hLayOut
  obtain ⟨hOk, hAgain, hAgainDir⟩ :=
    materialize_apply workspace request later hLayOut
  rcases hLaidAgain : materialize workspace request later with
    ⟨outcome', again⟩
  rw [hLaidAgain] at hOk hAgain hAgainDir
  simp only at hOk hAgain hAgainDir
  refine ⟨again, by rw [hOk, Except.map], ?_⟩
  rw [hAgain, hAgainDir]
  rw [hResult'] at hDone'
  exact (complete_of_furnish hSafe hSite' hDone').2

/- A request with a text for everything. -/
def detailed : Request where
  pluginName := "X"
  packageName := "a..b/c"
  mainClass := "M"
  javaCode := "j"
  pluginYml := "y"
  configYml := "c"
  pomXml := "m"

private theorem safe_detailed : detailed.Safe :=
  ⟨by decide, by decide, by decide⟩

/- A workspace with a project of an earlier time. -/
def stale : World :=
  Coordinator.holding
    [(["b", "X", "old"], .file fileMode []),
      (["b", "X"], .directory dirMode), (["b"], .directory dirMode)]

private theorem wellFormed_stale : stale.files.WellFormed :=
  .of_entries (by decide)

/- What was in an earlier project is not in a new one. -/
theorem materialize_exact_over_stale :
    detailed.Safe ∧
      stale.files.WellFormed ∧
        ".." ∉ Path.parts "/b" ∧
          ∃ after,
            materialize "/b" detailed stale =
                (.ok (tree "/b" detailed), after) ∧
              after.files.node? ["b", "X", "old"] = none ∧
                after.files.node?
                      ["b", "X", "src", "main", "java", "a", "b", "c",
                        "M.java"] =
                    some (.file fileMode (Utf8.encode "j")) ∧
                  ∃ place,
                    Complete detailed (tree "/b" detailed)
                      after.files after.dir place := by
  have hUp : ".." ∉ Path.parts "/b" := by decide
  have hRun :
      (materialize "/b" detailed stale).1 =
          .ok (tree "/b" detailed) ∧
        (materialize "/b" detailed stale).2.files.node?
              ["b", "X", "old"] = none ∧
          (materialize "/b" detailed stale).2.files.node?
                ["b", "X", "src", "main", "java", "a", "b", "c",
                  "M.java"] =
              some (.file fileMode (Utf8.encode "j")) := by
    decide +kernel
  rcases hLaid : materialize "/b" detailed stale with ⟨outcome, after⟩
  rw [hLaid] at hRun
  obtain ⟨rfl, hOld, hMain⟩ := hRun
  obtain ⟨-, -, place, hComplete, -⟩ :=
    materialize_exact safe_detailed wellFormed_stale (.inl hUp) hLaid
  exact ⟨safe_detailed, wellFormed_stale, hUp, after, rfl, hOld, hMain,
    place, hComplete⟩

/- A workspace without projects. -/
def unused : World :=
  Coordinator.holding [(["b"], .directory dirMode)]

/-
  Nothing is found at the project's path, and the project is laid
  out, but something else is in it.
-/
def Littered
    (workspace : Path)
    (request : Request)
    (world : World)
    (name : String) : Prop :=
  let cleared := (reconcile .standard (dir workspace request) world).2
  let made := materialize workspace request world
  (cleared.files.stat cleared.dir false
      (dir workspace request)).isOk = false ∧
    made.1 = .ok (tree workspace request) ∧
      (made.2.files.stat made.2.dir true
          (dir workspace request)).toOption.map Prod.fst =
        some ["b", "X"] ∧
        (made.2.files.node? ["b", "X", name]).isSome = true

instance
    (workspace : Path)
    (request : Request)
    (world : World)
    (name : String) :
    Decidable (Littered workspace request world name) :=
  inferInstanceAs (Decidable (_ ∧ _ ∧ _ ∧ _))

/-
  Where the way to the workspace leads through a directory that is
  yet to be made and up again, an earlier project is not found
  until that directory is made, and then it stays.  Where that
  directory is one in the project, it stays as well.
-/
theorem materialize_keeps_stale :
    (Coordinator.sample "X").Safe ∧
      (stale.files.WellFormed ∧
        Littered "/M/../b" (Coordinator.sample "X") stale "old" ∧
          ∀ node, ¬ Laid (Coordinator.sample "X") ["old"] node) ∧
      unused.files.WellFormed ∧
        Littered "/b/X/sub/../.." (Coordinator.sample "X") unused
            "sub" ∧
          ∀ node, ¬ Laid (Coordinator.sample "X") ["sub"] node := by
  have hNot :
      ∀ name : String, name ≠ "src" → name ≠ "pom.xml" →
        ∀ node, ¬ Laid (Coordinator.sample "X") [name] node := by
    intro name hSource hManifest node hLaid
    generalize hQ : [name] = q at hLaid
    cases hLaid with
    | sources hNe hWay =>
        subst hQ
        simp [sourceNames] at hWay
        exact hSource hWay
    | resources hNe hWay =>
        subst hQ
        simp at hWay
        exact hSource hWay
    | manifest =>
        simp at hQ
        exact hManifest hQ
    | metadata => simp at hQ
    | config hGiven => simp at hQ
    | main => simp [sourceNames] at hQ
  exact ⟨⟨by decide, by decide, by decide⟩,
    ⟨wellFormed_stale, by decide +kernel,
      hNot "old" (by decide) (by decide)⟩,
    .of_entries (by decide), by decide +kernel,
    hNot "sub" (by decide) (by decide)⟩

end Project

end PluginStudio
