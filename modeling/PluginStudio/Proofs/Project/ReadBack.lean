import PluginStudio.Proofs.Build.Outcome
import PluginStudio.Proofs.Files.Writing

/-
  No file of a project is lost to another one.

  Key definitions include:
    * `PluginStudio.Project.Clearing.Linkless`
    * `PluginStudio.Project.ReadsBack`

  Main declarations:
    * `Project.apart_contents`
    * `Project.writes_readBack`
    * `Project.materializeWith_readsBack`

  A name of a plugin, a package or a class may lead anywhere.  The
  last names of a project's files differ all the same, and where
  there are no links a file stands under the last name of its
  path.  Only a device, which keeps nothing, is not read back.
-/

------------------------------------------------------------
-- Last Names
------------------------------------------------------------

namespace PluginStudio

namespace Path

/- Two paths with different last names. -/
def Apart (p q : Path) : Prop :=
  p.names.getLast? ≠ q.names.getLast?

theorem getLast?_names_join
    (dir : Path)
    {name : String}
    (hName : IsName name) :
    (dir.join name).names.getLast? = some name := by
  rw [names_join dir (isAbsolute_of_notMem hName.2.2.2),
    names_of_isName hName, List.getLast?_concat]

end Path

namespace Project

variable (workspace : Path) (request : Request)

/- The last name of the main class's file has an end of its own. -/
theorem getLast?_sourceFile :
    ∃ stem : String,
      (tree workspace request).sourceFile.names.getLast? =
        some (stem ++ ".java") := by
  rcases exists_sourceFile workspace request with ⟨p, hEq⟩
  have hText : ".java".toList ≠ [] := by decide
  rcases Path.exists_names_append p hText (by decide) with
    ⟨ns, cs, -, hNames⟩
  refine ⟨String.ofList cs, ?_⟩
  rw [hEq, hNames, List.getLast?_concat, String.ofList_append,
    String.ofList_toList]

theorem paths_of_contents
    (tree : Tree) :
    (contents tree request).map Prod.fst =
      [tree.manifest, tree.metadata] ++ tree.config?.toList ++
        [tree.sourceFile] := by
  simp only [contents, List.map_append, List.map_cons, List.map_nil,
    List.map_map, Function.comp_def, List.map_id']

/- Whatever the names in a request are, no two files share one. -/
theorem apart_contents :
    (contents (tree workspace request) request).Pairwise
      fun file other => file.1.Apart other.1 := by
  have hManifest :
      (tree workspace request).manifest.names.getLast? =
        some "pom.xml" := by
    rw [manifest_eq]
    exact Path.getLast?_names_join _ (by decide)
  have hMetadata :
      (tree workspace request).metadata.names.getLast? =
        some "plugin.yml" := by
    rw [metadata_eq]
    exact Path.getLast?_names_join _ (by decide)
  have hConfig :
      ∀ p ∈ (tree workspace request).config?,
        p.names.getLast? = some "config.yml" := by
    intro p hMem
    rw [config_eq workspace request hMem]
    exact Path.getLast?_names_join _ (by decide)
  rcases getLast?_sourceFile workspace request with ⟨stem, hSource⟩
  have hEnd :
      ∀ {name : String}, name.toList.getLast? ≠ some 'a' →
        name ≠ stem ++ ".java" := by
    rintro name hName rfl
    simp at hName
  have hPom : "pom.xml" ≠ stem ++ ".java" := hEnd (by decide)
  have hPlugin : "plugin.yml" ≠ stem ++ ".java" := hEnd (by decide)
  have hSecond : "config.yml" ≠ stem ++ ".java" := hEnd (by decide)
  have hPaths :
      ((contents (tree workspace request) request).map
        Prod.fst).Pairwise Path.Apart := by
    rw [paths_of_contents]
    generalize tree workspace request = tree at *
    cases hCases : tree.config? with
    | none =>
        simp [Path.Apart, hManifest, hMetadata, hSource, hPom, hPlugin]
    | some p =>
        simp [Path.Apart, hManifest, hMetadata, hSource,
          hConfig p hCases, hPom, hPlugin, hSecond]
  exact List.pairwise_map.mp hPaths

end Project

end PluginStudio

------------------------------------------------------------
-- Files That Are Read Again
------------------------------------------------------------

namespace PluginStudio

namespace Project

open FileSystem

/-
  Files written one after another, with last names that all
  differ.  No file takes the place of an earlier one, since it
  has another name.
-/
theorem writes_readBack
    {files : List (Path × String)}
    (hNamed : ∀ file ∈ files, file.1.EndsInName)
    (hApart : files.Pairwise fun file other => file.1.Apart other.1)
    {world after : World}
    (hPlain : world.files.Plain)
    (hOk :
      (files.forM fun file => writeFile file.1 file.2) world =
        (.ok (), after)) :
    after.dir = world.dir ∧
      after.files.Keeps world.files ∧
        (∀ q : Place,
          (∀ file ∈ files, q.getLast? ≠ file.1.names.getLast?) →
            after.files.node? q = world.files.node? q) ∧
          ∀ file ∈ files,
            after.files.device? world.dir file.1 = none →
              after.files.read world.dir file.1 =
                .ok (Utf8.encode file.2) := by
  induction files generalizing world with
  | nil =>
      cases hOk
      exact ⟨rfl, .refl _, fun _ _ => rfl, by simp⟩
  | cons file files ih =>
      rcases List.forall_mem_cons.mp hNamed with ⟨hFile, hNamed⟩
      rcases List.pairwise_cons.mp hApart with ⟨hFirst, hApart⟩
      change (writeFile file.1 file.2 >>= fun _ =>
        files.forM fun file => writeFile file.1 file.2) world = _
        at hOk
      rw [Studio.except_bind_apply, writeFile_apply] at hOk
      cases hWrite :
          world.files.write world.dir file.1
            (Utf8.encode file.2) with
      | error fault =>
          rw [hWrite] at hOk
          cases hOk
      | ok made =>
          rw [hWrite] at hOk
          rcases written_of_write hWrite with ⟨q, node, hWritten⟩
          rcases hWritten.way with ⟨spot, hSpot, hEnds⟩
          have hLast : q.getLast? = file.1.names.getLast? :=
            hPlain.getLast?_of_output hFile hSpot hEnds
          rcases ih hNamed hApart (hPlain.write hWrite) hOk with
            ⟨hDir, hKeeps, hFrame, hRead⟩
          refine ⟨hDir, hKeeps.trans hWritten.keeps, ?_, ?_⟩
          · intro place hNot
            rcases List.forall_mem_cons.mp hNot with ⟨hHead, hTail⟩
            have hNe : place ≠ q := by
              rintro rfl
              exact hHead hLast
            rw [hFrame place hTail]
            exact hWritten.frame hNe
          · rw [List.forall_mem_cons]
            refine ⟨?_, hRead⟩
            apply hWritten.read (hKeeps.trans hWritten.keeps)
            rw [hFrame q fun other hMem => ?_]
            · exact hWritten.there
            · rw [hLast]
              exact hFirst other hMem

end Project

end PluginStudio

------------------------------------------------------------
-- Whatever Clearing Does
------------------------------------------------------------

namespace PluginStudio

namespace Project

open FileSystem Studio

/- Ways to clear a place that make no links. -/
structure Clearing.Linkless (clearing : Clearing) : Prop where
  remove : ∀ p, Preserves Plain (clearing.remove p)
  rename : ∀ p q, Preserves Plain (clearing.rename p q)

theorem linkless_standard : Clearing.standard.Linkless where
  remove p world hPlain := hPlain.removeTree world.dir p
  rename p q world hPlain := by
    simp only [Clearing.standard, onFile, onFiles_apply, step]
    cases hRename : world.files.rename world.dir p q with
    | ok files => exact hPlain.rename hRename
    | error fault => exact hPlain

theorem plain_reconcile
    {clearing : Clearing}
    (hClearing : clearing.Linkless)
    (root : Path) :
    Preserves Plain (reconcile clearing root) := by
  refine Preserves.bind (.of_same fun _ => rfl) fun there => ?_
  cases there with
  | false => exact .of_same fun _ => rfl
  | true =>
      refine Preserves.bind (hClearing.remove root) fun removed => ?_
      cases removed with
      | ok u => exact .of_same fun _ => rfl
      | error fault =>
          refine Preserves.bind (.of_same fun _ => rfl) fun millis => ?_
          refine Preserves.bind (.of_same fun _ => rfl) fun _ => ?_
          refine Preserves.bind (hClearing.rename root _)
            fun renamed => ?_
          cases renamed <;> exact .of_same fun _ => rfl

theorem plain_createDir (p : Path) :
    Preserves Plain (createDir p) := by
  intro world hPlain
  rw [createDir_apply]
  exact hPlain.makeDirs world.dir p

/-
  All texts of a request are found at the paths of a tree, each at
  its own.  `Found p text` says what it is to find a text at a path.
-/
structure ReadsBack
    (request : Request)
    (tree : Tree)
    (Found : Path → String → Prop) : Prop where
  manifest :
    Found tree.manifest
      (if request.pomXml = "" then
        Descriptor.manifest.render request
      else
        request.pomXml)
  metadata :
    Found tree.metadata
      (if request.pluginYml = "" then
        Descriptor.metadata.render request
      else
        request.pluginYml)
  configured : tree.config? = none ↔ request.configYml = ""
  config : ∀ p, tree.config? = some p → Found p request.configYml
  sourceFile : Found tree.sourceFile request.javaCode

/- Texts that are found at the files of a request's tree. -/
theorem readsBack_of_contents
    (workspace : Path)
    (request : Request)
    {Found : Path → String → Prop}
    (hFound :
      ∀ file ∈ contents (tree workspace request) request,
        Found file.1 file.2) :
    ReadsBack request (tree workspace request) Found := by
  have hConfigured := config?_eq workspace request
  have hManifest := text_eq request .manifest
  have hMetadata := text_eq request .metadata
  rw [contents, hManifest, hMetadata] at hFound
  generalize tree workspace request = tree at *
  simp only [List.forall_mem_append, List.forall_mem_cons,
    List.forall_mem_map, List.not_mem_nil, false_implies, implies_true,
    and_true, Option.mem_toList] at hFound
  rcases hFound with ⟨⟨⟨hFirst, hSecond⟩, hConfig⟩, hSource⟩
  refine ⟨hFirst, hSecond, ?_, hConfig, hSource⟩
  rw [hConfigured]
  by_cases hEmpty : request.configYml = "" <;> simp [hEmpty]

/-
  Once a project is laid out, each of its files is read.  The
  directories come first, and make no links.
-/
theorem layOut_readBack
    {tree : Tree}
    {request : Request}
    (hNamed : ∀ file ∈ contents tree request, file.1.EndsInName)
    (hApart :
      (contents tree request).Pairwise
        fun file other => file.1.Apart other.1)
    {world after : World}
    (hPlain : world.files.Plain)
    (hOk : layOut tree request world = (.ok (), after)) :
    ∀ file ∈ contents tree request,
      after.files.device? after.dir file.1 = none →
        after.files.read after.dir file.1 =
          .ok (Utf8.encode file.2) := by
  rw [layOut, Studio.except_bind_apply] at hOk
  generalize contents tree request = files at *
  have hMade :=
    Preserves.forM
      (fun p (_ : p ∈ directories tree) => plain_createDir p) world
      hPlain
  rcases hDirs : (directories tree).forM createDir world with
    ⟨failure | u, made⟩
  · rw [hDirs] at hOk
    cases hOk
  · rw [hDirs] at hOk hMade
    rcases writes_readBack hNamed hApart hMade hOk with
      ⟨hDir, -, -, hRead⟩
    rw [hDir]
    exact hRead

/-
  A project that was laid out is read back, whatever was done to
  clear its place and wherever its names lead.  A file is exempt
  only if its path leads to a device.
-/
theorem materializeWith_readsBack
    {clearing : Clearing}
    (hClearing : clearing.Linkless)
    {workspace : Path}
    {request : Request}
    {world after : World}
    (hPlain : world.files.Plain)
    {tree : Tree}
    (hLaid :
      materializeWith clearing workspace request world =
        (.ok tree, after)) :
    ReadsBack request tree fun p text =>
      after.files.device? after.dir p = none →
        after.files.read after.dir p = .ok (Utf8.encode text) := by
  rcases hDone :
      layOut (Project.tree workspace request) request
        (reconcile clearing (Project.tree workspace request).root
          world).2 with
    ⟨outcome, done⟩
  rcases materializeWith_apply clearing workspace request world hDone with
    ⟨hTree, hFiles, hDir⟩
  rw [hLaid] at hTree hFiles hDir
  simp only at hTree hFiles hDir
  cases outcome with
  | error failure => simp [Except.map] at hTree
  | ok u =>
      rw [Except.map, Except.ok.injEq] at hTree
      rw [hTree, hFiles, hDir]
      apply readsBack_of_contents
      exact layOut_readBack
        (fun _ hMem =>
          endsInName_of_mem_contents workspace request hMem)
        (apart_contents workspace request)
        (plain_reconcile hClearing _ world hPlain) hDone

/- A request whose names lead up and across. -/
def crossing : Request where
  pluginName := "X/../X"
  packageName := "a"
  mainClass := "../../resources/plugin.yml"
  javaCode := "j"
  pluginYml := "y"
  configYml := "c"
  pomXml := "m"

/- A workspace with a project that is in use. -/
def crowded : World :=
  Coordinator.holding
    [(["b", "X", "pom.xml"], .file fileMode []),
      (["b", "X"], .directory dirMode), (["b"], .directory dirMode)]

theorem plain_crowded : crowded.files.Plain :=
  plain_of_entries (by simp [crowded, Coordinator.holding])

/- No way to clear a place at all. -/
def Clearing.stuck : Clearing where
  remove _ := return refuse .permissionDenied
  rename _ _ := return refuse .permissionDenied

theorem linkless_stuck : Clearing.stuck.Linkless :=
  ⟨fun _ _ hPlain => hPlain, fun _ _ _ hPlain => hPlain⟩

/- Where nothing could be cleared, and where all was. -/
theorem materializeWith_readsBack_across :
    crowded.files.Plain ∧
      ∀ clearing,
        clearing = Clearing.stuck ∨ clearing = Clearing.standard →
          clearing.Linkless ∧
            ∃ after,
              materializeWith clearing "/b" crossing crowded =
                  (.ok (tree "/b" crossing), after) ∧
                (ReadsBack crossing (tree "/b" crossing)
                  fun p text =>
                    after.files.device? after.dir p = none →
                      after.files.read after.dir p =
                        .ok (Utf8.encode text)) ∧
                  after.files.read after.dir
                      "/b/X/src/main/resources/plugin.yml" =
                    .ok (Utf8.encode "y") ∧
                    after.files.read after.dir
                        "/b/X/src/main/resources/plugin.yml.java" =
                      .ok (Utf8.encode "j") := by
  have hRun :
      ∀ clearing,
        clearing = Clearing.stuck ∨ clearing = Clearing.standard →
          let laid := materializeWith clearing "/b" crossing crowded
          laid.1 = .ok (tree "/b" crossing) ∧
            laid.2.files.read laid.2.dir
                "/b/X/src/main/resources/plugin.yml" =
              .ok (Utf8.encode "y") ∧
              laid.2.files.read laid.2.dir
                  "/b/X/src/main/resources/plugin.yml.java" =
                .ok (Utf8.encode "j") := by
    rintro clearing (rfl | rfl) <;> decide +kernel
  refine ⟨plain_crowded, fun clearing hClearing => ?_⟩
  have hLinkless : clearing.Linkless := by
    rcases hClearing with rfl | rfl
    · exact linkless_stuck
    · exact linkless_standard
  have hDone := hRun clearing hClearing
  rcases hLaid : materializeWith clearing "/b" crossing crowded with
    ⟨outcome, after⟩
  rw [hLaid] at hDone
  rcases hDone with ⟨rfl, hMetadata, hSource⟩
  exact ⟨hLinkless, after, rfl,
    materializeWith_readsBack hLinkless plain_crowded hLaid, hMetadata,
    hSource⟩

/- A workspace where a device stands for the manifest of a project. -/
def draining : World :=
  Coordinator.holding
    [(["b", "X", "pom.xml"], .device .null),
      (["b", "X"], .directory dirMode), (["b"], .directory dirMode)]

/- A way to clear a place that leaves a link for the manifest. -/
def Clearing.planting : Clearing where
  remove _ :=
    Studio.onFile fun fs _ =>
      .ok (fs.put ["b", "X", "pom.xml"]
        (.link "src/main/resources/plugin.yml"))
  rename _ _ := return refuse .permissionDenied

/-
  A manifest that is written to a device is lost, though there are
  no links and the project counts as laid out.  The device is still
  there if nothing can be cleared, or if nothing is found to clear
  since the way to the project is not yet made.  And a manifest that
  is written through a link, which clearing has left, is overwritten.
-/
theorem materializeWith_loses_manifest :
    (draining.files.Plain ∧
      ∀ clearing workspace,
        clearing = Clearing.stuck ∧ workspace = "/b" ∨
            clearing = Clearing.standard ∧ workspace = "/M/../b" →
          clearing.Linkless ∧
            ∃ after,
              materializeWith clearing workspace crossing draining =
                  (.ok (tree workspace crossing), after) ∧
                after.files.read after.dir
                    (tree workspace crossing).manifest =
                  .ok [] ∧
                  ¬ ReadsBack crossing (tree workspace crossing)
                    fun p text =>
                      after.files.read after.dir p =
                        .ok (Utf8.encode text)) ∧
      crowded.files.Plain ∧
        let laid :=
          materializeWith .planting "/b" crossing crowded
        let manifest := (tree "/b" crossing).manifest
        laid.1 = .ok (tree "/b" crossing) ∧
          laid.2.files.device? laid.2.dir manifest = none ∧
            laid.2.files.read laid.2.dir manifest =
              .ok (Utf8.encode "y") := by
  have hRun :
      ∀ clearing workspace,
        clearing = Clearing.stuck ∧ workspace = "/b" ∨
            clearing = Clearing.standard ∧ workspace = "/M/../b" →
          let laid := materializeWith clearing workspace crossing draining
          laid.1 = .ok (tree workspace crossing) ∧
            laid.2.files.read laid.2.dir
                (tree workspace crossing).manifest =
              .ok [] := by
    rintro clearing workspace (⟨rfl, rfl⟩ | ⟨rfl, rfl⟩) <;> decide +kernel
  refine ⟨⟨plain_of_entries (by simp [draining, Coordinator.holding]),
    fun clearing workspace hCase => ?_⟩, plain_crowded, ?_⟩
  · have hLinkless : clearing.Linkless := by
      rcases hCase with ⟨rfl, -⟩ | ⟨rfl, -⟩
      · exact linkless_stuck
      · exact linkless_standard
    have hDone := hRun clearing workspace hCase
    rcases hLaid :
        materializeWith clearing workspace crossing draining with
      ⟨outcome, after⟩
    rw [hLaid] at hDone
    rcases hDone with ⟨rfl, hLost⟩
    refine ⟨hLinkless, after, rfl, hLost, fun hReads => ?_⟩
    have hText := hReads.manifest
    rw [hLost, Except.ok.injEq] at hText
    revert hText
    decide
  · decide +kernel

end Project

end PluginStudio
