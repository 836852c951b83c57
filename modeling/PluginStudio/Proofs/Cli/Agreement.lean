import PluginStudio.Proofs.Build.Containment
import PluginStudio.Proofs.Cli.Actions
import PluginStudio.Proofs.Files.Writing
import PluginStudio.Proofs.Http.Boundary
import PluginStudio.Proofs.Toolchain.Resolution

/-
  The command line and the server build alike.

  Key definitions include:
    * `PluginStudio.Cli.delivered`
    * `PluginStudio.Cli.Agree`
    * `PluginStudio.Cli.Spares`

  Main declarations:
    * `Cli.yields_build`
    * `Server.handle_of_read`
    * `Cli.agree_of_build`
    * `Cli.spares_of_failed`
    * `Cli.run_agrees`

  A run that builds what a file asks for and a server that is sent
  the bytes of that file start from the same tool, and what either
  reports in between decides nothing.  So they build the same, and
  the run then writes what the server answers with.
-/

------------------------------------------------------------
-- Builds From The Command Line
------------------------------------------------------------

namespace PluginStudio

namespace Cli

open Cli.Action

/- What becomes of a build: it is told why, or the artifact goes out. -/
def delivered
    (output : Path) :
    Build.Result × World → Except Failure Unit × World
  | (.error failure, after) => (.error (.build failure), after)
  | (.ok artifact, after) =>
    match after.files.write after.dir output artifact.bytes with
    | .error fault => (.error (.unwritable output fault), after)
    | .ok files => (.ok (), { after with files := files })

variable {around : Surroundings} {settings : Settings}
variable {path : Path} {output? : Option Path} {body : Bytes}
variable {world : World}

/- A file that holds no request is refused before anything is done. -/
theorem yields_build_of_malformed
    (hFile : world.files.read world.dir path = .ok body)
    {fault : Json.Fault}
    (hRead : Request.read body = .error fault) :
    Yields (build around settings path output?) world
      (.error (.malformed path (fault.message body))) world := by
  have hRequest := yields_readRequestFile hFile
  rw [hRead] at hRequest
  unfold build
  apply (Yields.watch _).bind
  exact hRequest.bind_error _

/- What was built is delivered. -/
theorem yields_build
    (hFile : world.files.read world.dir path = .ok body)
    {request : Request}
    (hRead : Request.read body = .ok request)
    (hWorkspace :
      world.files.names world.dir Node.isDirectory settings.workspace =
        true) :
    let started := Coordinator.ofSettings around.run settings world
    let made :=
      delivered (output?.getD (defaultOutput request))
        (started.1.build request started.2)
    Yields (build around settings path output?) world made.1
      made.2 := by
  intro started made
  have hRequest := yields_readRequestFile hFile
  rw [hRead] at hRequest
  have hEnsure : settings.ensureWorkspace world = (.ok (), world) := by
    unfold Settings.ensureWorkspace
    rw [Studio.onFiles_apply, FileSystem.makeDirs_of_names hWorkspace]
  unfold build
  apply (Yields.watch _).bind
  apply hRequest.bind
  apply (Yields.attempt _ hEnsure).bind
  apply (Yields.say _ _).bind
  apply (Yields.watch _).bind
  rcases hBuilt : started.1.build request started.2 with
    ⟨failure | artifact, after⟩
  · have hMade : made = (.error (.build failure), after) := by
      simp only [made, hBuilt, delivered]
    rw [hMade]
    exact (Yields.attempt Failure.build hBuilt).bind_error _
  · apply (Yields.attempt Failure.build hBuilt).bind
    have hStep :=
      Studio.onFiles_apply (fun fs dir =>
        fs.step (fs.write dir (output?.getD (defaultOutput request))
          artifact.bytes)) after
    rw [← Studio.onFile] at hStep
    cases hWrite :
        after.files.write after.dir
          (output?.getD (defaultOutput request)) artifact.bytes with
    | error fault =>
        rw [hWrite] at hStep
        have hMade :
            made =
              (.error
                (.unwritable (output?.getD (defaultOutput request))
                  fault), after) := by
          simp only [made, hBuilt, delivered, hWrite]
        rw [hMade]
        exact (Yields.attempt _ hStep).bind_error _
    | ok files =>
        rw [hWrite] at hStep
        have hMade :
            made = (.ok (), { after with files := files }) := by
          simp only [made, hBuilt, delivered, hWrite]
        rw [hMade]
        apply (Yields.attempt _ hStep).bind
        apply (yields_showWritten _ _).bind
        apply (Yields.watch _).bind
        exact .say _ _

end Cli

end PluginStudio

------------------------------------------------------------
-- Builds From The Server
------------------------------------------------------------

namespace PluginStudio

namespace Http

namespace Server

variable {request : Request}

theorem handle_of_malformed
    (server : Server)
    (hSubmitted : Submitted request)
    {fault : Json.Fault}
    (hRead : PluginStudio.Request.read request.body = .error fault)
    (world : World) :
    server.handle request world =
      ((Build.Failure.invalidRequest
          ("invalid JSON: " ++
            fault.message request.body)).response.withLength,
        world) := by
  rw [handle_apply, receive_of_submitted hSubmitted, Build.readRequest,
    hRead]

theorem handle_of_read
    (server : Server)
    (hSubmitted : Submitted request)
    {plugin : PluginStudio.Request}
    (hRead : PluginStudio.Request.read request.body = .ok plugin)
    (world : World) :
    server.handle request world =
      conclude plugin
        (server.coordinator.build plugin (announced plugin world)).1
        (server.coordinator.build plugin
          (announced plugin world)).2 := by
  rw [handle_apply, receive_of_submitted hSubmitted, Build.readRequest,
    hRead]

/- A build that is announced is built as any other. -/
theorem build_announced
    {coordinator : Coordinator}
    {behave : Tool.Behaviour}
    (hRun : coordinator.run = Tool.behaving behave)
    (plugin : PluginStudio.Request)
    (world : World) :
    (coordinator.build plugin (announced plugin world)).1 =
        (coordinator.build plugin world).1 ∧
      (coordinator.build plugin (announced plugin world)).2.files =
        (coordinator.build plugin world).2.files := by
  rcases coordinator with ⟨workspace, tool, run⟩
  simp only at hRun
  rw [hRun]
  have hAlike : world.Alike (announced plugin world) :=
    ⟨rfl, rfl, rfl⟩
  exact Coordinator.build_of_alike workspace tool behave plugin hAlike

end Server

end Http

end PluginStudio

------------------------------------------------------------
-- Agreement
------------------------------------------------------------

namespace PluginStudio

namespace Cli

open Cli.Action

/-
  How a run that builds what a file asks for, and the answer to the
  bytes of that file, go together.  Both refuse the bytes and build
  nothing; or both tell the same failure of the build; or both have
  the same artifact, which the run could not write, or has written.
  Apart from that both leave the files as the build has left them.
-/
inductive Agree
    (style : Report.Style)
    (path : Path)
    (output? : Option Path)
    (body : Bytes)
    (world : World)
    (started : Coordinator × World) :
    Ending × World → Http.Response × World → Prop where
  | undecoded
      {fault : Json.Fault} {ending : Ending} {after answered : World}
      {response : Http.Response}
      (hRead : Request.read body = .error fault)
      (hTells :
        ending.Tells style (.malformed path (fault.message body)))
      (hFiles : after.files = world.files)
      (hResponse :
        response =
          (Build.Failure.invalidRequest
            ("invalid JSON: " ++
              fault.message body)).response.withLength)
      (hAnswered : answered.files = started.2.files) :
      Agree style path output? body world started (ending, after)
        (response, answered)
  | unbuilt
      {request : Request} {failure : Build.Failure} {ending : Ending}
      {built after answered : World} {response : Http.Response}
      (hRead : Request.read body = .ok request)
      (hBuilt :
        started.1.build request started.2 = (.error failure, built))
      (hTells : ending.Tells style (.build failure))
      (hFiles : after.files = built.files)
      (hResponse : response = failure.response.withLength)
      (hAnswered : answered.files = built.files) :
      Agree style path output? body world started (ending, after)
        (response, answered)
  | unwritten
      {request : Request} {artifact : Artifact} {fault : IoFault}
      {ending : Ending} {built after answered : World}
      {response : Http.Response}
      (hRead : Request.read body = .ok request)
      (hBuilt :
        started.1.build request started.2 = (.ok artifact, built))
      (hWrite :
        built.files.write world.dir
            (output?.getD (defaultOutput request)) artifact.bytes =
          .error fault)
      (hTells :
        ending.Tells style
          (.unwritable (output?.getD (defaultOutput request)) fault))
      (hFiles : after.files = built.files)
      (hResponse :
        response =
          (Http.Response.artifact request.pluginName
            artifact.bytes).withLength)
      (hAnswered : answered.files = built.files) :
      Agree style path output? body world started (ending, after)
        (response, answered)
  | written
      {request : Request} {artifact : Artifact} {ending : Ending}
      {built after answered : World} {response : Http.Response}
      (hRead : Request.read body = .ok request)
      (hBuilt :
        started.1.build request started.2 = (.ok artifact, built))
      (hWrite :
        built.files.write world.dir
            (output?.getD (defaultOutput request)) artifact.bytes =
          .ok after.files)
      (hCode : ending.code = 0)
      (hResponse :
        response =
          (Http.Response.artifact request.pluginName
            artifact.bytes).withLength)
      (hAnswered : answered.files = built.files) :
      Agree style path output? body world started (ending, after)
        (response, answered)

variable {around : Surroundings} {args : List String} {order : Order}
variable {path : Path} {output? : Option Path} {world : World}
variable {post : Http.Request} {behave : Tool.Behaviour}

/- The coordinator of some settings, and the files it starts with. -/
theorem ofSettings_apply
    (run : Tool.Runner)
    (settings : Settings)
    (world : World) :
    Coordinator.ofSettings run settings world =
      (⟨settings.workspace,
          (Toolchain.resolve settings.mavenHome world).1, run⟩,
        (Toolchain.resolve settings.mavenHome world).2) := by
  unfold Coordinator.ofSettings
  rw [Studio.bind_apply, Studio.pure_apply]

theorem dir_ofSettings
    (run : Tool.Runner)
    (settings : Settings)
    (world : World) :
    (Coordinator.ofSettings run settings world).2.dir = world.dir := by
  rw [ofSettings_apply]
  exact (Toolchain.resolve_files settings.mavenHome world).1

/- A build stays in the directory that it started in. -/
theorem dir_build
    {coordinator : Coordinator}
    (hRun : coordinator.run = Tool.behaving behave)
    (request : Request)
    (world : World) :
    (coordinator.build request world).2.dir = world.dir := by
  rcases coordinator with ⟨workspace, tool, run⟩
  simp only at hRun
  rw [hRun]
  rcases hLaid : Project.materialize workspace request world with
    ⟨laid, after⟩
  exact (Coordinator.ends_build tool behave hLaid).2

/- What a run delivers agrees with what the server concludes. -/
theorem agree_of_delivered
    (hOrder : Order.read args = .ok order)
    (hTask : order.task = .build path output?)
    {request : Request}
    (hRead : Request.read post.body = .ok request)
    {started : Coordinator × World}
    {made : Build.Result × World}
    (hMade : started.1.build request started.2 = made)
    (hDir : made.2.dir = world.dir)
    {answered : World}
    (hFiles : answered.files = made.2.files)
    (hYields :
      Yields (build around (order.settings around) path output?) world
        (delivered (output?.getD (defaultOutput request)) made).1
        (delivered (output?.getD (defaultOutput request)) made).2) :
    Agree (order.style around.env) path output? post.body world started
      (run around args world)
      (Http.Server.conclude request made.1 answered) := by
  rcases made with ⟨result, built⟩
  simp only at hDir hFiles ⊢
  rcases hRan : run around args world with ⟨ending, after⟩
  cases result with
  | error failure =>
      rcases run_of_error hOrder hTask hYields with ⟨hTells, hAfter⟩
      rw [hRan] at hTells hAfter
      simp only [delivered] at hAfter
      subst hAfter
      exact .unbuilt hRead hMade hTells rfl rfl hFiles
  | ok artifact =>
      rw [delivered, hDir] at hYields
      cases hWrite :
          built.files.write world.dir
            (output?.getD (defaultOutput request)) artifact.bytes with
      | error fault =>
          rw [hWrite] at hYields
          rcases run_of_error hOrder hTask hYields with
            ⟨hTells, hAfter⟩
          rw [hRan] at hTells hAfter
          simp only at hAfter
          subst hAfter
          exact .unwritten hRead hMade hWrite hTells rfl rfl hFiles
      | ok files =>
          rw [hWrite] at hYields
          rcases run_of_ok hOrder hTask hYields with ⟨hCode, hAfter⟩
          rw [hRan] at hCode hAfter
          simp only at hAfter
          subst hAfter
          exact .written hRead hMade hWrite hCode rfl hFiles

/- From the same files, a run and the server agree. -/
theorem agree_of_build
    (hRun : around.run = Tool.behaving behave)
    (hOrder : Order.read args = .ok order)
    (hTask : order.task = .build path output?)
    (hFile : world.files.read world.dir path = .ok post.body)
    (hSubmitted : Http.Server.Submitted post)
    (hWorkspace :
      world.files.names world.dir Node.isDirectory
        (order.settings around).workspace = true)
    (staticDir : Path) :
    let started :=
      Coordinator.ofSettings around.run (order.settings around) world
    Agree (order.style around.env) path output? post.body world started
      (run around args world)
      (Http.Server.handle ⟨started.1, staticDir⟩ post started.2) := by
  intro started
  cases hRead : Request.read post.body with
  | error fault =>
      rcases hRan : run around args world with ⟨ending, after⟩
      rcases run_of_error hOrder hTask
          (yields_build_of_malformed hFile hRead) with
        ⟨hTells, hAfter⟩
      rw [hRan] at hTells hAfter
      rw [Http.Server.handle_of_malformed _ hSubmitted hRead]
      exact .undecoded hRead hTells (by rw [← hAfter]) rfl rfl
  | ok request =>
      have hTool : started.1.run = Tool.behaving behave := hRun
      rcases Http.Server.build_announced hTool request started.2 with
        ⟨hResult, hFiles⟩
      have hDir :
          (started.1.build request started.2).2.dir = world.dir := by
        rw [dir_build hTool]
        exact dir_ofSettings _ _ world
      rw [Http.Server.handle_of_read _ hSubmitted hRead, hResult]
      apply agree_of_delivered hOrder hTask hRead rfl hDir hFiles
      exact yields_build hFile hRead hWorkspace

/- A run whose build fails leaves what the build has left. -/
theorem run_of_failed
    {body : Bytes}
    (hOrder : Order.read args = .ok order)
    (hTask : order.task = .build path output?)
    (hFile : world.files.read world.dir path = .ok body)
    (hWorkspace :
      world.files.names world.dir Node.isDirectory
        (order.settings around).workspace = true)
    {started : Coordinator × World}
    (hStarted :
      Coordinator.ofSettings around.run (order.settings around) world =
        started)
    {request : Request}
    (hRead : Request.read body = .ok request)
    {failure : Build.Failure}
    (hFailed :
      (started.1.build request started.2).1 = .error failure) :
    (run around args world).2 =
      (started.1.build request started.2).2 := by
  have hYields :
      Yields (build around (order.settings around) path output?) world
        _ _ :=
    yields_build hFile hRead hWorkspace
  rw [hStarted] at hYields
  rcases hMade : started.1.build request started.2 with
    ⟨result, built⟩
  rw [hMade] at hYields hFailed
  simp only at hFailed
  subst hFailed
  exact (run_of_error hOrder hTask hYields).2

namespace Agree

variable {style : Report.Style} {body : Bytes}
variable {started : Coordinator × World}
variable {ran : Ending × World} {answered : Http.Response × World}

/- A run ends well exactly if all is built and written. -/
theorem code_eq_zero_iff
    (hAgree :
      Agree style path output? body world started ran answered) :
    ran.1.code = 0 ↔
      ∃ request artifact built files,
        Request.read body = .ok request ∧
          started.1.build request started.2 = (.ok artifact, built) ∧
            built.files.write world.dir
                (output?.getD (defaultOutput request))
                artifact.bytes =
              .ok files := by
  cases hAgree with
  | undecoded hRead hTells =>
      apply iff_of_false hTells.code_ne_zero
      rintro ⟨request, artifact, built, files, hRead', -⟩
      rw [hRead] at hRead'
      cases hRead'
  | unbuilt hRead hBuilt hTells =>
      apply iff_of_false hTells.code_ne_zero
      rintro ⟨request, artifact, built, files, hRead', hBuilt', -⟩
      rw [hRead, Except.ok.injEq] at hRead'
      rw [← hRead', hBuilt] at hBuilt'
      cases hBuilt'
  | unwritten hRead hBuilt hWrite hTells =>
      apply iff_of_false hTells.code_ne_zero
      rintro ⟨request, artifact, built, files, hRead', hBuilt', hWrite'⟩
      rw [hRead, Except.ok.injEq] at hRead'
      rw [← hRead', hBuilt] at hBuilt'
      cases hBuilt'
      rw [← hRead', hWrite] at hWrite'
      cases hWrite'
  | written hRead hBuilt hWrite hCode =>
      exact iff_of_true hCode ⟨_, _, _, _, hRead, hBuilt, hWrite⟩

/- Then the artifact was written, and the server answers with it. -/
theorem of_code_eq_zero
    (hAgree :
      Agree style path output? body world started ran answered)
    (hCode : ran.1.code = 0)
    {request : Request}
    (hRead : Request.read body = .ok request) :
    ∃ artifact built,
      started.1.build request started.2 = (.ok artifact, built) ∧
        built.files.write world.dir
            (output?.getD (defaultOutput request)) artifact.bytes =
          .ok ran.2.files ∧
          answered.1.status = 200 ∧
            answered.1.body = artifact.bytes ∧
              answered.2.files = built.files := by
  cases hAgree with
  | undecoded _ hTells | unbuilt _ _ hTells | unwritten _ _ _ hTells =>
      exact absurd hCode hTells.code_ne_zero
  | written hRead' hBuilt hWrite _ hResponse hAnswered =>
      rw [hRead, Except.ok.injEq] at hRead'
      subst hRead' hResponse
      exact ⟨_, _, hBuilt, hWrite, rfl, rfl, hAnswered⟩

/- An artifact that is built and can be written goes out on both ways. -/
theorem of_written
    (hAgree :
      Agree style path output? body world started ran answered)
    {request : Request}
    (hRead : Request.read body = .ok request)
    {artifact : Artifact}
    {built : World}
    (hBuilt :
      started.1.build request started.2 = (.ok artifact, built))
    {files : FileSystem}
    (hWrite :
      built.files.write world.dir
          (output?.getD (defaultOutput request)) artifact.bytes =
        .ok files) :
    ran.1.code = 0 ∧
      ran.2.files = files ∧
        answered.1.status = 200 ∧ answered.1.body = artifact.bytes := by
  have hCode : ran.1.code = 0 :=
    hAgree.code_eq_zero_iff.mpr
      ⟨request, artifact, built, files, hRead, hBuilt, hWrite⟩
  rcases hAgree.of_code_eq_zero hCode hRead with
    ⟨artifact', built', hSame, hLeft, hStatus, hBody, -⟩
  rw [hBuilt, Prod.mk.injEq, Except.ok.injEq] at hSame
  rcases hSame with ⟨rfl, rfl⟩
  rw [hWrite, Except.ok.injEq] at hLeft
  exact ⟨hCode, hLeft.symm, hStatus, hBody⟩

end Agree

end Cli

end PluginStudio

------------------------------------------------------------
-- Files That Are Spared
------------------------------------------------------------

namespace PluginStudio

namespace Cli

open FileSystem Project

/-
  All files outside of a place have kept their content, and but for
  a program that was made executable also their bits.
-/
def Spares
    (root : Place)
    (program : Path)
    (before after : World) : Prop :=
  ∀ place bits content,
    before.files.node? place = some (.file bits content) →
      ¬ root <+: place →
        ∃ bits',
          after.files.node? place = some (.file bits' content) ∧
            (bits' = bits ∨
              ∃ node,
                before.files.stat before.dir true program =
                  .ok (place, node))

variable {root : Place} {world : World}

theorem Spares.refl
    (root : Place)
    (program : Path)
    (world : World) :
    Spares root program world world :=
  fun _ bits _ hNode _ => ⟨bits, hNode, Or.inl rfl⟩

/- To choose a tool spares everything but its program's bits. -/
theorem spares_resolve
    (root : Place)
    (home : Path)
    (world : World) :
    Spares root (Toolchain.bundled home) world
      (Toolchain.resolve home world).2 := by
  intro place bits content hNode _
  rcases (Toolchain.resolve_files home world).2 with
    hSame | ⟨q, mode, bits', content', hStat, hPut⟩
  · rw [hSame]
    exact ⟨bits, hNode, Or.inl rfl⟩
  · have hFile := node?_of_stat hStat
    have hNe : q ≠ [] := by
      rintro rfl
      simp at hFile
    rw [hPut, node?_put _ hNe]
    split_ifs with hEq
    · subst hEq
      rw [hFile, Option.some.injEq, Node.file.injEq] at hNode
      rw [hNode.2]
      exact ⟨bits', rfl, Or.inr ⟨_, hStat⟩⟩
    · exact ⟨bits, hNode, Or.inl rfl⟩

/- The files stay well formed, and lead where they led. -/
theorem wellFormed_resolve
    (hFiles : world.files.WellFormed)
    (home : Path) :
    (Toolchain.resolve home world).2.files.WellFormed ∧
      (Toolchain.resolve home world).2.files.Keeps world.files := by
  rcases (Toolchain.resolve_files home world).2 with
    hSame | ⟨q, mode, bits, content, hStat, hPut⟩
  · rw [hSame]
    exact ⟨hFiles, .refl _⟩
  · have hFile := node?_of_stat hStat
    have hNe : q ≠ [] := by
      rintro rfl
      simp at hFile
    rw [hPut]
    exact ⟨hFiles.put_file hFile rfl bits content,
      .put_over hNe _ hFile⟩

/-
  A build that fails spares all files outside of the workspace, if
  that stays where it is while the project's place is cleared.
-/
theorem spares_of_failed
    {behave : Tool.Behaviour}
    (hTool : behave.Confined)
    {settings : Settings}
    {started : Coordinator × World}
    (hStarted :
      Coordinator.ofSettings (Tool.behaving behave) settings world =
        started)
    {request : Request}
    (hSafe : request.Safe)
    (hFiles : world.files.WellFormed)
    {links : Nat}
    (hReach :
      world.files.reach world.dir settings.workspace =
        .ok (root, links))
    (hWorkspace :
      ".." ∉ settings.workspace.parts ∨
        (reconcile .standard (dir settings.workspace request)
          started.2).2.files.names world.dir Node.isDirectory
            settings.workspace = true)
    {failure : Build.Failure}
    (hFailed :
      (started.1.build request started.2).1 = .error failure) :
    Spares root (Toolchain.bundled settings.mavenHome) world
      (started.1.build request started.2).2 := by
  have hSpares := spares_resolve root settings.mavenHome world
  rcases wellFormed_resolve hFiles settings.mavenHome with
    ⟨hWellFormed, hKeeps⟩
  have hStays := reach_of_keeps hKeeps hReach
  have hDir := (Toolchain.resolve_files settings.mavenHome world).1
  rcases started with ⟨coordinator, clear⟩
  simp only at hWorkspace hFailed ⊢
  rw [ofSettings_apply, Prod.mk.injEq] at hStarted
  rcases hStarted with ⟨hCoordinator, hClear⟩
  rw [hClear] at hSpares hWellFormed hStays hDir
  have hPath : coordinator.workspace = settings.workspace := by
    rw [← hCoordinator]
  have hRun : coordinator.run = Tool.behaving behave := by
    rw [← hCoordinator]
  rw [← hDir, ← hPath] at hStays hWorkspace
  intro place bits content hNode hOut
  have hSame :=
    Coordinator.failed_outside hTool hRun hSafe hWellFormed hStays
      hWorkspace hFailed hOut
  rw [hSame]
  exact hSpares place bits content hNode hOut

/-
  A run that builds what a file asks for and a server that is sent
  the bytes of that file agree, whatever the tool does.  The run ends
  well exactly if the build succeeded and the artifact was written,
  and then the output holds what the server answers with.  Where the
  bytes are no request, or the build of a safe request fails, no file
  outside of the workspace has changed, so neither has an output that
  was there before.
-/
theorem run_agrees
    (around : Surroundings)
    (behave : Tool.Behaviour)
    (hRun : around.run = Tool.behaving behave)
    (args : List String)
    (order : Order)
    (hOrder : Order.read args = .ok order)
    (path : Path)
    (output? : Option Path)
    (hTask : order.task = .build path output?)
    (world : World)
    (root : Place)
    (mode : Nat)
    (hWorkspace :
      world.files.stat world.dir true (order.settings around).workspace =
        .ok (root, .directory mode))
    (post : Http.Request)
    (hSubmitted : Http.Server.Submitted post)
    (hFile : world.files.read world.dir path = .ok post.body) :
    let settings := order.settings around
    let started := Coordinator.ofSettings around.run settings world
    let program := Toolchain.bundled settings.mavenHome
    let ran := run around args world
    let answered :=
      Http.Server.handle ⟨started.1, settings.staticDir⟩ post started.2
    Agree (order.style around.env) path output? post.body world started
        ran answered ∧
      (ran.1.code = 0 ↔
        ∃ request artifact built files,
          Request.read post.body = .ok request ∧
            started.1.build request started.2 = (.ok artifact, built) ∧
              built.files.write world.dir
                  (output?.getD (defaultOutput request))
                  artifact.bytes =
                .ok files) ∧
      (ran.1.code = 0 →
        ∀ request,
          Request.read post.body = .ok request →
            answered.1.status = 200 ∧
              (ran.2.files.device? world.dir
                    (output?.getD (defaultOutput request)) =
                  none →
                ran.2.files.read world.dir
                    (output?.getD (defaultOutput request)) =
                  .ok answered.1.body) ∧
                ∃ place, ∀ q, q ≠ place →
                  ran.2.files.node? q = answered.2.files.node? q) ∧
      (∀ fault,
        Request.read post.body = .error fault →
          Spares root program world ran.2) ∧
      (behave.Confined →
        world.files.WellFormed →
          ∀ request failure,
            Request.read post.body = .ok request →
              request.Safe →
                (".." ∉ settings.workspace.parts ∨
                  (reconcile .standard (dir settings.workspace request)
                    started.2).2.files.names world.dir
                      Node.isDirectory settings.workspace = true) →
                  (started.1.build request started.2).1 =
                      .error failure →
                    Spares root program world ran.2) := by
  intro settings started program ran answered
  have hNames :
      world.files.names world.dir Node.isDirectory settings.workspace =
        true := by
    rw [names, hWorkspace]
    rfl
  have hAgree :
      Agree (order.style around.env) path output? post.body world started
        ran answered :=
    agree_of_build hRun hOrder hTask hFile hSubmitted hNames _
  refine ⟨hAgree, hAgree.code_eq_zero_iff, ?_, ?_, ?_⟩
  · intro hCode request hRead
    rcases hAgree.of_code_eq_zero hCode hRead with
      ⟨artifact, built, -, hWrite, hStatus, hBody, hLeft⟩
    rw [hBody, hLeft]
    exact ⟨hStatus, read_of_write hWrite, write_frame hWrite⟩
  · intro fault hRead
    have hSame : ran.2 = world :=
      (run_of_error hOrder hTask
        (yields_build_of_malformed hFile hRead)).2
    rw [hSame]
    exact .refl root program world
  · intro hTool hFiles request failure hRead hSafe hStays hFailed
    have hLeft : ran.2 = (started.1.build request started.2).2 :=
      run_of_failed hOrder hTask hFile hNames rfl hRead hFailed
    have hStarted :
        Coordinator.ofSettings (Tool.behaving behave) settings world =
          started := by
      rw [← hRun]
    rcases names_isDirectory_iff.mp hNames with ⟨hCheck, -⟩
    rcases (stat_directory_iff hCheck root).mp ⟨mode, hWorkspace⟩ with
      ⟨links, hReach⟩
    rw [hLeft]
    exact spares_of_failed hTool hStarted hSafe hFiles hReach hStays
      hFailed

/- A program in a directory with nothing else around it. -/
def alone (behave : Tool.Behaviour) : Surroundings where
  env := []
  programDir := "/"
  run := Tool.behaving behave
  start := fun _ => pure (refuse .noEntry)
  network := ⟨fun _ => none, fun _ => none, 1024, []⟩
  visits := []

/- What asks the server for a plugin with texts of its own. -/
def asking : Http.Request where
  method := "POST"
  uri := "/api/build"
  headers := []
  body :=
    Utf8.encode
      ("\x7b\"pluginName\":\"Y\",\"mainClass\":\"M\"," ++
        "\"pluginYml\":\"y\",\"pomXml\":\"m\"\x7d")

theorem read_asking :
    Request.read asking.body = .ok (Coordinator.sample "Y") := by
  decide +kernel

theorem submitted_asking : Http.Server.Submitted asking :=
  ⟨by decide, by decide +kernel, by decide +kernel⟩

/- A tool that is not there. -/
def missing : Tool.Behaviour :=
  fun _ fs _ => (refuse .noEntry, fs)

/- The workspace, a file that asks, and one where the output goes. -/
def drafted : World :=
  Coordinator.holding
    [(["builds"], .directory dirMode),
      (["r.json"], .file fileMode asking.body),
      (["o.jar"], .file fileMode [0])]

/- A tool that leaves an archive. -/
def archiving : Tool.Behaviour :=
  Tool.steps fun _ _ => Coordinator.packing

/- The words of a run that builds from the one and writes the other. -/
def words : List String :=
  ["build", "/r.json", "-o", "/o.jar"]

/- What they order. -/
def drafting : Order :=
  ⟨none, none, false, .build "/r.json" (some "/o.jar")⟩

/- What that run builds. -/
def drafts (behave : Tool.Behaviour) : Build.Result × World :=
  let started :=
    Coordinator.ofSettings (alone behave).run
      (drafting.settings (alone behave)) drafted
  started.1.build (Coordinator.sample "Y") started.2

/-
  With a tool that leaves an archive the run writes it over the old
  output, and without a tool it leaves the old output there.
-/
theorem run_agrees_of_draft :
    ((run (alone archiving) words drafted).1.code = 0 ∧
        (run (alone archiving) words drafted).2.files.read
            drafted.dir "/o.jar" =
          .ok [1]) ∧
      (run (alone missing) words drafted).1.code ≠ 0 ∧
        ∃ bits,
          (run (alone missing) words drafted).2.files.node?
              ["o.jar"] =
            some (.file bits [0]) := by
  have hOrder : Order.read words = .ok drafting := by
    decide +kernel
  have hFile :
      drafted.files.read drafted.dir "/r.json" = .ok asking.body := by
    decide +kernel
  constructor
  · have hWorkspace :
        drafted.files.stat drafted.dir true
            (drafting.settings (alone archiving)).workspace =
          .ok (["builds"], .directory dirMode) := by
      decide +kernel
    rcases run_agrees (alone archiving) archiving rfl words
        drafting hOrder "/r.json" (some "/o.jar") rfl drafted _ _
        hWorkspace asking submitted_asking hFile with
      ⟨hAgree, -, hOutput, -⟩
    have hBuilt :
        (drafts archiving).1 =
            .ok ⟨"/builds/Y/target/a.jar", [1]⟩ ∧
          ((drafts archiving).2.files.write drafted.dir "/o.jar"
              [1]).map
                (fun files => files.device? drafted.dir "/o.jar") =
            .ok none := by
      decide +kernel
    rcases hMade : drafts archiving with ⟨result, built⟩
    rw [hMade] at hBuilt
    simp only at hBuilt
    rcases hBuilt with ⟨rfl, hDevice⟩
    cases hWrite : built.files.write drafted.dir "/o.jar" [1] with
    | error fault =>
        rw [hWrite] at hDevice
        cases hDevice
    | ok files =>
        rcases hAgree.of_written read_asking hMade hWrite with
          ⟨hZero, rfl, -, hBody⟩
        rw [hWrite] at hDevice
        rcases hOutput hZero _ read_asking with ⟨-, hRead, -⟩
        rw [hBody] at hRead
        exact ⟨hZero, hRead (Except.ok.inj hDevice)⟩
  · have hWorkspace :
        drafted.files.stat drafted.dir true
            (drafting.settings (alone missing)).workspace =
          .ok (["builds"], .directory dirMode) := by
      decide +kernel
    rcases run_agrees (alone missing) missing rfl words
        drafting hOrder "/r.json" (some "/o.jar") rfl drafted _ _
        hWorkspace asking submitted_asking hFile with
      ⟨-, hCode, -, -, hSpares⟩
    have hFailed :
        (drafts missing).1 =
          .error (.tool (.spawn "mvn" (.system .noEntry))) := by
      decide +kernel
    have hTool : missing.Confined := ⟨fun _ => rfl, fun _ _ _ => rfl⟩
    have hSafe : (Coordinator.sample "Y").Safe :=
      ⟨by decide, by decide, by decide⟩
    have hKept :=
      hSpares hTool (.of_entries (by decide)) (Coordinator.sample "Y") _
        read_asking hSafe (Or.inl (by decide +kernel)) hFailed
        ["o.jar"] fileMode [0] (by decide) (by decide)
    rcases hKept with ⟨bits, hBits, -⟩
    refine ⟨?_, bits, hBits⟩
    intro hZero
    rcases hCode.mp hZero with
      ⟨request, artifact, built, -, hRead, hMade, -⟩
    cases read_asking.symm.trans hRead
    have hOk : (drafts missing).1 = .ok artifact :=
      congrArg Prod.fst hMade
    rw [hFailed] at hOk
    cases hOk

/-
  A workspace that is reached through a link in the project's own
  directory, with an output beside it.
-/
def turning : World :=
  Coordinator.holding
    [(["q", "r", "s", "t"], .directory dirMode),
      (["q", "r", "s"], .directory dirMode),
      (["q", "r"], .directory dirMode),
      (["q", "Y", "M"], .link "../r/s/t"),
      (["q", "Y"], .directory dirMode),
      (["q"], .directory dirMode),
      (["Y", "pom.xml"], .file fileMode [0]),
      (["Y"], .directory dirMode),
      (["r.json"], .file fileMode asking.body)]

/- The order that names the workspace so. -/
def turned : Order :=
  ⟨none, some "q/Y/M/../../..", false,
    .build "r.json" (some "Y/pom.xml")⟩

/- The workspace, a file that asks, and a device for the output. -/
def drained : World :=
  Coordinator.holding
    [(["builds"], .directory dirMode),
      (["r.json"], .file fileMode asking.body),
      (["null"], .device .null)]

/- The order that sends the output there. -/
def draining : Order :=
  ⟨none, none, false, .build "/r.json" (some "/null")⟩

/-
  Reconciling removes the link, the workspace is made anew as a
  directory where the link was, and the way out of that leads
  elsewhere: the project of a safe request is laid out over an output
  that was outside of the workspace.  And where the output is a
  device the run ends well, but nothing of the archive is read there.
-/
theorem run_overwrites_output :
    (let around := alone missing
    let args :=
      ["--build-dir", "q/Y/M/../../..", "build", "r.json", "-o",
        "Y/pom.xml"]
    let settings := turned.settings around
    let started := Coordinator.ofSettings around.run settings turning
    let request := Coordinator.sample "Y"
    Order.read args = .ok turned ∧
      missing.Confined ∧
      turning.files.WellFormed ∧
      turning.files.stat [] true settings.workspace =
        .ok (["q"], .directory dirMode) ∧
      turning.files.read [] "r.json" = .ok asking.body ∧
      Request.read asking.body = .ok request ∧
      request.Safe ∧
      (started.1.build request started.2).1 =
        .error (.tool (.spawn "mvn" (.system .noEntry))) ∧
      turning.files.stat [] true "Y/pom.xml" =
        .ok (["Y", "pom.xml"], .file fileMode [0]) ∧
      ¬ ["q"] <+: ["Y", "pom.xml"] ∧
      (run around args turning).2.files.read [] "Y/pom.xml" =
        .ok (Utf8.encode "m")) ∧
    (let around := alone archiving
    let args := ["build", "/r.json", "-o", "/null"]
    let settings := draining.settings around
    let started := Coordinator.ofSettings around.run settings drained
    let ran := run around args drained
    let answered :=
      Http.Server.handle ⟨started.1, settings.staticDir⟩ asking
        started.2
    Order.read args = .ok draining ∧
      ran.1.code = 0 ∧
      answered.1.status = 200 ∧
      answered.1.body = [1] ∧
      ran.2.files.read [] "/null" = .ok []) := by
  constructor
  · intro around args settings started request
    have hOrder : Order.read args = .ok turned := by
      decide +kernel
    have hWorkspace :
        turning.files.stat [] true settings.workspace =
          .ok (["q"], .directory dirMode) := by
      decide +kernel
    have hFile : turning.files.read [] "r.json" = .ok asking.body := by
      decide +kernel
    have hBuilt :
        (started.1.build request started.2).1 =
            .error (.tool (.spawn "mvn" (.system .noEntry))) ∧
          (started.1.build request started.2).2.files.read []
              "Y/pom.xml" =
            .ok (Utf8.encode "m") := by
      decide +kernel
    have hNames :
        turning.files.names [] Node.isDirectory settings.workspace =
          true := by
      rw [names, hWorkspace]
      rfl
    have hRan :
        (run around args turning).2 =
          (started.1.build request started.2).2 :=
      run_of_failed hOrder rfl hFile hNames rfl read_asking hBuilt.1
    refine ⟨hOrder, ⟨fun _ => rfl, fun _ _ _ => rfl⟩,
      .of_entries (by decide), hWorkspace, hFile, read_asking,
      ⟨by decide, by decide, by decide⟩, hBuilt.1, by decide +kernel,
      by decide, ?_⟩
    rw [hRan]
    exact hBuilt.2
  · intro around args settings started ran answered
    have hOrder : Order.read args = .ok draining := by
      decide +kernel
    have hFile : drained.files.read [] "/r.json" = .ok asking.body := by
      decide +kernel
    have hNames :
        drained.files.names [] Node.isDirectory settings.workspace =
          true := by
      decide +kernel
    have hRun : around.run = Tool.behaving archiving := rfl
    have hAgree :
        Agree (draining.style around.env) "/r.json" (some "/null")
          asking.body drained started ran answered :=
      agree_of_build hRun hOrder rfl hFile submitted_asking hNames _
    have hBuilt :
        let built := started.1.build (Coordinator.sample "Y") started.2
        built.1 = .ok ⟨"/builds/Y/target/a.jar", [1]⟩ ∧
          (built.2.files.write [] "/null" [1]).map
              (fun files => files.read [] "/null") =
            .ok (.ok []) := by
      decide +kernel
    rcases hMade :
        started.1.build (Coordinator.sample "Y") started.2 with
      ⟨result, built⟩
    rw [hMade] at hBuilt
    rcases hBuilt with ⟨rfl, hLost⟩
    cases hWrite : built.files.write [] "/null" [1] with
    | error fault =>
        rw [hWrite] at hLost
        cases hLost
    | ok files =>
        rcases hAgree.of_written read_asking hMade hWrite with
          ⟨hZero, hFiles, hStatus, hBody⟩
        rw [hWrite] at hLost
        refine ⟨hOrder, hZero, hStatus, hBody, ?_⟩
        rw [hFiles]
        exact Except.ok.inj hLost

end Cli

end PluginStudio
