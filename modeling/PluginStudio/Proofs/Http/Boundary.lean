import PluginStudio.Http.Server
import PluginStudio.Proofs.Build.Serialization

/-
  What gets through to the builds.

  Key definitions include:
    * `PluginStudio.Build.State.Ours`
    * `PluginStudio.Http.Server.Reception`
    * `PluginStudio.Http.Server.receive`
    * `PluginStudio.Http.Server.Refused`
    * `PluginStudio.Http.Server.Traffic`
    * `PluginStudio.Http.Server.Answers`

  Main declarations:
    * `Coordinator.ours_build`, `Coordinator.Step.ours`
    * `Server.handle_apply`
    * `Server.receive_of_refused`
    * `Server.Traffic.filter`, `Server.Traffic.of_filter`
    * `Server.only_requests_pass`

  A request is received, and only then may it call for a build.
  What is refused on reception changes nothing, and no failure of
  a build is the client's.
-/

------------------------------------------------------------
-- Failures
------------------------------------------------------------

namespace PluginStudio

namespace Build

/- The failure is not the client's. -/
def Failure.Ours (failure : Failure) : Prop :=
  failure.statusCode = 500

/- If a build ended so, it was not for the client's fault. -/
def Result.Ours (result : Result) : Prop :=
  ∀ failure, result = .error failure → failure.Ours

/- If a build is about to close, its result is such a one. -/
def Point.Ours (point : Point) : Prop :=
  ∀ result, point = .close result → Result.Ours result

/- If a call has come to a result, it is such a one. -/
def Status.Ours : Status → Prop
  | running point => point.Ours
  | leaving result | finished result => Result.Ours result
  | waiting | dropped => True

/- So it is with all calls. -/
def State.Ours (state : State) : Prop :=
  ∀ (i : Nat) (call : Call),
    state.calls[i]? = some call → call.status.Ours

theorem Point.ours_failure
    {failure : Failure}
    (hOurs : failure.Ours) :
    (Point.close (.error failure)).Ours := by
  intro result hClose other hOther
  rw [← Point.close.inj hClose, Except.error.injEq] at hOther
  rw [← hOther]
  exact hOurs

theorem Point.ours_artifact (artifact : Artifact) :
    (Point.close (.ok artifact)).Ours := by
  intro result hClose other hOther
  rw [← Point.close.inj hClose] at hOther
  contradiction

/- Before its close a build has no result. -/
theorem Point.ours_of_ne_close
    {point : Point}
    (hPoint : ∀ result, point ≠ .close result) :
    point.Ours :=
  fun result hClose => absurd hClose (hPoint result)

theorem State.Ours.arrive
    {state : State}
    (hOurs : state.Ours)
    (request : Request)
    (world : World) :
    State.Ours
      { state with
        world := world
        calls := state.calls ++ [⟨request, .waiting⟩] } := by
  intro i call hCall
  rcases List.mem_append.mp (List.mem_of_getElem? hCall) with
    hOld | hNew
  · rcases List.getElem?_of_mem hOld with ⟨j, hOld⟩
    exact hOurs j call hOld
  · rw [List.mem_singleton.mp hNew]
    trivial

end Build

namespace Coordinator

open Build Studio

variable {coordinator : Coordinator} {request : Request}

/- No step of a build comes to a failure of the client's. -/
theorem ours_step
    {point next : Point}
    {world world' : World}
    (hStep :
      coordinator.step request point world = (.inl next, world')) :
    next.Ours := by
  cases point with
  | materialize =>
      rw [step, bind_apply, bind_apply, ExceptT.run] at hStep
      rcases hMade :
          Project.materialize coordinator.workspace request
            (pause world).2 with ⟨failure | tree, after⟩
      · rw [hMade] at hStep
        cases hStep
        exact Point.ours_failure rfl
      · rw [hMade] at hStep
        cases hStep
        exact Point.ours_of_ne_close (by simp)
  | invoke root =>
      rw [step, bind_apply, ExceptT.run] at hStep
      rcases hRun :
          Tool.invoke coordinator.run coordinator.tool root world with
        ⟨failure | outcome, after⟩
      · rw [hRun] at hStep
        cases hStep
        exact Point.ours_failure rfl
      · rw [hRun] at hStep
        simp only at hStep
        split_ifs at hStep
        · cases hStep
          exact Point.ours_of_ne_close (by simp)
        · cases hStep
          exact Point.ours_failure rfl
  | select root =>
      rw [step, bind_apply, ExceptT.run] at hStep
      rcases hSelect : Artifact.select root world with
        ⟨failure | path, after⟩
      · rw [hSelect] at hStep
        cases hStep
        exact Point.ours_failure rfl
      · rw [hSelect] at hStep
        cases hStep
        exact Point.ours_of_ne_close (by simp)
  | read root path =>
      rw [step, bind_apply, bind_apply, ExceptT.run] at hStep
      rcases hLoad : Artifact.readAt path (pause world).2 with
        ⟨failure | artifact, after⟩
      · rw [hLoad] at hStep
        cases hStep
        exact Point.ours_failure rfl
      · rw [hLoad] at hStep
        cases hStep
        exact Point.ours_of_ne_close (by simp)
  | cleanup root artifact =>
      cases hStep
      exact Point.ours_artifact artifact
  | close result =>
      rw [step_close] at hStep
      cases hStep
  | _ =>
      cases hStep
      exact Point.ours_of_ne_close (by simp)

/- A build ends with the result that it closed with. -/
theorem ours_finish
    {point : Point}
    {result : Result}
    {world world' : World}
    (hOurs : point.Ours)
    (hStep :
      coordinator.step request point world = (.inr result, world')) :
    Result.Ours result := by
  by_cases hClose : ∃ closed, point = .close closed
  · rcases hClose with ⟨closed, rfl⟩
    rw [step_close, Prod.mk.injEq, Sum.inr.injEq] at hStep
    rw [← hStep.1]
    exact hOurs closed rfl
  · rcases step_of_ne_close coordinator request
      (fun closed hEq => hClose ⟨closed, hEq⟩) world with
      ⟨next, after, hNext⟩
    rw [hNext] at hStep
    cases hStep

theorem ours_leads
    {here there : Point × World}
    (hLeads : coordinator.Leads request here there)
    (hOurs : here.1.Ours) :
    there.1.Ours := by
  induction hLeads with
  | refl => exact hOurs
  | tail _ hNext _ => exact ours_step hNext

/- A build never fails for its request. -/
theorem ours_build
    (coordinator : Coordinator)
    (request : Request)
    (world : World) :
    Result.Ours (coordinator.build request world).1 := by
  have hStart : Point.announceProject.Ours :=
    Point.ours_of_ne_close (by simp)
  rw [build_apply]
  exact ours_leads (leads_stages coordinator request world) hStart _ rfl

/- No step of any call does either. -/
theorem Step.ours
    {state state' : State}
    (hStep : coordinator.Step state state')
    (hOurs : state.Ours) :
    state'.Ours := by
  cases hStep with
  | arrive request => exact hOurs.arrive request state.world
  | grant hSlot hAt =>
      apply State.forall_put (fun _ call => call.status.Ours)
      · exact Point.ours_of_ne_close (by simp)
      · intro j call _ hCall
        exact hOurs j call hCall
  | work hAt hWork =>
      apply State.forall_put (fun _ call => call.status.Ours)
      · exact ours_step hWork
      · intro j call _ hCall
        exact hOurs j call hCall
  | finish hAt hFinish =>
      apply State.forall_put (fun _ call => call.status.Ours)
      · exact ours_finish (hOurs _ _ hAt) hFinish
      · intro j call _ hCall
        exact hOurs j call hCall
  | release hAt =>
      have hLeaving := hOurs _ _ hAt
      apply State.forall_put (fun _ call => call.status.Ours)
      · exact hLeaving
      · intro j call _ hCall
        exact hOurs j call hCall

end Coordinator

end PluginStudio

------------------------------------------------------------
-- Reception
------------------------------------------------------------

namespace PluginStudio

namespace Http

namespace Server

/-
  What a request comes to before anything is built: an answer, or
  a call for a build.
-/
inductive Reception where
  | answered (response : Response)
  | called (plugin : PluginStudio.Request)

/- Receive a request. -/
def receive
    (staticDir : Path)
    (request : Request) : Studio Reception := do
  if (Uri.ofText request.uri).path = buildPath then
    if request.method ≠ "POST" then
      return .answered
        ((Response.bare 405).withHeader "allow" "POST").withLength
    else if largestBody < request.body.length then
      return .answered tooLarge.withLength
    else
      match Build.readRequest request.body with
      | .error failure => return .answered failure.response.withLength
      | .ok plugin =>
        Studio.report .server .info "build requested"
          [⟨"plugin", plugin.pluginName, false⟩]
        return .called plugin
  else
    let now := (← get).clock / 1000
    let response ← Studio.inspect fun fs dir =>
      handleFile fs dir now staticDir request
    return .answered response

/- The answer to what a build ended with. -/
def conclude
    (plugin : PluginStudio.Request) :
    Build.Result → Studio Response
  | .error failure => return failure.response.withLength
  | .ok artifact => do
    Studio.report .server .info "sending artifact"
      [⟨"plugin", plugin.pluginName, false⟩,
        ⟨"bytes", toString artifact.bytes.length, false⟩]
    return (Response.artifact plugin.pluginName artifact.bytes).withLength

/- A request is received, built if it calls for that, and answered. -/
theorem handle_apply
    (server : Server)
    (request : Request)
    (world : World) :
    server.handle request world =
      match receive server.staticDir request world with
      | (.answered response, world') => (response, world')
      | (.called plugin, world') =>
        conclude plugin (server.coordinator.build plugin world').1
          (server.coordinator.build plugin world').2 := by
  unfold handle receive
  split
  · unfold handleBuild
    split
    · rfl
    split
    · rfl
    unfold build
    cases Build.readRequest request.body with
    | error failure => rfl
    | ok plugin =>
        simp only [Studio.bind_apply, Studio.pure_apply]
        generalize server.coordinator.build plugin _ = built
        rcases built with ⟨failure | artifact, world'⟩ <;> rfl
  · rfl

/- A `POST` to the path that takes builds, and not too large. -/
structure Submitted (request : Request) : Prop where
  method : request.method = "POST"
  path : (Uri.ofText request.uri).path = buildPath
  size : request.body.length ≤ largestBody

/-
  Anything but a `POST` to the path that takes builds, or too
  large, or nothing that can be read.
-/
def Refused (request : Request) : Prop :=
  ¬ (request.method = "POST" ∧
      (Uri.ofText request.uri).path = buildPath) ∨
    largestBody < request.body.length ∨
    ∃ failure, Build.readRequest request.body = .error failure

/- The world after a call for a build has been reported. -/
def announced
    (plugin : PluginStudio.Request)
    (world : World) : World :=
  (Studio.report .server .info "build requested"
    [⟨"plugin", plugin.pluginName, false⟩] world).2

theorem receive_of_submitted
    {request : Request}
    (hSubmitted : Submitted request)
    (staticDir : Path)
    (world : World) :
    receive staticDir request world =
      match Build.readRequest request.body with
      | .error failure =>
        (.answered failure.response.withLength, world)
      | .ok plugin => (.called plugin, announced plugin world) := by
  unfold receive
  rw [if_pos hSubmitted.path, if_neg (by simp [hSubmitted.method]),
    if_neg (by simpa using hSubmitted.size)]
  cases Build.readRequest request.body <;> rfl

/- What is refused is answered, and nothing else happens. -/
theorem receive_of_refused
    {request : Request}
    (hRefused : Refused request)
    (staticDir : Path)
    (world : World) :
    ∃ response,
      receive staticDir request world = (.answered response, world) := by
  unfold receive
  by_cases hPath : (Uri.ofText request.uri).path = buildPath
  · rw [if_pos hPath]
    by_cases hMethod : request.method = "POST"
    · rw [if_neg (by simp [hMethod])]
      by_cases hLarge : largestBody < request.body.length
      · rw [if_pos hLarge]
        exact ⟨_, rfl⟩
      · rw [if_neg hLarge]
        rcases hRefused with hOther | hLarge' | ⟨failure, hRead⟩
        · exact absurd ⟨hMethod, hPath⟩ hOther
        · exact absurd hLarge' hLarge
        · rw [hRead]
          exact ⟨_, rfl⟩
    · rw [if_pos hMethod]
      exact ⟨_, rfl⟩
  · rw [if_neg hPath]
    exact ⟨_, rfl⟩

end Server

end Http

end PluginStudio

------------------------------------------------------------
-- Traffic
------------------------------------------------------------

namespace PluginStudio

namespace Http

namespace Server

/- What a request that comes in does to the calls of builds. -/
def intake
    (server : Server)
    (request : Request)
    (state : Build.State) : Build.State :=
  match receive server.staticDir request state.world with
  | (.answered _, world) => { state with world := world }
  | (.called plugin, world) =>
    { state with
      world := world
      calls := state.calls ++ [⟨plugin, .waiting⟩] }

/- A request that is refused takes no slot and changes no phase. -/
theorem intake_of_refused
    (server : Server)
    {request : Request}
    (hRefused : Refused request)
    (state : Build.State) :
    server.intake request state = state := by
  rcases receive_of_refused hRefused server.staticDir state.world with
    ⟨response, hReceive⟩
  unfold intake
  rw [hReceive]

/- What can be read waits for the slot, and has done nothing yet. -/
theorem intake_of_read
    (server : Server)
    {request : Request}
    (hSubmitted : Submitted request)
    {plugin : PluginStudio.Request}
    (hRead : Build.readRequest request.body = .ok plugin)
    (state : Build.State) :
    server.intake request state =
      { state with
        world := announced plugin state.world
        calls := state.calls ++ [⟨plugin, .waiting⟩] } := by
  unfold intake
  rw [receive_of_submitted hSubmitted, hRead]

/-
  Where the calls of builds may be after requests have come in,
  in that order, while the calls went on.
-/
inductive Traffic
    (server : Server)
    (start : Build.State) :
    List Request → Build.State → Prop where
  | none : Traffic server start [] start
  | receive
      {requests : List Request}
      {state : Build.State}
      (hTraffic : Traffic server start requests state)
      (request : Request) :
      Traffic server start (requests ++ [request])
        (server.intake request state)
  | work
      {requests : List Request}
      {state state' : Build.State}
      (hTraffic : Traffic server start requests state)
      (hStep : server.coordinator.Step state state') :
      Traffic server start requests state'

namespace Traffic

variable {server : Server} {start state : Build.State}
variable {requests : List Request} {keep : Request → Bool}

/- Without requests that are refused, the calls are the same. -/
theorem filter
    (hKeep : ∀ request, keep request = false → Refused request)
    (hTraffic : server.Traffic start requests state) :
    server.Traffic start (requests.filter keep) state := by
  induction hTraffic with
  | none => exact .none
  | work _ hStep ih => exact .work ih hStep
  | receive _ request ih =>
      rw [List.filter_append]
      by_cases hKept : keep request = true
      · rw [List.filter_cons_of_pos hKept]
        exact .receive ih request
      · rw [List.filter_cons_of_neg hKept, List.filter_nil,
          List.append_nil,
          intake_of_refused server
            (hKeep request (by simpa using hKept))]
        exact ih

/- More requests that are refused can come in at the end. -/
theorem append
    (hTraffic : server.Traffic start requests state)
    {more : List Request}
    (hMore : ∀ request ∈ more, Refused request) :
    server.Traffic start (requests ++ more) state := by
  induction more using List.reverseRecOn with
  | nil =>
      rw [List.append_nil]
      exact hTraffic
  | append_singleton more request ih =>
      rw [List.forall_mem_append] at hMore
      have hNext := receive (ih hMore.1) request
      rw [intake_of_refused server (hMore.2 request (by simp)),
        List.append_assoc] at hNext
      exact hNext

/- Requests that are refused can come in anywhere. -/
theorem of_filter
    (hKeep : ∀ request, keep request = false → Refused request)
    (hTraffic : server.Traffic start (requests.filter keep) state) :
    server.Traffic start requests state := by
  generalize hKept : requests.filter keep = kept at hTraffic
  induction hTraffic generalizing requests with
  | none =>
      have hAll : ∀ request ∈ requests, Refused request := by
        intro request hMem
        apply hKeep
        simpa using List.filter_eq_nil_iff.mp hKept request hMem
      exact append .none hAll
  | work _ hStep ih => exact .work (ih hKept) hStep
  | @receive kept state _ request ih =>
      rw [List.filter_eq_append_iff] at hKept
      rcases hKept with ⟨front, rest, rfl, hFront, hRest⟩
      rw [List.filter_eq_cons_iff] at hRest
      rcases hRest with ⟨skipped, last, rfl, hSkipped, _, hLast⟩
      have hSkip : ∀ request ∈ skipped, Refused request := by
        intro other hMem
        apply hKeep
        simpa using hSkipped other hMem
      have hRest : ∀ request ∈ last, Refused request := by
        intro other hMem
        apply hKeep
        simpa using List.filter_eq_nil_iff.mp hLast other hMem
      have hNext :=
        append (receive (append (ih hFront) hSkip) request) hRest
      simpa [List.append_assoc] using hNext

/- However requests come in, no call fails for the client's fault. -/
theorem ours
    {world : World}
    (hTraffic : server.Traffic (.initial world) requests state) :
    state.Ours := by
  induction hTraffic with
  | none =>
      intro i call hCall
      simp [Build.State.initial] at hCall
  | work _ hStep ih => exact hStep.ours ih
  | @receive _ state _ request ih =>
      unfold intake
      rcases Server.receive server.staticDir request state.world with
        ⟨response | plugin, world'⟩
      · exact ih
      · exact ih.arrive plugin world'

end Traffic

end Server

end Http

end PluginStudio

------------------------------------------------------------
-- Answers
------------------------------------------------------------

namespace PluginStudio

namespace Http

namespace Server

/-
  The answer tells what a build ended with: it is the archive, or
  it says that something failed here.
-/
structure Answers
    (answer : Response)
    (result : Build.Result) : Prop where
  not_bad : answer.status ≠ 400
  archive :
    ∀ bytes,
      answer.status = 200 ∧ answer.body = bytes ↔
        ∃ artifact, result = .ok artifact ∧ artifact.bytes = bytes
  failed : answer.status = 500 ↔ ∃ failure, result = .error failure

theorem answers_conclude
    (plugin : PluginStudio.Request)
    {result : Build.Result}
    (hOurs : Build.Result.Ours result)
    (world : World) :
    Answers (conclude plugin result world).1 result := by
  cases result with
  | error failure =>
      have hAnswer :
          (conclude plugin (.error failure) world).1 =
            failure.response.withLength :=
        rfl
      have hStatus : failure.statusCode = 500 := hOurs failure rfl
      rw [hAnswer]
      constructor <;>
        simp [Build.Failure.response, Response.withLength,
          Response.withHeader, hStatus]
  | ok artifact =>
      have hAnswer :
          (conclude plugin (.ok artifact) world).1 =
            (Response.artifact plugin.pluginName
              artifact.bytes).withLength :=
        rfl
      rw [hAnswer]
      constructor <;>
        simp [Response.artifact, Response.withLength,
          Response.withHeader]

/- What can be read is answered by what its build ended with. -/
theorem answers_of_read
    (server : Server)
    {request : Request}
    (hSubmitted : Submitted request)
    {plugin : PluginStudio.Request}
    (hRead : Build.readRequest request.body = .ok plugin)
    (world : World) :
    Answers (server.handle request world).1
      (server.coordinator.build plugin (announced plugin world)).1 := by
  rw [handle_apply, receive_of_submitted hSubmitted, hRead]
  exact answers_conclude plugin (server.coordinator.ours_build plugin _) _

/- What cannot be read is the client's fault. -/
theorem handle_of_unread
    (server : Server)
    {request : Request}
    (hSubmitted : Submitted request)
    {failure : Build.Failure}
    (hRead : Build.readRequest request.body = .error failure)
    (world : World) :
    (server.handle request world).1.status = 400 := by
  rw [handle_apply, receive_of_submitted hSubmitted, hRead]
  unfold Build.readRequest at hRead
  split at hRead
  · contradiction
  · rw [← Except.error.inj hRead]
    rfl

/-
  Only requests for builds get through.  Whatever else comes in
  leaves the files, the slot, the calls and the phase as they
  are, among whatever other requests it comes in.  A request that
  was submitted calls for a build if it can be read, and is
  answered by that and by what the build ended with, also if the
  call had to wait for others.
-/
theorem only_requests_pass (server : Server) :
    (∀ request,
      Refused request →
        ∀ state : Build.State,
          server.intake request state = state ∧
            (server.handle request state.world).2 = state.world) ∧
      (∀ (start state : Build.State)
          (requests : List Request)
          (keep : Request → Bool),
        (∀ request, keep request = false → Refused request) →
          (server.Traffic start requests state ↔
            server.Traffic start (requests.filter keep) state)) ∧
      (∀ (request : Request) (world : World),
        Submitted request →
          let answer := (server.handle request world).1
          let built := fun plugin : PluginStudio.Request =>
            (server.coordinator.build plugin
              (announced plugin world)).1
          (answer.status = 400 ↔
              ∃ failure,
                Build.readRequest request.body = .error failure) ∧
            (∀ bytes,
              answer.status = 200 ∧ answer.body = bytes ↔
                ∃ plugin artifact,
                  Build.readRequest request.body = .ok plugin ∧
                    built plugin = .ok artifact ∧
                      artifact.bytes = bytes) ∧
            (answer.status = 500 ↔
              ∃ plugin failure,
                Build.readRequest request.body = .ok plugin ∧
                  built plugin = .error failure)) ∧
      (∀ (request : Request) (plugin : PluginStudio.Request),
        Submitted request →
          Build.readRequest request.body = .ok plugin →
            ∀ state : Build.State,
              server.intake request state =
                { state with
                  world := announced plugin state.world
                  calls := state.calls ++ [⟨plugin, .waiting⟩] }) ∧
      ∀ (world : World) (requests : List Request)
          (state : Build.State),
        server.Traffic (.initial world) requests state →
          ∀ i plugin result,
            state.At i plugin (.finished result) →
              ∀ world',
                Answers (conclude plugin result world').1 result := by
  refine ⟨?_, ?_, ?_, ?_, ?_⟩
  · intro request hRefused state
    refine ⟨intake_of_refused server hRefused state, ?_⟩
    rcases receive_of_refused hRefused server.staticDir
      state.world with ⟨response, hReceive⟩
    rw [handle_apply, hReceive]
  · intro start state requests keep hKeep
    exact ⟨.filter hKeep, .of_filter hKeep⟩
  · intro request world hSubmitted
    dsimp only
    cases hRead : Build.readRequest request.body with
    | error failure =>
        have hStatus := handle_of_unread server hSubmitted hRead world
        simp [hStatus]
    | ok plugin =>
        have hAnswers := answers_of_read server hSubmitted hRead world
        simp [hAnswers.not_bad, hAnswers.archive, hAnswers.failed]
  · intro request plugin hSubmitted hRead state
    exact intake_of_read server hSubmitted hRead state
  · intro world requests state hTraffic i plugin result hAt world'
    exact answers_conclude plugin (hTraffic.ours i _ hAt) world'

/- A server whose tool cannot be run, and nothing in its files. -/
def idle : Server where
  coordinator :=
    { workspace := "/builds"
      tool := .direct "mvn" "/maven"
      run := fun _ world => (.error (.system .noEntry), world) }
  staticDir := "/static"

def nowhere : World where
  files := .empty
  dir := []
  clock := 0
  journal := []
  moments := []

/- Someone only looks at the path that takes builds. -/
def glance : Request where
  method := "GET"
  uri := "/api/build"
  headers := []
  body := []

/- Someone asks for a build, but does not say of what. -/
def blank : Request where
  method := "POST"
  uri := "/api/build?now"
  headers := []
  body := []

/- Someone asks for a build of what has no name. -/
def nameless : Request where
  method := "POST"
  uri := "/api/build"
  headers := []
  body := [0x7b, 0x7d]

/-
  A look goes unnoticed, a call that says nothing is bad, and one
  that can be read waits for a build, which fails.
-/
theorem only_requests_pass_of_blank :
    idle.intake glance (.initial nowhere) = .initial nowhere ∧
      (idle.Traffic (.initial nowhere) [blank, glance]
          (.initial nowhere) ↔
        idle.Traffic (.initial nowhere) [] (.initial nowhere)) ∧
      (idle.handle blank nowhere).1.status = 400 ∧
      (idle.handle nameless nowhere).1.status = 500 ∧
      (idle.intake nameless (.initial nowhere)).calls =
        [⟨{}, .waiting⟩] := by
  have hRead :
      ∃ failure, Build.readRequest blank.body = .error failure :=
    ⟨_, rfl⟩
  have hGlance : Refused glance := Or.inl (by decide)
  have hBlank : Refused blank := Or.inr (Or.inr hRead)
  have hSubmitted : Submitted blank :=
    ⟨rfl, by decide +kernel, by decide⟩
  have hNameless : Submitted nameless :=
    ⟨rfl, by decide +kernel, by decide⟩
  have hPlugin : Build.readRequest nameless.body = .ok {} := by
    decide +kernel
  have hBuilt :
      (idle.coordinator.build {} (announced {} nowhere)).1 =
        .error (.tool (.spawn "mvn" (.system .noEntry))) := by
    decide +kernel
  have hKeep :
      ∀ request,
        decide (request ≠ blank ∧ request ≠ glance) = false →
          Refused request := by
    intro request hOther
    by_cases hEq : request = blank
    · rw [hEq]
      exact hBlank
    · have hEq' : request = glance := by
        simpa [hEq] using hOther
      rw [hEq']
      exact hGlance
  rcases only_requests_pass idle with
    ⟨hRefused, hTraffic, hAnswer, hIntake, -⟩
  refine ⟨(hRefused glance hGlance _).1, ?_, ?_, ?_, ?_⟩
  · exact hTraffic _ _ [blank, glance] _ hKeep
  · exact (hAnswer blank nowhere hSubmitted).1.mpr hRead
  · exact (hAnswer nameless nowhere hNameless).2.2.mpr
      ⟨{}, _, hPlugin, hBuilt⟩
  · rw [hIntake nameless {} hNameless hPlugin]
    rfl

end Server

end Http

end PluginStudio
