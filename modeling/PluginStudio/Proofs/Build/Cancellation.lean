import PluginStudio.Proofs.Build.Phases

/-
  Builds whose callers leave.

  Key definitions include:
    * `PluginStudio.Build.Chore`
    * `PluginStudio.Coordinator.Awaits`
    * `PluginStudio.Build.Scene`
    * `PluginStudio.Coordinator.Turn`
    * `PluginStudio.Coordinator.Attainable`

  Main declarations:
    * `Coordinator.Turn.regular`
    * `Coordinator.Turn.accounted`
    * `Coordinator.Turn.undisturbed`
    * `Coordinator.calls_exclude_despite_drops`
    * `Coordinator.drop_frees_slot`
    * `Coordinator.exists_loose_project`

  A call can be dropped wherever it waits.  It gives the slot back
  as it goes, but the phase stays as it was published, and what
  the call was waiting for goes on.  So calls still exclude each
  other, but a call and what another has left behind do not.
-/

------------------------------------------------------------
-- Leaving
------------------------------------------------------------

namespace PluginStudio

namespace Build

/-
  What a call that has the slot waits for.  It is done
  elsewhere, whether or not anyone waits for it.
-/
inductive Chore where
  | project (request : Request)
  | tool (root : Path)
  | reading (path : Path)
  | removal (root : Path)
deriving DecidableEq, Repr

namespace Chore

/- The phase that is published while the chore is done. -/
def phase : Chore → Phase
  | project _ => .materializing
  | tool _ => .building
  | reading _ => .selecting
  | removal _ => .streaming

end Chore

/- The calls, and the chores that nobody waits for. -/
structure Scene where
  state : State
  loose : List Chore

namespace Scene

def initial (world : World) : Scene :=
  ⟨.initial world, []⟩

/- No call has been dropped that was given the slot. -/
def Undisturbed (scene : Scene) : Prop :=
  ∀ i ∈ scene.state.order,
    ∀ request, ¬scene.state.At i request .dropped

end Scene

end Build

namespace Coordinator

open Build

/-
  At a point a call waits for a chore.  It does not wait for a
  tool that could not be started.
-/
inductive Awaits
    (coordinator : Coordinator)
    (request : Request)
    (world : World) : Point → Chore → Prop where
  | project :
      Awaits coordinator request world .materialize
        (.project request)
  | tool
      {root : Path}
      {outcome : Tool.Outcome}
      (hStarted :
        (Tool.invoke coordinator.run coordinator.tool root
          world).1 = .ok outcome) :
      Awaits coordinator request world (.invoke root) (.tool root)
  | reading
      {root path : Path} :
      Awaits coordinator request world (.read root path)
        (.reading path)
  | removal
      {root : Path}
      {artifact : Artifact} :
      Awaits coordinator request world (.cleanup root artifact)
        (.removal root)

/- What is noticed of a call before it waits. -/
def handOver (coordinator : Coordinator) : Point → Studio Unit
  | .invoke root => do
    Studio.report .invocation .debug "spawning build tool"
      [⟨"program", coordinator.tool.program.display, false⟩,
        ⟨"dir", root.display, false⟩]
    Studio.pause
  | _ => Studio.pause

/- Do a chore that nobody waits for. -/
def perform (coordinator : Coordinator) : Chore → Studio Unit
  | .project request => do
    let _ ← (Project.materialize coordinator.workspace request).run
  | .tool root => do
    let _ ← coordinator.run (coordinator.tool.command root)
  | .reading _ => return
  | .removal root => do
    let _ ← Studio.onFiles fun fs dir => fs.removeTree dir root

/-
  What may happen next where calls can be dropped.  A call that
  waits for the slot just goes.  One that has the slot gives it
  back and leaves behind what it was waiting for, which is done
  at any time after that.
-/
inductive Turn (coordinator : Coordinator) :
    Scene → Scene → Prop where
  | call
      {state state' : State}
      (loose : List Chore)
      (hStep : coordinator.Step state state') :
      Turn coordinator ⟨state, loose⟩ ⟨state', loose⟩
  | leave
      {state : State}
      (loose : List Chore)
      {i : Nat}
      {request : Request}
      (hAt : state.At i request .waiting) :
      Turn coordinator ⟨state, loose⟩
        ⟨state.put i request .dropped, loose⟩
  | drop
      {state : State}
      (loose : List Chore)
      {i : Nat}
      {request : Request}
      {point : Point}
      {chore : Chore}
      (hAt : state.At i request (.running point))
      (hAwaits :
        coordinator.Awaits request state.world point chore) :
      Turn coordinator ⟨state, loose⟩
        ⟨{ state.put i request .dropped with
            world := (coordinator.handOver point state.world).2
            slot := none },
          loose ++ [chore]⟩
  | perform
      (state : State)
      (before after : List Chore)
      (chore : Chore) :
      Turn coordinator ⟨state, before ++ chore :: after⟩
        ⟨{ state with
            world := (coordinator.perform chore state.world).2 },
          before ++ after⟩

/- What calls may come to if they can be dropped. -/
def Attainable
    (coordinator : Coordinator)
    (start : World) : Scene → Prop :=
  Relation.ReflTransGen coordinator.Turn (.initial start)

end Coordinator

end PluginStudio

------------------------------------------------------------
-- Exclusion
------------------------------------------------------------

namespace PluginStudio

namespace Build

namespace State

variable {state : State} {i : Nat} {request : Request}

/- A call is not changed by one that comes in. -/
theorem At.arrive
    {status : Status}
    (hAt : state.At i request status)
    (call : Call) :
    State.At { state with calls := state.calls ++ [call] } i
      request status := by
  rcases List.getElem?_eq_some_iff.mp hAt with ⟨hLt, -⟩
  unfold At
  rw [List.getElem?_append_left hLt]
  exact hAt

/- A call is not changed with one that has come elsewhere. -/
theorem At.put_of_ne
    {j : Nat}
    {request' : Request}
    {status status' : Status}
    (hAt : state.At j request' status')
    (hOther : state.At i request status)
    (hNe : status ≠ status')
    (changed : Status) :
    (state.put i request changed).At j request' status' := by
  have hIndex : i ≠ j := by
    rintro rfl
    have hSame := Option.some.inj (hOther.symm.trans hAt)
    exact hNe (Call.mk.inj hSame).2
  unfold At
  rw [calls_put_of_ne state hIndex]
  exact hAt

/- A call that waits for the slot goes. -/
theorem Regular.leave
    (hRegular : state.Regular)
    (hAt : state.At i request .waiting) :
    (state.put i request .dropped).Regular where
  fits := by
    apply forall_put
      (fun j call => call.status.Fits state.slot state.order j)
    · have hFits := hRegular.fits i _ hAt
      exact ⟨⟨False.elim, hFits.holding.mpr⟩, by simp, by simp⟩
    · intro j call _ hCall
      exact hRegular.fits j call hCall
  last := hRegular.last
  nodup := hRegular.nodup
  lt_length := hRegular.lt_length_put

/- Whatever becomes of the world. -/
theorem Regular.elsewhere
    (hRegular : state.Regular)
    (world : World) :
    Regular { state with world := world } :=
  ⟨hRegular.fits, hRegular.last, hRegular.nodup,
    hRegular.lt_length⟩

end State

end Build

namespace Coordinator

open Build

theorem Turn.regular
    {coordinator : Coordinator}
    {scene scene' : Scene}
    (hTurn : coordinator.Turn scene scene')
    (hRegular : scene.state.Regular) :
    scene'.state.Regular := by
  cases hTurn with
  | call _ hStep => exact hStep.regular hRegular
  | leave _ hAt => exact hRegular.leave hAt
  | drop _ hAt _ =>
      exact (hRegular.vacate hAt trivial id (by simp)).elsewhere _
  | perform _ _ _ => exact hRegular.elsewhere _

end Coordinator

end PluginStudio

------------------------------------------------------------
-- The Phase
------------------------------------------------------------

namespace PluginStudio

namespace Studio

open Build

/- Silent work leaves the phase as it is. -/
theorem Silent.phase
    {α : Type}
    {work : World → α × World}
    (hSilent : Silent work)
    (world : World) :
    (work world).2.phase = world.phase := by
  unfold World.phase current
  rw [hSilent]

end Studio

namespace Build

namespace Status

/- The call is on its way, or was stopped there. -/
def Unended : Status → Prop
  | running _ | dropped => True
  | waiting | leaving _ | finished _ => False

end Status

namespace State

/-
  A phase that is not idle is that of the call that was given
  the slot last, and which has not ended.
-/
def Accounted (state : State) : Prop :=
  state.world.phase ≠ .idle →
    ∃ i request status,
      state.order.getLast? = some i ∧
        state.At i request status ∧ status.Unended

/- Other work does not matter as long as it is silent. -/
theorem Accounted.elsewhere
    {state : State}
    (hAccounted : state.Accounted)
    {world : World}
    (hPhase : world.phase = state.world.phase) :
    Accounted { state with world := world } := by
  intro hBusy
  exact hAccounted (hPhase ▸ hBusy)

end State

end Build

namespace Coordinator

open Build Studio

variable {coordinator : Coordinator} {state state' : State}

theorem silent_handOver
    (coordinator : Coordinator)
    (point : Point) :
    Silent (coordinator.handOver point) := by
  cases point with
  | invoke root => exact .bind (.of_same fun _ => rfl) fun _ => .pause
  | _ => exact .pause

theorem silent_perform
    (hRun : ∀ command, Silent (coordinator.run command))
    (chore : Chore) :
    Silent (coordinator.perform chore) := by
  cases chore with
  | project request =>
      exact .bind (Project.silent_materialize _ _)
        fun _ => .of_same fun _ => rfl
  | tool root => exact .bind (hRun _) fun _ => .of_same fun _ => rfl
  | reading path => exact .of_same fun _ => rfl
  | removal root => exact .of_same fun _ => rfl

/- The last step of a build makes the phase idle. -/
theorem phase_of_finish
    {request : Request}
    {point : Point}
    {result : Result}
    {world world' : World}
    (hStep :
      coordinator.step request point world = (.inr result, world')) :
    world'.phase = .idle := by
  rcases close_of_step hStep with rfl
  rw [step_close, Prod.mk.injEq] at hStep
  rw [← hStep.2]
  cases result <;> exact World.phase_publish .idle world

theorem Step.accounted
    (hStep : coordinator.Step state state')
    (hRegular : state.Regular)
    (hAccounted : state.Accounted) :
    state'.Accounted := by
  intro hBusy
  cases hStep with
  | arrive request =>
      rcases hAccounted hBusy with
        ⟨i, request', status, hLast, hAt, hUnended⟩
      exact ⟨i, request', status, hLast, hAt.arrive _, hUnended⟩
  | grant _ hAt =>
      exact ⟨_, _, _, by simp, hAt.put _, trivial⟩
  | work hAt _ =>
      have hSlot := hRegular.slot_eq hAt trivial
      exact ⟨_, _, _, hRegular.last _ hSlot, hAt.put _, trivial⟩
  | finish _ hStep => exact absurd (phase_of_finish hStep) hBusy
  | release hAt =>
      -- The call that has the slot is the last, and it has ended.
      rcases hAccounted hBusy with
        ⟨i, request', status, hLast, hAt', hUnended⟩
      rw [hRegular.last _ (hRegular.slot_eq hAt trivial),
        Option.some.injEq] at hLast
      subst hLast
      have hSame := Option.some.inj (hAt.symm.trans hAt')
      rw [← (Call.mk.inj hSame).2] at hUnended
      exact hUnended.elim

/- Whoever goes, a phase that is not idle belongs to a call. -/
theorem Turn.accounted
    (hRun : ∀ command, Silent (coordinator.run command))
    {scene scene' : Scene}
    (hTurn : coordinator.Turn scene scene')
    (hRegular : scene.state.Regular)
    (hAccounted : scene.state.Accounted) :
    scene'.state.Accounted := by
  cases hTurn with
  | call _ hStep => exact hStep.accounted hRegular hAccounted
  | leave _ hAt =>
      intro hBusy
      rcases hAccounted hBusy with
        ⟨i, request', status, hLast, hAt', hUnended⟩
      have hNe : Status.waiting ≠ status := by
        rintro rfl
        exact hUnended
      exact ⟨i, request', status, hLast, hAt'.put_of_ne hAt hNe _,
        hUnended⟩
  | drop _ hAt _ =>
      intro _
      have hSlot := hRegular.slot_eq hAt trivial
      exact ⟨_, _, _, hRegular.last _ hSlot, hAt.put _, trivial⟩
  | perform state _ _ chore =>
      exact hAccounted.elsewhere
        ((silent_perform hRun chore).phase state.world)

end Coordinator

end PluginStudio

------------------------------------------------------------
-- Undisturbed Calls
------------------------------------------------------------

namespace PluginStudio

namespace Coordinator

open Build

variable {coordinator : Coordinator} {start : World}
  {state state' : State}

/- A call that was dropped does nothing more. -/
theorem Step.at_dropped
    (hStep : coordinator.Step state state')
    {i : Nat}
    {request : Request}
    (hAt : state.At i request .dropped) :
    state'.At i request .dropped := by
  cases hStep with
  | arrive _ => exact hAt.arrive _
  | grant _ hOther => exact hAt.put_of_ne hOther (by simp) _
  | work hOther _ => exact hAt.put_of_ne hOther (by simp) _
  | finish hOther _ => exact hAt.put_of_ne hOther (by simp) _
  | release hOther => exact hAt.put_of_ne hOther (by simp) _

theorem Step.order_subset
    (hStep : coordinator.Step state state') :
    state.order ⊆ state'.order := by
  cases hStep with
  | grant _ _ => exact List.subset_append_left _ _
  | _ => exact List.Subset.refl _

/- Nothing is left behind, and calls are made one after another. -/
def Orderly
    (coordinator : Coordinator)
    (start : World)
    (scene : Scene) : Prop :=
  scene.loose = [] ∧
    coordinator.Progress start scene.state.calls scene.state.slot
      scene.state.order scene.state.world

/- So it stays as long as no call is dropped that has the slot. -/
theorem Turn.undisturbed
    {scene scene' : Scene}
    (hTurn : coordinator.Turn scene scene')
    (hRegular : scene.state.Regular)
    (hOrderly : scene.Undisturbed → coordinator.Orderly start scene)
    (hUndisturbed : scene'.Undisturbed) :
    coordinator.Orderly start scene' := by
  cases hTurn with
  | call loose hStep =>
      rcases hOrderly (fun i hMem request hAt =>
        hUndisturbed i (hStep.order_subset hMem) request
          (hStep.at_dropped hAt)) with ⟨hLoose, hProgress⟩
      exact ⟨hLoose, hStep.progress hRegular hProgress⟩
  | leave loose hAt =>
      rcases hOrderly (fun i hMem request hDropped =>
        hUndisturbed i hMem request
          (hDropped.put_of_ne hAt (by simp) _)) with
        ⟨hLoose, hProgress⟩
      refine ⟨hLoose, hProgress.mono fun j call hStatus hCall => ?_⟩
      exact State.At.put_of_ne hCall hAt hStatus.symm _
  | drop loose hAt _ =>
      -- The call had the slot, so it is one that disturbs.
      have hSlot := hRegular.slot_eq hAt trivial
      exact absurd (hAt.put .dropped)
        (hUndisturbed _
          (List.mem_of_getLast? (hRegular.last _ hSlot)) _)
  | perform state before after chore =>
      -- Nothing was left behind, so there is nothing to do.
      rcases hOrderly hUndisturbed with ⟨hLoose, -⟩
      simp at hLoose

end Coordinator

end PluginStudio

------------------------------------------------------------
-- What Holds And What Does Not
------------------------------------------------------------

namespace PluginStudio

namespace Coordinator

open Build Studio

variable {coordinator : Coordinator} {start : World}

/- All of this holds of every scene that is attained. -/
theorem Attainable.invariants
    (hRun : ∀ command, Silent (coordinator.run command))
    (hIdle : start.phase = .idle)
    {scene : Scene}
    (hAttain : coordinator.Attainable start scene) :
    scene.state.Regular ∧
      scene.state.Accounted ∧
        (scene.Undisturbed → coordinator.Orderly start scene) := by
  induction hAttain with
  | refl =>
      refine ⟨State.regular_initial start, ?_, ?_⟩
      · intro hBusy
        exact absurd hIdle hBusy
      · intro _
        exact ⟨rfl, .free .nil⟩
  | tail _ hTurn ih =>
      rcases ih with ⟨hRegular, hAccounted, hOrderly⟩
      exact ⟨hTurn.regular hRegular,
        hTurn.accounted hRun hRegular hAccounted,
        hTurn.undisturbed hRegular hOrderly⟩

/-
  Calls exclude each other even if they are dropped.  While the
  slot is free the phase is idle, unless the call that was given
  the slot last was dropped.  And as long as only calls are
  dropped that wait for the slot, nothing is left behind and the
  other calls are made one after another.
-/
theorem calls_exclude_despite_drops
    (coordinator : Coordinator)
    (hRun : ∀ command, Silent (coordinator.run command))
    (start : World)
    (hIdle : start.phase = .idle)
    (scene : Scene)
    (hAttain : coordinator.Attainable start scene) :
    (∀ (i j : Nat) (call call' : Call),
        scene.state.calls[i]? = some call →
          scene.state.calls[j]? = some call' →
            call.status.Holding →
              call'.status.Holding → i = j) ∧
      (scene.state.slot = none →
        scene.state.world.phase = .idle ∨
          ∃ i request,
            scene.state.order.getLast? = some i ∧
              scene.state.At i request .dropped) ∧
        (scene.Undisturbed →
          scene.loose = [] ∧
            (scene.state.slot = none →
              scene.state.world.phase = .idle ∧
                ∃ results : List Result,
                  scene.state.granted.map Call.status =
                      results.map .finished ∧
                    coordinator.buildAll
                        (scene.state.granted.map Call.request)
                        start =
                      (results, scene.state.world))) := by
  rcases hAttain.invariants hRun hIdle with
    ⟨hRegular, hAccounted, hOrderly⟩
  refine ⟨?_, ?_, ?_⟩
  · intro i j call call' hCall hCall' hHolding hHolding'
    exact hRegular.holder_unique hCall hCall' hHolding hHolding'
  · intro hSlot
    by_cases hPhase : scene.state.world.phase = .idle
    · exact .inl hPhase
    rcases hAccounted hPhase with
      ⟨i, request, status, hLast, hAt, hUnended⟩
    cases status with
    | dropped => exact .inr ⟨i, request, hLast, hAt⟩
    | running point =>
        have hHeld := hRegular.slot_eq hAt trivial
        simp [hSlot] at hHeld
    | waiting | leaving _ | finished _ => exact hUnended.elim
  · intro hUndisturbed
    rcases hOrderly hUndisturbed with ⟨hLoose, hProgress⟩
    refine ⟨hLoose, fun hSlot => ?_⟩
    rw [hSlot] at hProgress
    exact ⟨hProgress.served.phase hIdle, hProgress.served.buildAll⟩

/- A build that waits for a chore has published its phase. -/
theorem Awaits.phase
    (hRun : ∀ command, Silent (coordinator.run command))
    {request : Request}
    {point : Point}
    {world : World}
    {chore : Chore}
    (hLeads :
      coordinator.Leads request (.announceProject, start)
        (point, world))
    (hAwaits : coordinator.Awaits request world point chore) :
    world.phase = chore.phase := by
  rcases onCourse_of_leads hRun hLeads with ⟨n, hDepth, hHistory⟩
  unfold World.phase current
  rw [hHistory]
  cases hAwaits <;> rcases hDepth with rfl <;>
    simp [Phase.pipeline, Chore.phase]

/- What calls do that are not dropped. -/
theorem turns_of_steps
    (loose : List Chore)
    {state state' : State}
    (hSteps : Relation.ReflTransGen coordinator.Step state state') :
    Relation.ReflTransGen coordinator.Turn ⟨state, loose⟩
      ⟨state', loose⟩ :=
  hSteps.lift (fun state => Scene.mk state loose)
    fun _ _ hStep => .call loose hStep

/-
  Wherever a build waits it can be dropped, and then the slot is
  free while its phase stands and its chore is still to be done.
  Before that is done another call can be given the slot, and
  come to wherever its build leads.
-/
theorem drop_frees_slot
    (coordinator : Coordinator)
    (hRun : ∀ command, Silent (coordinator.run command))
    (start : World)
    (request : Request)
    {point : Point}
    {world : World}
    {chore : Chore}
    (hLeads :
      coordinator.Leads request (.announceProject, start)
        (point, world))
    (hAwaits : coordinator.Awaits request world point chore) :
    ∃ scene,
      coordinator.Attainable start scene ∧
        scene.state.slot = none ∧
          scene.state.world.phase = chore.phase ∧
            scene.loose = [chore] ∧
              ∀ other there,
                coordinator.Leads other
                    (.announceProject, scene.state.world) there →
                  ∃ later i,
                    Relation.ReflTransGen coordinator.Turn scene
                        later ∧
                      later.state.At i other (.running there.1) ∧
                        later.loose = [chore] := by
  have hWaits :
      coordinator.Attainable start
        ⟨⟨world, some 0, [⟨request, .running point⟩], [0]⟩, []⟩ :=
    turns_of_steps []
      (.head (.arrive (State.initial start) request)
        (steps_of_leads ⟨start, none, [⟨request, .waiting⟩], []⟩ 0
          rfl rfl hLeads))
  refine ⟨_, hWaits.tail (.drop [] (i := 0) rfl hAwaits), rfl, ?_,
    rfl, ?_⟩
  · exact ((coordinator.silent_handOver point).phase world).trans
      (hAwaits.phase hRun hLeads)
  · intro other there hThere
    let arrived : State :=
      ⟨(coordinator.handOver point world).2, none,
        [⟨request, .dropped⟩, ⟨other, .waiting⟩], [0]⟩
    exact ⟨_, 1,
      turns_of_steps [chore]
        (.head (.arrive _ other)
          (steps_of_leads arrived 1 rfl rfl hThere)),
      rfl, rfl⟩

/-
  So no coordinator is safe from it: every build waits for its
  project to be laid out.
-/
theorem exists_loose_project
    (coordinator : Coordinator)
    (hRun : ∀ command, Silent (coordinator.run command))
    (start : World)
    (request : Request) :
    ∃ scene,
      coordinator.Attainable start scene ∧
        scene.state.slot = none ∧
          scene.state.world.phase = .materializing ∧
            scene.loose = [.project request] := by
  have hLeads :
      coordinator.Leads request (.announceProject, start)
        (.materialize, (publish .materializing start).2) :=
    leads_of_step _ _ rfl
  rcases drop_frees_slot coordinator hRun start request hLeads
      .project with ⟨scene, hAttain, hSlot, hPhase, hLoose, -⟩
  exact ⟨scene, hAttain, hSlot, hPhase, hLoose⟩

end Coordinator

end PluginStudio
