import Mathlib.Logic.Relation
import PluginStudio.Proofs.Build.Soundness

/-
  Builds in single steps.

  Key definitions include:
    * `PluginStudio.Build.Point`
    * `PluginStudio.Coordinator.step`
    * `PluginStudio.Coordinator.Leads`

  Main declarations:
    * `Coordinator.leads_stages`
    * `Coordinator.build_of_leads`
    * `Coordinator.leads_build`
    * `Coordinator.phase_build`

  A build that may be observed on its way takes one step at a
  time.  Its steps lead to where the build as a whole does.
-/

------------------------------------------------------------
-- Points
------------------------------------------------------------

namespace PluginStudio

namespace Build

/- What a build does next. -/
inductive Point where
  | announceProject
  | materialize
  | announceTool (root : Path)
  | invoke (root : Path)
  | announceSelection (root : Path)
  | select (root : Path)
  | read (root path : Path)
  | announceCleanup (root : Path) (artifact : Artifact)
  | cleanup (root : Path) (artifact : Artifact)
  | close (result : Result)
deriving DecidableEq, Repr

end Build

namespace Coordinator

open Build

/- One step of a build: to another point, or to its end. -/
def step
    (coordinator : Coordinator)
    (request : Request) :
    Point → Studio (Point ⊕ Result)
  | .announceProject => do
    Studio.publish .materializing
    return .inl .materialize
  | .materialize => do
    Studio.pause
    match ← (Project.materialize coordinator.workspace request).run with
    | .ok tree => return .inl (.announceTool tree.root)
    | .error failure => return .inl (.close (.error (.project failure)))
  | .announceTool root => do
    Studio.publish .building
    Studio.report .build .info "running build tool"
      [⟨"plugin", request.pluginName, false⟩]
    return .inl (.invoke root)
  | .invoke root => do
    match ← (Tool.invoke coordinator.run coordinator.tool root).run with
    | .error failure => return .inl (.close (.error (.tool failure)))
    | .ok outcome =>
      if outcome.status.success then
        return .inl (.announceSelection root)
      else
        let text ← Tool.readConsole outcome.output
        return .inl
          (.close (.error (.unsuccessful outcome.status text)))
  | .announceSelection root => do
    Studio.publish .selecting
    return .inl (.select root)
  | .select root => do
    match ← (Artifact.select root).run with
    | .ok path => return .inl (.read root path)
    | .error failure => return .inl (.close (.error (.artifact failure)))
  | .read root path => do
    Studio.pause
    match ← (Artifact.readAt path).run with
    | .error failure => return .inl (.close (.error (.artifact failure)))
    | .ok artifact =>
      Studio.report .build .info "selected artifact"
        [⟨"plugin", request.pluginName, false⟩,
          ⟨"path", artifact.path.display, false⟩,
          ⟨"bytes", toString artifact.bytes.length, false⟩]
      return .inl (.announceCleanup root artifact)
  | .announceCleanup root artifact => do
    Studio.publish .streaming
    return .inl (.cleanup root artifact)
  | .cleanup root artifact => do
    Studio.pause
    Project.cleanup root
    return .inl (.close (.ok artifact))
  | .close result => do
    Studio.publish .idle
    reportFailure request result
    return .inr result

variable (coordinator : Coordinator) (request : Request)

/- One step leads from a point to the next. -/
def Next
    (here there : Point × World) : Prop :=
  coordinator.step request here.1 here.2 = (.inl there.1, there.2)

/- Steps lead from one point to another. -/
def Leads : Point × World → Point × World → Prop :=
  Relation.ReflTransGen (coordinator.Next request)

variable {coordinator request}

theorem leads_of_step
    {point : Point}
    {world : World}
    (next : Point)
    (world' : World)
    (hStep :
      coordinator.step request point world = (.inl next, world')) :
    coordinator.Leads request (point, world) (next, world') :=
  .single hStep

end Coordinator

end PluginStudio

------------------------------------------------------------
-- Stages
------------------------------------------------------------

namespace PluginStudio

namespace Coordinator

open Build Studio

variable {coordinator : Coordinator} {request : Request}
variable {world world' : World}

/- Where a stage goes on to, or where the build goes if it fails. -/
def after
    {α : Type}
    (next : α → Point) :
    Except Failure α → Point
  | .ok a => next a
  | .error failure => .close (.error failure)

theorem leads_materializeStage
    (coordinator : Coordinator)
    (request : Request)
    (world : World) :
    coordinator.Leads request (.announceProject, world)
      (after .announceTool
          (coordinator.materializeStage request world).1,
        (coordinator.materializeStage request world).2) := by
  refine .trans (leads_of_step .materialize
    (publish .materializing world).2 rfl) (leads_of_step _ _ ?_)
  rw [materializeStage, step]
  generalize Project.materialize coordinator.workspace request = work
  rw [except_bind_apply, except_lift_apply, bind_apply]
  simp only
  rw [except_bind_apply, except_lift_apply, bind_apply]
  simp only
  rw [except_bind_apply, except_adapt_apply, ExceptT.run]
  rcases work (pause (publish .materializing world).2).2 with
    ⟨failure | tree, world'⟩ <;> rfl

theorem leads_invokeStage
    (coordinator : Coordinator)
    (request : Request)
    (root : Path)
    (world : World) :
    coordinator.Leads request (.announceTool root, world)
      (after (fun _ => .announceSelection root)
          (coordinator.invokeStage request root world).1,
        (coordinator.invokeStage request root world).2) := by
  refine .trans (leads_of_step (.invoke root)
    (report .build .info "running build tool"
      [⟨"plugin", request.pluginName, false⟩]
        (publish .building world).2).2 rfl) (leads_of_step _ _ ?_)
  rw [invokeStage, step]
  generalize Tool.invoke coordinator.run coordinator.tool root = work
  rw [except_bind_apply, except_lift_apply]
  simp only
  rw [except_bind_apply, except_lift_apply]
  simp only
  rw [except_bind_apply, except_adapt_apply, bind_apply, ExceptT.run]
  generalize (report .build .info "running build tool"
    [⟨"plugin", request.pluginName, false⟩]
      (publish .building world).2).2 = ready
  rcases work ready with ⟨failure | outcome, world'⟩
  · rfl
  · simp only [Except.mapError]
    cases outcome.status.success <;> rfl

theorem leads_loadStage
    (coordinator : Coordinator)
    (request : Request)
    (root : Path)
    (world : World) :
    coordinator.Leads request (.announceSelection root, world)
      (after (.announceCleanup root) (loadStage request root world).1,
        (loadStage request root world).2) := by
  refine .trans (leads_of_step (.select root)
    (publish .selecting world).2 rfl) ?_
  rw [loadStage, except_bind_apply, except_lift_apply]
  simp only
  rw [except_bind_apply, except_adapt_apply]
  have hSelect :
      coordinator.step request (.select root)
          (publish .selecting world).2 =
        match Artifact.select root (publish .selecting world).2 with
        | (.ok path, world') => (.inl (.read root path), world')
        | (.error failure, world') =>
          (.inl (.close (.error (.artifact failure))), world') := by
    rw [step]
    generalize Artifact.select root = work
    rw [bind_apply, ExceptT.run]
    rcases work (publish .selecting world).2 with
      ⟨failure | path, world'⟩ <;> rfl
  rcases hRun :
      Artifact.select root (publish .selecting world).2 with
    ⟨failure | path, world'⟩
  · rw [hRun] at hSelect
    exact leads_of_step _ _ hSelect
  · rw [hRun] at hSelect
    refine .trans (leads_of_step _ _ hSelect) (leads_of_step _ _ ?_)
    simp only [Except.mapError]
    rw [except_bind_apply, except_lift_apply]
    simp only
    rw [except_bind_apply, except_adapt_apply, step]
    generalize Artifact.readAt path = work
    rw [bind_apply, bind_apply, ExceptT.run]
    rcases work (pause world').2 with
      ⟨failure | artifact, world''⟩ <;> rfl

theorem leads_cleanupStage
    (coordinator : Coordinator)
    (request : Request)
    (root : Path)
    (artifact : Artifact)
    (world : World) :
    coordinator.Leads request (.announceCleanup root artifact, world)
      (.close (.ok artifact), (cleanupStage root world).2) := by
  refine .trans (leads_of_step (.cleanup root artifact)
    (publish .streaming world).2 rfl) (leads_of_step _ _ ?_)
  rw [cleanupStage, step]
  generalize Project.cleanup root = work
  rfl

/- A build comes to its close as its stages end. -/
theorem leads_stages
    (coordinator : Coordinator)
    (request : Request)
    (world : World) :
    coordinator.Leads request (.announceProject, world)
      (.close (coordinator.stages request world).1,
        (coordinator.stages request world).2) := by
  have hFirst :=
    leads_materializeStage coordinator request world
  rw [stages, except_bind_apply]
  rcases hMade : coordinator.materializeStage request world with
    ⟨failure | root, world₁⟩ <;> rw [hMade] at hFirst
  · exact hFirst
  refine hFirst.trans ?_
  have hNext := leads_invokeStage coordinator request root world₁
  simp only
  rw [except_bind_apply]
  rcases hRun : coordinator.invokeStage request root world₁ with
    ⟨failure | u, world₂⟩ <;> rw [hRun] at hNext
  · exact hNext
  refine hNext.trans ?_
  have hLast := leads_loadStage coordinator request root world₂
  simp only
  rw [except_bind_apply]
  rcases hLoad : loadStage request root world₂ with
    ⟨failure | artifact, world₃⟩ <;> rw [hLoad] at hLast
  · exact hLast
  refine hLast.trans ?_
  have hEnd :=
    leads_cleanupStage coordinator request root artifact world₃
  have hOk := cleanupStage_apply root world₃
  simp only
  rw [except_bind_apply]
  rcases hClean : cleanupStage root world₃ with ⟨result, world₄⟩
  rw [hClean] at hEnd hOk
  simp only at hOk
  rw [hOk]
  exact hEnd

end Coordinator

end PluginStudio

------------------------------------------------------------
-- Ends
------------------------------------------------------------

namespace PluginStudio

namespace Coordinator

open Build Studio

variable {coordinator : Coordinator} {request : Request}

theorem step_close
    (coordinator : Coordinator)
    (request : Request)
    (result : Result)
    (world : World) :
    coordinator.step request (.close result) world =
      (.inr result,
        (reportFailure request result (publish .idle world).2).2) :=
  rfl

/- No other step is the last one. -/
theorem step_of_ne_close
    (coordinator : Coordinator)
    (request : Request)
    {point : Point}
    (hPoint : ∀ result, point ≠ .close result)
    (world : World) :
    ∃ next world',
      coordinator.step request point world = (.inl next, world') := by
  cases point with
  | announceProject => exact ⟨_, _, rfl⟩
  | materialize =>
      rw [step, bind_apply, bind_apply, ExceptT.run]
      rcases Project.materialize coordinator.workspace request
        (pause world).2 with ⟨failure | tree, world'⟩ <;>
          exact ⟨_, _, rfl⟩
  | announceTool root => exact ⟨_, _, rfl⟩
  | invoke root =>
      rw [step, bind_apply, ExceptT.run]
      rcases Tool.invoke coordinator.run coordinator.tool root world
        with ⟨failure | outcome, world'⟩
      · exact ⟨_, _, rfl⟩
      · simp only
        split_ifs <;> exact ⟨_, _, rfl⟩
  | announceSelection root => exact ⟨_, _, rfl⟩
  | select root =>
      rw [step, bind_apply, ExceptT.run]
      rcases Artifact.select root world with
        ⟨failure | path, world'⟩ <;> exact ⟨_, _, rfl⟩
  | read root path =>
      rw [step, bind_apply, bind_apply, ExceptT.run]
      rcases Artifact.readAt path (pause world).2 with
        ⟨failure | artifact, world'⟩ <;> exact ⟨_, _, rfl⟩
  | announceCleanup root artifact => exact ⟨_, _, rfl⟩
  | cleanup root artifact => exact ⟨_, _, rfl⟩
  | close result => exact absurd rfl (hPoint result)

/- From the close of a build no step leads on. -/
theorem eq_of_leads_close
    {result : Result}
    {world : World}
    {there : Point × World}
    (hLeads : coordinator.Leads request (.close result, world) there) :
    there = (.close result, world) := by
  rcases Relation.ReflTransGen.cases_head hLeads with
    hEq | ⟨next, hNext, -⟩
  · exact hEq.symm
  · rw [Next, step_close, Prod.mk.injEq] at hNext
    exact absurd hNext.1 (by simp)

/- The steps of a build come to one close. -/
theorem stages_of_leads
    {result : Result}
    {world world' : World}
    (hLeads :
      coordinator.Leads request (.announceProject, world)
        (.close result, world')) :
    coordinator.stages request world = (result, world') := by
  have hUnique : Relator.RightUnique (coordinator.Next request) := by
    intro here there there' hNext hNext'
    rw [Next, hNext, Prod.mk.injEq, Sum.inl.injEq] at hNext'
    exact Prod.ext hNext'.1 hNext'.2
  have hStages := leads_stages coordinator request world
  rcases Relation.ReflTransGen.total_of_right_unique hUnique hLeads
      hStages with hRest | hRest
  · have hEq := eq_of_leads_close hRest
    rw [Prod.mk.injEq, Point.close.injEq] at hEq
    exact Prod.ext hEq.1 hEq.2
  · have hEq := eq_of_leads_close hRest
    rw [Prod.mk.injEq, Point.close.injEq] at hEq
    exact Prod.ext hEq.1.symm hEq.2.symm

/- So a step that is the last one closes the build. -/
theorem close_of_step
    {point : Point}
    {result : Result}
    {world world' : World}
    (hStep :
      coordinator.step request point world = (.inr result, world')) :
    point = .close result := by
  by_contra hNot
  have hPoint : ∀ other, point ≠ .close other := by
    intro other hOther
    rw [hOther, step_close, Prod.mk.injEq, Sum.inr.injEq] at hStep
    exact hNot (by rw [hOther, hStep.1])
  obtain ⟨next, world₁, hNext⟩ :=
    step_of_ne_close coordinator request hPoint world
  rw [hNext, Prod.mk.injEq] at hStep
  exact Sum.inl_ne_inr hStep.1

/- A build whose steps end has run as a whole. -/
theorem build_of_leads
    {point : Point}
    {result : Result}
    {world world' world'' : World}
    (hLeads :
      coordinator.Leads request (.announceProject, world)
        (point, world'))
    (hStep :
      coordinator.step request point world' =
        (.inr result, world'')) :
    coordinator.build request world = (result, world'') := by
  obtain rfl := close_of_step hStep
  have hStages := stages_of_leads hLeads
  rw [step_close, Prod.mk.injEq] at hStep
  rw [← hStep.2, build]
  generalize coordinator.stages request = work at hStages ⊢
  rw [bind_apply, ExceptT.run, hStages]
  rfl

/- Every build comes to an end. -/
theorem leads_build
    (coordinator : Coordinator)
    (request : Request)
    (world : World) :
    ∃ point world',
      coordinator.Leads request (.announceProject, world)
          (point, world') ∧
        coordinator.step request point world' =
          (.inr (coordinator.build request world).1,
            (coordinator.build request world).2) := by
  obtain ⟨result, world', hLeads⟩ :
      ∃ result world',
        coordinator.Leads request (.announceProject, world)
          (.close result, world') :=
    ⟨_, _, leads_stages coordinator request world⟩
  have hStep := step_close coordinator request result world'
  refine ⟨_, _, hLeads, ?_⟩
  rw [build_of_leads hLeads hStep]
  exact hStep

end Coordinator

end PluginStudio

------------------------------------------------------------
-- Phases
------------------------------------------------------------

namespace PluginStudio

namespace World

theorem phase_publish
    (phase : Build.Phase)
    (world : World) :
    (Studio.publish phase world).2.phase = phase := by
  rw [Studio.publish_apply]
  simp [World.phase, Build.current, Build.history,
    Build.Moment.phase?]

end World

namespace Coordinator

open Build Studio

/- After a build the phase is idle. -/
theorem phase_build
    (coordinator : Coordinator)
    (request : Request)
    (world : World) :
    (coordinator.build request world).2.phase = .idle := by
  rw [build]
  generalize coordinator.stages request = work
  rw [bind_apply, bind_apply, bind_apply, ExceptT.run]
  rcases work world with ⟨failure | artifact, world'⟩ <;>
    exact World.phase_publish .idle world'

end Coordinator

end PluginStudio
