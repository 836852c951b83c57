import Mathlib.Data.List.Forall2
import PluginStudio.Host
import PluginStudio.Proofs.Build.Serialization

/-
  The phases that builds publish.

  Key definitions include:
    * `PluginStudio.Studio.Silent`
    * `PluginStudio.Build.Phase.pipeline`
    * `PluginStudio.Build.Reaches`
    * `PluginStudio.Build.Recorded`
    * `PluginStudio.Build.Call.Published`

  Main declarations:
    * `Coordinator.tells_step`
    * `Coordinator.onCourse_of_leads`
    * `Coordinator.Progress.inBlocks`
    * `Build.noticed_of_sublist`
    * `Coordinator.phases_recorded`

  A build publishes the phases it comes to and is idle in the
  end, so its phases tell how it ended.  The phases of several
  builds stand one block after another, whatever an observer
  makes of them.
-/

------------------------------------------------------------
-- Silent Work
------------------------------------------------------------

namespace PluginStudio

namespace Studio

open Build

/- Work that publishes no phase. -/
def Silent
    {α : Type}
    (work : World → α × World) : Prop :=
  ∀ world,
    history (work world).2.moments = history world.moments

namespace Silent

variable {ε α β : Type}

/- Work that no observer can notice. -/
theorem of_same
    {work : World → α × World}
    (hSame : ∀ world, (work world).2.moments = world.moments) :
    Silent work := by
  intro world
  rw [hSame]

/- A pause is noticed, but it publishes nothing. -/
theorem pause : Silent Studio.pause := by
  intro world
  rw [pause_apply, history, List.filterMap_append]
  exact List.append_nil _

theorem bind
    {first : Studio α}
    {next : α → Studio β}
    (hFirst : Silent first)
    (hNext : ∀ a, Silent (next a)) :
    Silent (first >>= next) := by
  intro world
  rw [bind_apply, hNext, hFirst]

theorem except_bind
    {first : ExceptT ε Studio α}
    {next : α → ExceptT ε Studio β}
    (hFirst : Silent first)
    (hNext : ∀ a, Silent (next a)) :
    Silent (first >>= next) := by
  intro world
  have hMade := hFirst world
  rw [except_bind_apply]
  rcases hEq : first world with ⟨e | a, world'⟩
  · rw [hEq] at hMade
    exact hMade
  · rw [hEq] at hMade
    exact (hNext a world').trans hMade

theorem forM
    {items : List α}
    {work : α → ExceptT ε Studio PUnit}
    (hWork : ∀ item, Silent (work item)) :
    Silent (items.forM work) := by
  induction items with
  | nil => exact .of_same fun _ => rfl
  | cons item items ih =>
      exact .except_bind (hWork item) fun _ => ih

end Silent

end Studio

namespace Project

open Studio

theorem silent_reconcile
    (root : Path) :
    Silent (reconcile .standard root) := by
  unfold reconcile
  refine .bind (.of_same fun _ => rfl) fun there => ?_
  cases there with
  | false => exact .of_same fun _ => rfl
  | true =>
      rw [if_pos rfl]
      refine .bind (.of_same fun _ => rfl) fun removed => ?_
      cases removed with
      | ok u => exact .of_same fun _ => rfl
      | error fault =>
          refine .bind (.of_same fun _ => rfl) fun millis => ?_
          refine .bind (.of_same fun _ => rfl) fun _ => ?_
          refine .bind (.of_same fun _ => rfl) fun renamed => ?_
          cases renamed <;> exact .of_same fun _ => rfl

theorem silent_materialize
    (workspace : Path)
    (request : Request) :
    Silent (materialize workspace request) := by
  rw [materialize, materializeWith]
  generalize tree workspace request = tree
  refine .except_bind (silent_reconcile _) fun _ => ?_
  refine .except_bind ?_ fun _ => .of_same fun _ => rfl
  refine .except_bind (.forM fun p => ?_) fun _ =>
    .forM fun file => ?_
  · exact .of_same fun world => by rw [createDir_apply]
  · exact .of_same fun world => by rw [writeFile_apply]

theorem silent_cleanup
    (root : Path) :
    Silent (cleanup root) := by
  refine .bind (.of_same fun _ => rfl) fun removed => ?_
  cases removed with
  | ok u => exact .of_same fun _ => rfl
  | error fault =>
      simp only
      split_ifs <;> exact .of_same fun _ => rfl

end Project

namespace Tool

open Studio

/- Running the tool is silent if its command is. -/
theorem silent_invoke
    {run : Runner}
    (hRun : ∀ command, Silent (run command))
    (tool : Toolchain)
    (project : Path) :
    Silent (invoke run tool project) := by
  unfold invoke
  refine .bind (.of_same fun _ => rfl) fun _ => ?_
  refine .bind (hRun _) fun result => ?_
  cases result with
  | error fault => exact .of_same fun _ => rfl
  | ok outcome => exact .bind .pause fun _ => .of_same fun _ => rfl

theorem silent_readConsole
    (output : Bytes) :
    Silent (readConsole output) := by
  refine .of_same fun world => ?_
  rw [readConsole]
  simp only
  cases (Console.decode output).faulty <;> rfl

end Tool

namespace Host

open Studio

/- A host runs commands without a word about builds. -/
theorem silent_run
    (vars : Environment)
    (command : Command) :
    Silent (run vars command) := by
  refine .bind (.of_same fun world => ?_) fun _ => .of_same fun _ => rfl
  simp only [perform, performBy]
  cases isUnfit command with
  | true => rfl
  | false =>
      cases enterDir world.files world.dir command.dir <;> rfl

end Host

namespace Artifact

open Studio

theorem silent_select
    (project : Path) :
    Silent (select project) := by
  unfold select
  refine .bind (.of_same fun _ => rfl) fun found => ?_
  refine .bind (.of_same fun _ => rfl) fun _ => ?_
  cases choose? found <;> exact .of_same fun _ => rfl

theorem silent_readAt
    (p : Path) :
    Silent (readAt p) := by
  refine .of_same fun world => ?_
  rw [Coordinator.readAt_apply]

end Artifact

end PluginStudio

------------------------------------------------------------
-- Steps Of A Build
------------------------------------------------------------

namespace PluginStudio

namespace Build

namespace Phase

/- The phases of a build that comes to its end, in their order. -/
def pipeline : List Phase :=
  [materializing, building, selecting, streaming]

/- The place of a phase in the course of a build. -/
def rank : Phase → Nat
  | materializing => 0
  | building => 1
  | selecting => 2
  | streaming => 3
  | idle => 4

end Phase

/-
  A build with a given result has come to a number of phases,
  and that number tells the kind of the result.
-/
structure Reaches
    (result : Result)
    (n : Nat) : Prop where
  one_le : 1 ≤ n
  le_four : n ≤ 4
  project :
    n = 1 ↔ ∃ failure, result = .error (.project failure)
  tool :
    n = 2 ↔
      (∃ failure, result = .error (.tool failure)) ∨
        ∃ status output,
          result = .error (.unsuccessful status output)
  artifact :
    n = 3 ↔ ∃ failure, result = .error (.artifact failure)
  ok : n = 4 ↔ ∃ artifact, result = .ok artifact

namespace Point

/- What is published at a point. -/
def announces : Point → List Phase
  | announceProject => [.materializing]
  | announceTool _ => [.building]
  | announceSelection _ => [.selecting]
  | announceCleanup _ _ => [.streaming]
  | close _ => [.idle]
  | _ => []

/- How many phases a build has come to before a point. -/
def Depth
    (n : Nat) :
    Point → Prop
  | announceProject => n = 0
  | materialize | announceTool _ => n = 1
  | invoke _ | announceSelection _ => n = 2
  | select _ | read _ _ | announceCleanup _ _ => n = 3
  | cleanup _ _ => n = 4
  | close result => Reaches result n

/-
  What a step leads to that publishes something after a number
  of phases: further down the pipeline, or to the end.
-/
def Continues
    (n : Nat)
    (phases : List Phase) :
    Point ⊕ Result → Prop
  | .inl next =>
    ∃ m, Depth m next ∧
      Phase.pipeline.take n ++ phases = Phase.pipeline.take m
  | .inr result => Reaches result n ∧ phases = [.idle]

end Point

end Build

namespace Studio

open Build

/- Work that publishes given phases, and what its result is. -/
def Tells
    {α : Type}
    (work : Studio α)
    (phases : List Phase)
    (post : α → Prop) : Prop :=
  ∀ world,
    history (work world).2.moments =
        history world.moments ++ phases ∧
      post (work world).1

namespace Tells

variable {α β : Type} {phases : List Phase} {post : β → Prop}

theorem pure
    {b : β}
    (hPost : post b) :
    Tells (Pure.pure b) [] post :=
  fun _ => ⟨(List.append_nil _).symm, hPost⟩

theorem silent_bind
    {first : Studio α}
    {next : α → Studio β}
    (hFirst : Silent first)
    (hNext : ∀ a, Tells (next a) phases post) :
    Tells (first >>= next) phases post := by
  intro world
  rw [bind_apply, ← hFirst world]
  exact hNext _ _

theorem publish_bind
    {phase : Phase}
    {next : Unit → Studio β}
    (hNext : Tells (next ()) [] post) :
    Tells (Studio.publish phase >>= next) [phase] post := by
  intro world
  have hFirst :
      history (Studio.publish phase world).2.moments =
        history world.moments ++ [phase] := by
    rw [publish_apply, history, List.filterMap_append]
    rfl
  obtain ⟨hHistory, hPost⟩ := hNext (Studio.publish phase world).2
  rw [List.append_nil, hFirst] at hHistory
  exact ⟨hHistory, hPost⟩

end Tells

end Studio

namespace Coordinator

open Build Studio

variable {coordinator : Coordinator} {request : Request}

/-
  Every step publishes what its point announces and leads as far
  as that tells.
-/
theorem tells_step
    (hRun : ∀ command, Silent (coordinator.run command))
    (request : Request)
    {point : Point}
    {n : Nat}
    (hDepth : point.Depth n) :
    Tells (coordinator.step request point) point.announces
      (Point.Continues n point.announces) := by
  cases point with
  | announceProject =>
      obtain rfl := hDepth
      exact .publish_bind (.pure ⟨1, rfl, rfl⟩)
  | materialize =>
      obtain rfl := hDepth
      refine .silent_bind .pause fun _ => ?_
      refine .silent_bind (Project.silent_materialize _ _)
        fun made => ?_
      cases made with
      | ok tree => exact .pure ⟨1, rfl, rfl⟩
      | error failure =>
          exact .pure ⟨1, by constructor <;> simp, rfl⟩
  | announceTool root =>
      obtain rfl := hDepth
      exact .publish_bind (.silent_bind (.of_same fun _ => rfl)
        fun _ => .pure ⟨2, rfl, rfl⟩)
  | invoke root =>
      obtain rfl := hDepth
      refine .silent_bind (Tool.silent_invoke hRun _ _)
        fun ran => ?_
      cases ran with
      | error failure =>
          exact .pure ⟨2, by constructor <;> simp, rfl⟩
      | ok outcome =>
          simp only
          split_ifs
          · exact .pure ⟨2, rfl, rfl⟩
          · exact .silent_bind (Tool.silent_readConsole _)
              fun _ => .pure ⟨2, by constructor <;> simp, rfl⟩
  | announceSelection root =>
      obtain rfl := hDepth
      exact .publish_bind (.pure ⟨3, rfl, rfl⟩)
  | select root =>
      obtain rfl := hDepth
      refine .silent_bind (Artifact.silent_select _)
        fun chosen => ?_
      cases chosen with
      | ok path => exact .pure ⟨3, rfl, rfl⟩
      | error failure =>
          exact .pure ⟨3, by constructor <;> simp, rfl⟩
  | read root path =>
      obtain rfl := hDepth
      refine .silent_bind .pause fun _ => ?_
      refine .silent_bind (Artifact.silent_readAt _)
        fun taken => ?_
      cases taken with
      | error failure =>
          exact .pure ⟨3, by constructor <;> simp, rfl⟩
      | ok artifact =>
          exact .silent_bind (.of_same fun _ => rfl)
            fun _ => .pure ⟨3, rfl, rfl⟩
  | announceCleanup root artifact =>
      obtain rfl := hDepth
      exact .publish_bind (.pure ⟨4, rfl, rfl⟩)
  | cleanup root artifact =>
      obtain rfl := hDepth
      refine .silent_bind .pause fun _ => ?_
      exact .silent_bind (Project.silent_cleanup _)
        fun _ => .pure ⟨4, by constructor <;> simp, rfl⟩
  | close result =>
      refine .publish_bind (.silent_bind ?_
        fun _ => .pure ⟨hDepth, rfl⟩)
      cases result <;> exact .of_same fun _ => rfl

/- A build has published as many phases as its point is deep. -/
def OnCourse
    (before : List Phase)
    (here : Point × World) : Prop :=
  ∃ n,
    here.1.Depth n ∧
      history here.2.moments = before ++ Phase.pipeline.take n

theorem onCourse_of_next
    (hRun : ∀ command, Silent (coordinator.run command))
    {before : List Phase}
    {here there : Point × World}
    (hNext : coordinator.Next request here there)
    (hCourse : OnCourse before here) :
    OnCourse before there := by
  obtain ⟨n, hDepth, hHistory⟩ := hCourse
  obtain ⟨hPublished, hContinues⟩ :=
    tells_step hRun request hDepth here.2
  rw [Next] at hNext
  rw [hNext] at hPublished hContinues
  obtain ⟨m, hDepth', hTake⟩ := hContinues
  refine ⟨m, hDepth', ?_⟩
  rw [hPublished, hHistory, List.append_assoc, hTake]

/- So it is all the way. -/
theorem onCourse_of_leads
    (hRun : ∀ command, Silent (coordinator.run command))
    {world : World}
    {there : Point × World}
    (hLeads :
      coordinator.Leads request (.announceProject, world) there) :
    OnCourse (history world.moments) there := by
  induction hLeads with
  | refl => exact ⟨0, rfl, (List.append_nil _).symm⟩
  | tail _ hNext ih => exact onCourse_of_next hRun hNext ih

end Coordinator

end PluginStudio

------------------------------------------------------------
-- Builds
------------------------------------------------------------

namespace PluginStudio

namespace Build

/- The phases of a build that has ended with a result. -/
def Recorded
    (result : Result)
    (phases : List Phase) : Prop :=
  ∃ n,
    Reaches result n ∧
      phases = Phase.pipeline.take n ++ [.idle]

/-
  What a call has published once it has been given the slot: all
  phases of its build if that has ended, or the first of them.
-/
def Call.Published
    (call : Call)
    (phases : List Phase) : Prop :=
  match call.status with
  | .leaving result | .finished result => Recorded result phases
  | .waiting | .running _ | .dropped => phases <+: Phase.pipeline

/- In the course of a build no phase comes twice or too late. -/
theorem Call.Published.pairwise_rank
    {call : Call}
    {phases : List Phase}
    (hPublished : call.Published phases) :
    phases.Pairwise fun a b => a.rank < b.rank := by
  have hAll :
      (Phase.pipeline ++ [Phase.idle]).Pairwise
        fun a b : Phase => a.rank < b.rank := by
    decide
  refine hAll.sublist ?_
  rw [Call.Published] at hPublished
  split at hPublished
  · obtain ⟨n, -, rfl⟩ := hPublished
    exact (List.take_sublist _ _).append_right _
  · obtain ⟨n, -, rfl⟩ := hPublished
    exact (List.take_sublist _ _).append_right _
  all_goals
    exact hPublished.sublist.trans (List.sublist_append_left _ _)

end Build

namespace Coordinator

open Build Studio

variable {coordinator : Coordinator}

/- A build publishes the phases that its result tells. -/
theorem recorded_build
    (hRun : ∀ command, Silent (coordinator.run command))
    {request : Request}
    {world world' : World}
    {result : Result}
    (hBuild : coordinator.build request world = (result, world')) :
    ∃ phases,
      Recorded result phases ∧
        history world'.moments = history world.moments ++ phases := by
  obtain ⟨point, last, hLeads, hStep⟩ :=
    leads_build coordinator request world
  rw [hBuild] at hStep
  obtain ⟨n, hDepth, hHistory⟩ := onCourse_of_leads hRun hLeads
  obtain ⟨hPublished, hContinues⟩ :=
    tells_step hRun request hDepth last
  rw [hStep] at hPublished hContinues
  obtain ⟨hReaches, hIdle⟩ := hContinues
  refine ⟨_, ⟨n, hReaches, rfl⟩, ?_⟩
  rw [hPublished, hHistory, hIdle, List.append_assoc]

variable {start world : World} {calls : List Call}
  {order : List Nat}

/- The calls so far have published one block after another. -/
def InBlocks
    (start : World)
    (calls : List Call)
    (order : List Nat)
    (world : World) : Prop :=
  ∃ blocks : List (List Phase),
    history world.moments =
        history start.moments ++ blocks.flatten ∧
      List.Forall₂ Call.Published
        (order.filterMap (calls[·]?)) blocks

/- One call more publishes one block more. -/
theorem InBlocks.snoc
    {before : World}
    (hBlocks : InBlocks start calls order before)
    {i : Nat}
    {call : Call}
    (hCall : calls[i]? = some call)
    {phases : List Phase}
    (hPublished : call.Published phases)
    (hHistory :
      history world.moments = history before.moments ++ phases) :
    InBlocks start calls (order ++ [i]) world := by
  obtain ⟨blocks, hBefore, hAll⟩ := hBlocks
  refine ⟨blocks ++ [phases], ?_, ?_⟩
  · rw [hHistory, hBefore, List.flatten_concat, List.append_assoc]
  · rw [List.filterMap_append]
    refine List.rel_append hAll ?_
    simpa [hCall] using hPublished

theorem Served.inBlocks
    (hRun : ∀ command, Silent (coordinator.run command))
    (hServed : coordinator.Served start calls order world) :
    InBlocks start calls order world := by
  induction hServed with
  | nil => exact ⟨[], (List.append_nil _).symm, .nil⟩
  | snoc _ hCall hBuild ih =>
      obtain ⟨phases, hRecorded, hHistory⟩ :=
        recorded_build hRun hBuild
      exact ih.snoc hCall hRecorded hHistory

theorem Progress.inBlocks
    (hRun : ∀ command, Silent (coordinator.run command))
    {slot : Option Nat}
    (hProgress :
      coordinator.Progress start calls slot order world) :
    InBlocks start calls order world := by
  cases hProgress with
  | free hServed => exact hServed.inBlocks hRun
  | running hServed hCall hLeads =>
      obtain ⟨n, -, hHistory⟩ := onCourse_of_leads hRun hLeads
      exact (hServed.inBlocks hRun).snoc hCall
        (List.take_prefix n _) hHistory
  | leaving hServed hCall hBuild =>
      obtain ⟨phases, hRecorded, hHistory⟩ :=
        recorded_build hRun hBuild
      exact (hServed.inBlocks hRun).snoc hCall hRecorded hHistory

end Coordinator

end PluginStudio

------------------------------------------------------------
-- Observers
------------------------------------------------------------

namespace PluginStudio

namespace Build

/-
  An observer has noticed some of the phases that were published:
  of every block some, and those in the order of the pipeline.
-/
def Noticed
    (blocks : List (List Phase))
    (seen : List Phase) : Prop :=
  ∃ parts : List (List Phase),
    seen = parts.flatten ∧
      List.Forall₂
        (fun part block =>
          part.Sublist block ∧
            part.Pairwise fun a b => a.rank < b.rank)
        parts blocks

/- Whoever sees some of the phases sees some of each block. -/
theorem noticed_of_sublist
    {calls : List Call}
    {blocks : List (List Phase)}
    (hBlocks : List.Forall₂ Call.Published calls blocks)
    {seen : List Phase}
    (hSeen : seen.Sublist blocks.flatten) :
    Noticed blocks seen := by
  induction hBlocks generalizing seen with
  | nil =>
      rw [List.flatten_nil, List.sublist_nil] at hSeen
      exact ⟨[], hSeen, .nil⟩
  | @cons call block calls blocks hPublished _ ih =>
      rw [List.flatten_cons, List.sublist_append_iff] at hSeen
      obtain ⟨part, rest, rfl, hPart, hRest⟩ := hSeen
      obtain ⟨parts, rfl, hParts⟩ := ih hRest
      exact ⟨part :: parts, rfl,
        .cons ⟨hPart, hPublished.pairwise_rank.sublist hPart⟩
          hParts⟩

end Build

namespace Coordinator

open Build Studio

/-
  The phases that calls publish stand in blocks, one for each call
  in the order in which they were given the slot.  The block of a
  call that has ended is a beginning of the pipeline and the idle
  phase, and how long it is tells how the call has ended.  So an
  observer who sees no more than some of the phases sees them,
  between one idle phase and the next, in the order of the
  pipeline and none of them twice.  All this is up to the calls
  alone, since the commands they run publish nothing.
-/
theorem phases_recorded
    (coordinator : Coordinator)
    (hRun : ∀ command, Silent (coordinator.run command))
    (start : World)
    (state : State)
    (hReach : coordinator.Reachable start state) :
    ∃ blocks : List (List Phase),
      history state.world.moments =
          history start.moments ++ blocks.flatten ∧
        List.Forall₂ Call.Published state.granted blocks ∧
          ((∀ call ∈ state.calls, call.status.Finished) →
            state.granted.Perm state.calls) ∧
            ∀ seen : List Phase, seen.Sublist blocks.flatten →
              Noticed blocks seen := by
  obtain ⟨hRegular, hProgress⟩ := hReach.regular_progress
  obtain ⟨blocks, hHistory, hBlocks⟩ := hProgress.inBlocks hRun
  exact ⟨blocks, hHistory, hBlocks, hRegular.perm,
    fun seen hSeen => noticed_of_sublist hBlocks hSeen⟩

/-
  One call whose project cannot be laid out, and one whose tool
  cannot be run.  An observer who misses two phases of the five
  does not mistake one call for the other.
-/
theorem phases_recorded_of_two :
    let coordinator : Coordinator :=
      ⟨"/builds", ⟨"mvn", [], "/"⟩,
        Host.run []⟩
    let start : World := ⟨⟨[]⟩, [], 0, [], []⟩
    let first : Request := { pluginName := "\x00" }
    let second : Request :=
      { pluginName := "X", pomXml := "m", pluginYml := "y" }
    ∃ state,
      coordinator.Reachable start state ∧
        state.granted.map Call.request = [first, second] ∧
          ∃ blocks,
            List.Forall₂ Call.Published state.granted blocks ∧
              blocks.flatten =
                  [.materializing, .idle, .materializing, .building,
                    .idle] ∧
                Noticed blocks [.idle, .building, .idle] := by
  intro coordinator start first second
  have hArrived :
      coordinator.Reachable start
        ⟨start, none,
          [⟨first, .waiting⟩, ⟨second, .waiting⟩], []⟩ :=
    Reachable.step
      (Reachable.step .refl (.arrive (State.initial start) first))
      (.arrive _ second)
  obtain ⟨⟨result₁, world₁⟩, ⟨result₂, world₂⟩, hBuild₁, hBuild₂,
      hHistory⟩ :
      ∃ made₁ made₂ : Result × World,
        coordinator.build first start = made₁ ∧
          coordinator.build second made₁.2 = made₂ ∧
            history made₂.2.moments =
              [.materializing, .idle, .materializing, .building,
                .idle] :=
    ⟨_, _, rfl, rfl, by decide +kernel⟩
  have hFirst :
      coordinator.Reachable start
        ⟨world₁, none,
          [⟨first, .finished result₁⟩, ⟨second, .waiting⟩], [0]⟩ :=
    hArrived.serve (i := 0) rfl rfl hBuild₁
  have hSecond :
      coordinator.Reachable start
        ⟨world₂, none,
          [⟨first, .finished result₁⟩,
            ⟨second, .finished result₂⟩], [0, 1]⟩ :=
    hFirst.serve (i := 1) rfl rfl hBuild₂
  obtain ⟨blocks, hAll, hBlocks, -, hNoticed⟩ :=
    phases_recorded coordinator (Host.silent_run []) start _
      hSecond
  have hFlatten :
      blocks.flatten =
        [.materializing, .idle, .materializing, .building,
          .idle] :=
    hAll.symm.trans hHistory
  refine ⟨_, hSecond, rfl, blocks, hBlocks, hFlatten,
    hNoticed _ ?_⟩
  rw [hFlatten]
  decide

end Coordinator

end PluginStudio
