import PluginStudio.Proofs.Build.Soundness

/-
  What the stages of a build do to the files.

  Key definitions include:
    * `PluginStudio.World.Alike`
    * `PluginStudio.Studio.Unaware`
    * `PluginStudio.Tool.Behaviour`
    * `PluginStudio.Build.Ends`
    * `PluginStudio.Build.kept`

  Main declarations:
    * `Studio.Unaware.bind`, `Studio.Unaware.except_bind`
    * `Project.unaware_materialize`
    * `Coordinator.ends_build`
    * `Coordinator.build_of_unlaid`, `Coordinator.build_of_alike`

  Events and phases are for observers.  Laying a project out
  depends on the files, the directory that paths start from and
  the time, so a build lays it out as if nothing had been
  reported before.  There are six ways in which it can go on.
-/

------------------------------------------------------------
-- Unaware Work
------------------------------------------------------------

namespace PluginStudio

namespace World

/- Two worlds that differ at most in what was reported. -/
structure Alike (world world' : World) : Prop where
  files : world.files = world'.files
  dir : world.dir = world'.dir
  clock : world.clock = world'.clock

end World

namespace Studio

/-
  Work that does the same in worlds that are alike, and stays in
  the directory it starts from.
-/
structure Unaware
    {α : Type}
    (work : World → α × World) : Prop where
  same :
    ∀ {world world' : World},
      world.Alike world' →
        (work world).1 = (work world').1 ∧
          (work world).2.Alike (work world').2
  stays : ∀ world, (work world).2.dir = world.dir

namespace Unaware

variable {ε α β : Type}

theorem pure (a : α) : Unaware (Pure.pure a : Studio α) :=
  ⟨fun hAlike => ⟨rfl, hAlike⟩, fun _ => rfl⟩

theorem except_pure
    (a : α) :
    Unaware (Pure.pure a : ExceptT ε Studio α) :=
  ⟨fun hAlike => ⟨rfl, hAlike⟩, fun _ => rfl⟩

theorem report
    {topic : Topic}
    {level : Level}
    {message : String}
    {details : List Detail} :
    Unaware (Studio.report topic level message details) :=
  ⟨fun hAlike => ⟨rfl, hAlike.files, hAlike.dir, hAlike.clock⟩,
    fun _ => rfl⟩

theorem inspect
    (view : FileSystem → Place → α) :
    Unaware (Studio.inspect view) := by
  constructor
  · intro world world' hAlike
    rw [inspect_apply, inspect_apply, hAlike.files, hAlike.dir]
    exact ⟨rfl, hAlike⟩
  · intro world
    rw [inspect_apply]

theorem onFiles
    (work : FileSystem → Place → FileSystem.Steps α) :
    Unaware (Studio.onFiles work) := by
  constructor
  · intro world world' hAlike
    rw [onFiles_apply, onFiles_apply, hAlike.files, hAlike.dir]
    exact ⟨rfl, rfl, rfl, hAlike.clock⟩
  · intro world
    rw [onFiles_apply]

theorem now : Unaware Studio.now := by
  constructor
  · intro world world' hAlike
    rw [now_apply, now_apply, hAlike.clock]
    exact ⟨rfl, hAlike.files, hAlike.dir, rfl⟩
  · intro world
    rw [now_apply]

theorem bind
    {first : Studio α}
    {next : α → Studio β}
    (hFirst : Unaware first)
    (hNext : ∀ a, Unaware (next a)) :
    Unaware (first >>= next) := by
  constructor
  · intro world world' hAlike
    rcases hFirst.same hAlike with ⟨hResult, hAfter⟩
    rw [bind_apply, bind_apply, hResult]
    exact (hNext _).same hAfter
  · intro world
    rw [bind_apply, (hNext _).stays, hFirst.stays]

theorem except_bind
    {first : ExceptT ε Studio α}
    {next : α → ExceptT ε Studio β}
    (hFirst : Unaware first)
    (hNext : ∀ a, Unaware (next a)) :
    Unaware (first >>= next) := by
  constructor
  · intro world world' hAlike
    rcases hFirst.same hAlike with ⟨hResult, hAfter⟩
    rw [except_bind_apply, except_bind_apply]
    rcases hEq : first world with ⟨made, after⟩
    rcases hEq' : first world' with ⟨made', after'⟩
    rw [hEq, hEq'] at hResult hAfter
    simp only at hResult hAfter
    subst hResult
    cases made with
    | error e => exact ⟨rfl, hAfter⟩
    | ok a => exact (hNext a).same hAfter
  · intro world
    have hDir := hFirst.stays world
    rw [except_bind_apply]
    rcases hEq : first world with ⟨made, after⟩
    rw [hEq] at hDir
    cases made with
    | error e => exact hDir
    | ok a => exact ((hNext a).stays after).trans hDir

/- Work that cannot fail, where other work can. -/
theorem lift
    {work : Studio α}
    (hWork : Unaware work) :
    Unaware (liftM work : ExceptT ε Studio α) := by
  constructor
  · intro world world' hAlike
    rcases hWork.same hAlike with ⟨hResult, hAfter⟩
    rw [except_lift_apply, except_lift_apply, hResult]
    exact ⟨rfl, hAfter⟩
  · intro world
    rw [except_lift_apply]
    exact hWork.stays world

theorem forM
    {items : List α}
    {work : α → ExceptT ε Studio PUnit}
    (hWork : ∀ item, Unaware (work item)) :
    Unaware (items.forM work) := by
  induction items with
  | nil => exact except_pure _
  | cons item items ih =>
      exact except_bind (hWork item) fun _ => ih

/- Work on the files whose faults are told as failures. -/
theorem of_steps
    {work : ExceptT ε Studio α}
    (steps : FileSystem → Place → FileSystem.Steps α)
    (failure : IoFault → ε)
    (hWork :
      ∀ world,
        work world =
          ((steps world.files world.dir).1.mapError failure,
            { world with
              files := (steps world.files world.dir).2 })) :
    Unaware work := by
  constructor
  · intro world world' hAlike
    rw [hWork, hWork, hAlike.files, hAlike.dir]
    exact ⟨rfl, rfl, rfl, hAlike.clock⟩
  · intro world
    rw [hWork]

end Unaware

end Studio

namespace Project

open Studio

theorem unaware_reconcile
    (root : Path) :
    Unaware (reconcile .standard root) := by
  unfold reconcile
  apply Unaware.bind (.inspect _)
  intro there
  cases there with
  | false => exact .pure _
  | true =>
      rw [if_pos rfl]
      have hRemove : Unaware (Clearing.standard.remove root) := by
        simp only [Clearing.standard]
        exact .onFiles _
      apply hRemove.bind
      intro removed
      cases removed with
      | ok u => exact .report
      | error fault =>
          apply Unaware.bind .now
          intro millis
          apply Unaware.bind .report
          intro _
          have hRename :
              Unaware
                (Clearing.standard.rename root
                  (asidePath root millis)) := by
            simp only [Clearing.standard, Studio.onFile]
            exact .onFiles _
          apply hRename.bind
          intro renamed
          cases renamed with
          | ok u => exact .pure _
          | error fault => exact .report

/- No event decides how a project is laid out. -/
theorem unaware_materialize
    (workspace : Path)
    (request : Request) :
    Unaware (materialize workspace request) := by
  unfold materialize materializeWith
  apply Unaware.except_bind (.lift (unaware_reconcile _))
  intro _
  apply Unaware.except_bind
  · unfold layOut
    apply Unaware.except_bind
    · apply Unaware.forM
      intro p
      exact .of_steps (fun fs dir => fs.makeDirs dir p)
        (Failure.createDir p) (createDir_apply p)
    · intro _
      apply Unaware.forM
      intro file
      exact .of_steps
        (fun fs dir =>
          fs.step (fs.write dir file.1 (Utf8.encode file.2)))
        (Failure.writeFile file.1)
        (writeFile_apply file.1 file.2)
  · intro _
    exact .except_bind (.lift .report) fun _ => .except_pure _

end Project

end PluginStudio

------------------------------------------------------------
-- Tools As Steps On The Files
------------------------------------------------------------

namespace PluginStudio

namespace Tool

/-
  What commands do: how they end and what files they leave, from
  the files they find and the directory that paths start from.
-/
abbrev Behaviour :=
  Command → FileSystem → Place → FileSystem.Steps Outcome

/- Run commands that behave as given. -/
def behaving (behave : Behaviour) : Runner :=
  fun command => Studio.onFiles (behave command)

end Tool

@[simp] theorem Toolchain.dir_command
    (tool : Toolchain)
    (dir : Path) :
    (tool.command dir).dir = dir :=
  rfl

namespace Coordinator

open Studio

/- The first stage lays the project out, and no event counts. -/
theorem materializeStage_apply
    (coordinator : Coordinator)
    (request : Request)
    (world : World) :
    (coordinator.materializeStage request world).1 =
        ((Project.materialize coordinator.workspace request
            world).1.mapError Build.Failure.project).map
          (fun tree => tree.root) ∧
      (coordinator.materializeStage request world).2.files =
          (Project.materialize coordinator.workspace request
            world).2.files ∧
        (coordinator.materializeStage request world).2.dir =
          world.dir := by
  have hUnaware :=
    Project.unaware_materialize coordinator.workspace request
  have hAlike : (pause (publish .materializing world).2).2.Alike world :=
    ⟨rfl, rfl, rfl⟩
  rcases hUnaware.same hAlike with ⟨hResult, hAfter⟩
  have hDir := hUnaware.stays (pause (publish .materializing world).2).2
  unfold materializeStage
  rw [except_bind_apply, except_lift_apply]
  simp only
  rw [except_bind_apply, except_lift_apply]
  simp only
  rw [except_bind_apply, except_adapt_apply]
  rw [← hResult, ← hAfter.files]
  rcases hEq :
      Project.materialize coordinator.workspace request
        (pause (publish .materializing world).2).2 with
    ⟨failure | tree, after⟩
  all_goals
    rw [hEq] at hDir
    exact ⟨rfl, rfl, hDir⟩

/- The second stage runs the tool, and reads its console. -/
theorem invokeStage_apply
    (workspace : Path)
    (tool : Toolchain)
    (behave : Tool.Behaviour)
    (request : Request)
    (root : Path)
    (world : World) :
    (invokeStage ⟨workspace, tool, Tool.behaving behave⟩ request root
        world).1 =
        (match
            (behave (tool.command root) world.files world.dir).1 with
          | .error fault => .error (.tool (.spawn tool.program fault))
          | .ok outcome =>
            if outcome.status.success then .ok ()
            else
              .error
                (.unsuccessful outcome.status
                  (Console.decode outcome.output).text)) ∧
      (invokeStage ⟨workspace, tool, Tool.behaving behave⟩ request
          root world).2.files =
          (behave (tool.command root) world.files world.dir).2 ∧
        (invokeStage ⟨workspace, tool, Tool.behaving behave⟩ request
          root world).2.dir = world.dir := by
  unfold invokeStage
  rw [except_bind_apply, except_lift_apply]
  simp only
  rw [except_bind_apply, except_lift_apply]
  simp only
  rw [except_bind_apply, except_adapt_apply]
  generalize hBefore :
    (report .build .info "running build tool"
      [⟨"plugin", request.pluginName, false⟩]
      (publish .building world).2).2 = before
  have hFiles : before.files = world.files := by
    rw [← hBefore]
    rfl
  have hDir : before.dir = world.dir := by
    rw [← hBefore]
    rfl
  rcases invoke_apply (Tool.behaving behave) tool root before with
    ⟨reported, hReported, hPlace, hResult, hAfter, hStays⟩
  rw [Tool.behaving, onFiles_apply] at hResult hAfter hStays
  simp only [hReported, hPlace, hFiles, hDir] at hResult hAfter hStays
  rcases hEq : Tool.invoke (Tool.behaving behave) tool root before with
    ⟨made, after⟩
  rw [hEq] at hResult hAfter hStays
  simp only at hResult hAfter hStays
  generalize behave (tool.command root) world.files world.dir = left
    at hResult hAfter ⊢
  rcases left with ⟨fault | outcome, files⟩
  · subst hResult
    exact ⟨rfl, hAfter, hStays⟩
  · subst hResult
    simp only [Except.mapError]
    cases hStatus : outcome.status.success with
    | true => exact ⟨rfl, hAfter, hStays⟩
    | false =>
        rcases readConsole_apply outcome.output after with
          ⟨hText, hSame, hSameDir⟩
        simp only [Bool.not_false, if_true]
        rw [except_bind_apply, except_lift_apply, hText]
        exact ⟨rfl, hSame.trans hAfter, hSameDir.trans hStays⟩

/- The third stage looks for the archive and reads it. -/
theorem loadStage_apply
    (request : Request)
    (root : Path)
    (world : World) :
    (loadStage request root world).1 =
        (match Artifact.choose?
            (Artifact.candidates world.files world.dir
              (root.join Project.outputDir)) with
          | none =>
            .error
              (.artifact (.none (root.join Project.outputDir)))
          | some p =>
            match world.files.read world.dir p with
            | .error fault => .error (.artifact (.read p fault))
            | .ok bytes => .ok ⟨p, bytes⟩) ∧
      (loadStage request root world).2.files = world.files ∧
        (loadStage request root world).2.dir = world.dir := by
  unfold loadStage
  rw [except_bind_apply, except_lift_apply]
  simp only
  rw [except_bind_apply, except_adapt_apply]
  rcases select_apply root (publish .selecting world).2 with
    ⟨hResult, hFiles, hDir⟩
  rcases hEq : Artifact.select root (publish .selecting world).2 with
    ⟨made, after⟩
  rw [hEq] at hResult hFiles hDir
  change after.files = world.files at hFiles
  change after.dir = world.dir at hDir
  rw [show (publish .selecting world).2.files = world.files from rfl,
    show (publish .selecting world).2.dir = world.dir from rfl]
    at hResult
  cases hChoose : Artifact.choose?
      (Artifact.candidates world.files world.dir
        (root.join Project.outputDir)) with
  | none =>
      rw [hChoose] at hResult
      subst hResult
      exact ⟨rfl, hFiles, hDir⟩
  | some p =>
      rw [hChoose] at hResult
      subst hResult
      simp only [Except.mapError]
      rw [except_bind_apply, except_lift_apply]
      simp only
      rw [except_bind_apply, except_adapt_apply, readAt_apply]
      rw [show (pause after).2.files = world.files from hFiles,
        show (pause after).2.dir = world.dir from hDir]
      cases world.files.read world.dir p with
      | error fault => exact ⟨rfl, hFiles, hDir⟩
      | ok bytes => exact ⟨rfl, hFiles, hDir⟩

/- The last stage removes the project's tree, if it can. -/
theorem cleanupStage_files
    (root : Path)
    (world : World) :
    (cleanupStage root world).2.files =
        (world.files.removeTree world.dir root).2 ∧
      (cleanupStage root world).2.dir = world.dir := by
  unfold cleanupStage
  rw [except_bind_apply, except_lift_apply]
  simp only
  rw [except_bind_apply, except_lift_apply]
  simp only
  rw [except_lift_apply, Project.cleanup, bind_apply, onFiles_apply]
  simp only
  rw [show (pause (publish .streaming world).2).2.files = world.files
      from rfl,
    show (pause (publish .streaming world).2).2.dir = world.dir
      from rfl]
  rcases world.files.removeTree world.dir root with ⟨fault | _, files⟩
  · simp only
    split_ifs
    · exact ⟨rfl, rfl⟩
    · exact ⟨rfl, rfl⟩
  · exact ⟨rfl, rfl⟩

end Coordinator

end PluginStudio

------------------------------------------------------------
-- Ends Of A Build
------------------------------------------------------------

namespace PluginStudio

namespace Build

/-
  The ways in which a build can end, and the files each of them
  leaves, after the project is laid out and the tool has been
  run on it.
-/
inductive Ends
    (start : Place)
    (root program : Path)
    (laid : Except Project.Failure Project.Tree × FileSystem)
    (left : FileSystem.Steps Tool.Outcome) :
    Result → FileSystem → Prop where
  | unlaid
      {failure : Project.Failure}
      (hLaid : laid.1 = .error failure) :
      Ends start root program laid left (.error (.project failure))
        laid.2
  | unstarted
      {tree : Project.Tree} {fault : IoFault}
      (hLaid : laid.1 = .ok tree)
      (hLeft : left.1 = .error fault) :
      Ends start root program laid left
        (.error (.tool (.spawn program fault))) left.2
  | unsuccessful
      {tree : Project.Tree} {outcome : Tool.Outcome}
      (hLaid : laid.1 = .ok tree)
      (hLeft : left.1 = .ok outcome)
      (hStatus : outcome.status.success = false) :
      Ends start root program laid left
        (.error
          (.unsuccessful outcome.status
            (Console.decode outcome.output).text))
        left.2
  | unselected
      {tree : Project.Tree} {outcome : Tool.Outcome}
      (hLaid : laid.1 = .ok tree)
      (hLeft : left.1 = .ok outcome)
      (hStatus : outcome.status.success = true)
      (hChoose :
        Artifact.choose?
            (Artifact.candidates left.2 start
              (root.join Project.outputDir)) =
          none) :
      Ends start root program laid left
        (.error (.artifact (.none (root.join Project.outputDir))))
        left.2
  | unread
      {tree : Project.Tree} {outcome : Tool.Outcome} {p : Path}
      {fault : IoFault}
      (hLaid : laid.1 = .ok tree)
      (hLeft : left.1 = .ok outcome)
      (hStatus : outcome.status.success = true)
      (hChoose :
        Artifact.choose?
            (Artifact.candidates left.2 start
              (root.join Project.outputDir)) =
          some p)
      (hRead : left.2.read start p = .error fault) :
      Ends start root program laid left
        (.error (.artifact (.read p fault))) left.2
  | finished
      {tree : Project.Tree} {outcome : Tool.Outcome} {p : Path}
      {bytes : Bytes}
      (hLaid : laid.1 = .ok tree)
      (hLeft : left.1 = .ok outcome)
      (hStatus : outcome.status.success = true)
      (hChoose :
        Artifact.choose?
            (Artifact.candidates left.2 start
              (root.join Project.outputDir)) =
          some p)
      (hRead : left.2.read start p = .ok bytes) :
      Ends start root program laid left (.ok ⟨p, bytes⟩)
        (left.2.removeTree start root).2

/-
  Of what was laid out, what the tool left and what remains once
  that is removed, what a build leaves by its result.
-/
def kept
    {α : Type}
    (laid left removed : α) : Result → α
  | .ok _ => removed
  | .error (.project _) => laid
  | .error _ => left

/- What is so in each case is so for what is kept. -/
theorem kept_rel
    {α β : Type}
    {Rel : α → β → Prop}
    {laid left removed : α}
    {laid' left' removed' : β}
    (hLaid : Rel laid laid')
    (hLeft : Rel left left')
    (hRemoved : Rel removed removed')
    (result : Result) :
    Rel (kept laid left removed result)
      (kept laid' left' removed' result) := by
  cases result with
  | ok artifact => exact hRemoved
  | error failure =>
      cases failure with
      | project failure => exact hLaid
      | _ => exact hLeft

namespace Ends

variable {start : Place} {root program : Path}
variable {laid : Except Project.Failure Project.Tree × FileSystem}
variable {left : FileSystem.Steps Tool.Outcome}
variable {result : Result} {files : FileSystem}

/- A build delivers exactly if every stage succeeds. -/
theorem ok_iff
    (hEnds : Ends start root program laid left result files)
    (artifact : Artifact) :
    result = .ok artifact ↔
      (∃ tree, laid.1 = .ok tree) ∧
        ∃ outcome,
          left.1 = .ok outcome ∧
            outcome.status.success = true ∧
              Artifact.choose?
                  (Artifact.candidates left.2 start
                    (root.join Project.outputDir)) =
                some artifact.path ∧
                left.2.read start artifact.path =
                  .ok artifact.bytes := by
  constructor
  · rintro rfl
    cases hEnds with
    | finished hLaid hLeft hStatus hChoose hRead =>
        exact ⟨⟨_, hLaid⟩, _, hLeft, hStatus, hChoose, hRead⟩
  · rintro ⟨⟨tree, hLaid⟩, outcome, hLeft, hStatus, hChoose, hRead⟩
    cases hEnds with
    | unlaid hLaid' => simp [hLaid] at hLaid'
    | unstarted _ hLeft' => simp [hLeft] at hLeft'
    | unsuccessful _ hLeft' hStatus' =>
        rw [hLeft, Except.ok.injEq] at hLeft'
        simp [← hLeft', hStatus] at hStatus'
    | unselected _ _ _ hChoose' => simp [hChoose] at hChoose'
    | unread _ _ _ hChoose' hRead' =>
        rw [hChoose, Option.some.injEq] at hChoose'
        simp [← hChoose', hRead] at hRead'
    | finished _ _ _ hChoose' hRead' =>
        rw [hChoose, Option.some.injEq] at hChoose'
        rw [← hChoose', hRead, Except.ok.injEq] at hRead'
        rw [← hChoose', ← hRead']

/- The project is to blame exactly if it is not laid out. -/
theorem project_iff
    (hEnds : Ends start root program laid left result files)
    (failure : Project.Failure) :
    result = .error (.project failure) ↔
      laid.1 = .error failure := by
  constructor
  · rintro rfl
    cases hEnds with
    | unlaid hLaid => exact hLaid
  · intro hFailure
    cases hEnds with
    | unlaid hLaid =>
        rw [hFailure, Except.error.injEq] at hLaid
        rw [hLaid]
    | unstarted hLaid _ => simp [hFailure] at hLaid
    | unsuccessful hLaid _ _ => simp [hFailure] at hLaid
    | unselected hLaid _ _ _ => simp [hFailure] at hLaid
    | unread hLaid _ _ _ _ => simp [hFailure] at hLaid
    | finished hLaid _ _ _ _ => simp [hFailure] at hLaid

/- The files that each kind of end leaves. -/
theorem files_eq
    (hEnds : Ends start root program laid left result files) :
    files =
      kept laid.2 left.2 (left.2.removeTree start root).2
        result := by
  cases hEnds <;> rfl

/- A tool that ends without success decides the result. -/
theorem eq_unsuccessful
    (hEnds : Ends start root program laid left result files)
    {tree : Project.Tree}
    (hLaid : laid.1 = .ok tree)
    {outcome : Tool.Outcome}
    (hLeft : left.1 = .ok outcome)
    (hStatus : outcome.status.success = false) :
    result =
      .error
        (.unsuccessful outcome.status
          (Console.decode outcome.output).text) := by
  cases hEnds with
  | unlaid hLaid' => simp [hLaid] at hLaid'
  | unstarted _ hLeft' => simp [hLeft] at hLeft'
  | unsuccessful _ hLeft' _ =>
      rw [hLeft, Except.ok.injEq] at hLeft'
      rw [hLeft']
  | unselected _ hLeft' hStatus' _
  | unread _ hLeft' hStatus' _ _
  | finished _ hLeft' hStatus' _ _ =>
      rw [hLeft, Except.ok.injEq] at hLeft'
      simp [← hLeft', hStatus] at hStatus'

/- What was laid out and what the tool left decide how it ends. -/
theorem unique
    (hEnds : Ends start root program laid left result files)
    {result' : Result}
    {files' : FileSystem}
    (hOther : Ends start root program laid left result' files') :
    result' = result ∧ files' = files := by
  have hResult : result' = result := by
    cases hEnds <;> cases hOther <;> simp_all
  rw [hOther.files_eq, hEnds.files_eq, hResult]
  exact ⟨rfl, rfl⟩

/- Only a tool that cannot be started gives no outcome. -/
theorem unstarted_of_tool
    (hEnds : Ends start root program laid left result files)
    {failure : Tool.Failure}
    (hResult : result = .error (.tool failure)) :
    ∃ fault,
      left.1 = .error fault ∧ failure = .spawn program fault := by
  subst hResult
  cases hEnds with
  | unstarted _ hLeft => exact ⟨_, hLeft, rfl⟩

end Ends

end Build

namespace Coordinator

open Studio Build

/- A build leaves the files that its stages leave. -/
theorem build_files
    (coordinator : Coordinator)
    (request : Request)
    (world : World) :
    (coordinator.build request world).2.files =
        (coordinator.stages request world).2.files ∧
      (coordinator.build request world).2.dir =
        (coordinator.stages request world).2.dir := by
  unfold build
  generalize coordinator.stages request = work
  simp only [ExceptT.run]
  rw [bind_apply]
  rcases work world with ⟨failure | artifact, after⟩
  · exact ⟨rfl, rfl⟩
  · exact ⟨rfl, rfl⟩

/- Where the project could not be laid out, no tool is run. -/
theorem build_of_unlaid
    (coordinator other : Coordinator)
    (hWorkspace : other.workspace = coordinator.workspace)
    {request : Request}
    {world : World}
    {failure : Project.Failure}
    (hLaid :
      (Project.materialize coordinator.workspace request world).1 =
        .error failure) :
    other.build request world = coordinator.build request world := by
  have hSame :
      other.materializeStage request =
        coordinator.materializeStage request := by
    unfold materializeStage
    rw [hWorkspace]
  have hStages :
      other.stages request world = coordinator.stages request world := by
    unfold stages
    rw [hSame, except_bind_apply, except_bind_apply]
    rcases materializeStage_apply coordinator request world with
      ⟨hResult, -⟩
    rw [hLaid] at hResult
    rcases hEq : coordinator.materializeStage request world with
      ⟨made, after⟩
    rw [hEq] at hResult
    simp only at hResult
    subst hResult
    rfl
  unfold build
  generalize other.stages request = work' at hStages ⊢
  generalize coordinator.stages request = work at hStages ⊢
  simp only [ExceptT.run, bind_apply, hStages]

/- The tree of a project that is laid out is that of its request. -/
theorem tree_of_materialize
    {workspace : Path}
    {request : Request}
    {world : World}
    {tree : Project.Tree}
    (hLaid :
      (Project.materialize workspace request world).1 = .ok tree) :
    tree = Project.tree workspace request := by
  rcases hEq :
      Project.layOut (Project.tree workspace request) request
        (Project.reconcile .standard
          (Project.tree workspace request).root world).2 with
    ⟨outcome, after⟩
  rcases Project.materialize_apply workspace request world hEq with
    ⟨hResult, -⟩
  rw [hLaid] at hResult
  cases outcome with
  | error failure => simp [Except.map] at hResult
  | ok u => simpa only [Except.map, Except.ok.injEq] using hResult

/- Every build ends in one of the ways, where it started. -/
theorem ends_build
    {workspace : Path}
    (tool : Toolchain)
    (behave : Tool.Behaviour)
    {request : Request}
    {world after : World}
    {laid : Except Project.Failure Project.Tree}
    (hLaid :
      Project.materialize workspace request world = (laid, after)) :
    Ends world.dir (Project.dir workspace request) tool.program
        (laid, after.files)
        (behave (tool.command (Project.dir workspace request))
          after.files world.dir)
        (build ⟨workspace, tool, Tool.behaving behave⟩ request
          world).1
        (build ⟨workspace, tool, Tool.behaving behave⟩ request
          world).2.files ∧
      (build ⟨workspace, tool, Tool.behaving behave⟩ request
        world).2.dir = world.dir := by
  rcases materializeStage_apply
      ⟨workspace, tool, Tool.behaving behave⟩ request world with
    ⟨hMade, hFiles, hDir⟩
  have hTree : ∀ tree, laid = .ok tree →
      tree.root = Project.dir workspace request := by
    intro tree hOk
    have hResult :
        (Project.materialize workspace request world).1 = .ok tree := by
      rw [hLaid, hOk]
    rw [tree_of_materialize hResult,
      Project.root_eq workspace request]
  simp only [hLaid] at hMade hFiles
  rcases build_files ⟨workspace, tool, Tool.behaving behave⟩ request
      world with
    ⟨hBuilt, hStays⟩
  rw [build_apply, hBuilt, hStays]
  unfold stages
  rw [except_bind_apply]
  rcases hFirst :
      materializeStage ⟨workspace, tool, Tool.behaving behave⟩ request
        world with
    ⟨made, world₁⟩
  rw [hFirst] at hMade hFiles hDir
  simp only at hMade hFiles hDir
  generalize Project.dir workspace request = root at hTree ⊢
  cases laid with
  | error failure =>
      subst hMade
      simp only [Except.mapError, Except.map]
      rw [hFiles]
      exact ⟨.unlaid rfl, hDir⟩
  | ok tree =>
      subst hMade
      simp only [Except.mapError, Except.map]
      rw [hTree tree rfl, except_bind_apply]
      rcases invokeStage_apply workspace tool behave request root
          world₁ with
        ⟨hRun, hLeft, hDir₁⟩
      rw [hFiles, hDir] at hRun hLeft
      rw [hDir] at hDir₁
      rcases hSecond :
          invokeStage ⟨workspace, tool, Tool.behaving behave⟩ request
            root world₁ with
        ⟨ran, world₂⟩
      rw [hSecond] at hRun hLeft hDir₁
      simp only at hRun hLeft hDir₁
      generalize behave (tool.command root) after.files world.dir =
        left at hRun hLeft ⊢
      rcases left with ⟨fault | outcome, files⟩
      · subst hRun
        simp only
        rw [hLeft]
        exact ⟨.unstarted rfl rfl, hDir₁⟩
      · cases hStatus : outcome.status.success with
        | false =>
            simp only [hStatus] at hRun
            subst hRun
            simp only [Bool.false_eq_true, if_false]
            rw [hLeft]
            exact ⟨.unsuccessful rfl rfl hStatus, hDir₁⟩
        | true =>
            simp only [hStatus, if_true] at hRun
            subst hRun
            simp only
            rw [except_bind_apply]
            rcases loadStage_apply request root world₂ with
              ⟨hLoad, hSame, hDir₂⟩
            rw [hLeft, hDir₁] at hLoad
            rw [hLeft] at hSame
            rw [hDir₁] at hDir₂
            rcases hThird : loadStage request root world₂ with
              ⟨loaded, world₃⟩
            rw [hThird] at hLoad hSame hDir₂
            simp only at hLoad hSame hDir₂
            cases hChoose : Artifact.choose?
                (Artifact.candidates files world.dir
                  (root.join Project.outputDir)) with
            | none =>
                rw [hChoose] at hLoad
                subst hLoad
                simp only
                rw [hSame]
                exact ⟨.unselected rfl rfl hStatus hChoose, hDir₂⟩
            | some p =>
                rw [hChoose] at hLoad
                simp only at hLoad
                cases hRead : files.read world.dir p with
                | error fault =>
                    rw [hRead] at hLoad
                    subst hLoad
                    simp only
                    rw [hSame]
                    exact
                      ⟨.unread rfl rfl hStatus hChoose hRead, hDir₂⟩
                | ok bytes =>
                    rw [hRead] at hLoad
                    subst hLoad
                    simp only
                    rw [except_bind_apply]
                    have hClean := cleanupStage_apply root world₃
                    rcases cleanupStage_files root world₃ with
                      ⟨hGone, hDir₃⟩
                    rcases hLast : cleanupStage root world₃ with
                      ⟨cleaned, world₄⟩
                    rw [hLast] at hClean hGone hDir₃
                    simp only at hClean hGone hDir₃
                    subst hClean
                    simp only
                    rw [except_pure_apply, hGone, hSame, hDir₂]
                    exact ⟨.finished rfl rfl hStatus hChoose hRead,
                      hDir₃.trans hDir₂⟩

/- No event decides how a build ends and what it leaves. -/
theorem build_of_alike
    (workspace : Path)
    (tool : Toolchain)
    (behave : Tool.Behaviour)
    (request : Request)
    {world world' : World}
    (hAlike : world.Alike world') :
    (build ⟨workspace, tool, Tool.behaving behave⟩ request world').1 =
        (build ⟨workspace, tool, Tool.behaving behave⟩ request
          world).1 ∧
      (build ⟨workspace, tool, Tool.behaving behave⟩ request
          world').2.files =
        (build ⟨workspace, tool, Tool.behaving behave⟩ request
          world).2.files := by
  rcases (Project.unaware_materialize workspace request).same hAlike
    with ⟨hResult, hAfter⟩
  rcases hLaid : Project.materialize workspace request world with
    ⟨laid, after⟩
  rcases hLaid' : Project.materialize workspace request world' with
    ⟨laid', after'⟩
  rw [hLaid, hLaid'] at hResult hAfter
  rcases ends_build tool behave hLaid with ⟨hEnds, -⟩
  rcases ends_build tool behave hLaid' with ⟨hEnds', -⟩
  have hFiles := hAfter.files
  simp only at hResult hFiles
  rw [← hResult, ← hFiles, ← hAlike.dir] at hEnds'
  exact hEnds.unique hEnds'

end Coordinator

end PluginStudio
