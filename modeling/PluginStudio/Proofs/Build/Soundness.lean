import PluginStudio.Build.Coordinator
import PluginStudio.Proofs.Project.Materialization

/-
  Builds keep the files in order.

  Key definitions include:
    * `PluginStudio.Studio.Sound`

  Main declarations:
    * `Studio.Sound.bind`, `Studio.Sound.forM`
    * `Project.sound_materialize`, `Project.sound_cleanup`
    * `Coordinator.sound_build`, `Coordinator.sound_buildAll`

  Whatever a build does, and however it ends, it leaves a well
  formed file system, if its tool does.
-/

------------------------------------------------------------
-- Sound Work
------------------------------------------------------------

namespace PluginStudio

namespace Studio

/- Work that leaves a well formed file system as it finds one. -/
def Sound
    {α : Type}
    (work : World → α × World) : Prop :=
  ∀ world,
    world.files.WellFormed → (work world).2.files.WellFormed

namespace Sound

variable {ε α β : Type}

/- Work that does not touch the files. -/
theorem of_same
    {work : World → α × World}
    (hSame : ∀ world, (work world).2.files = world.files) :
    Sound work :=
  Preserves.of_same hSame

theorem bind
    {first : Studio α}
    {next : α → Studio β}
    (hFirst : Sound first)
    (hNext : ∀ a, Sound (next a)) :
    Sound (first >>= next) :=
  Preserves.bind hFirst hNext

theorem except_bind
    {first : ExceptT ε Studio α}
    {next : α → ExceptT ε Studio β}
    (hFirst : Sound first)
    (hNext : ∀ a, Sound (next a)) :
    Sound (first >>= next) :=
  Preserves.except_bind hFirst hNext

theorem forM
    {items : List α}
    {work : α → ExceptT ε Studio PUnit}
    (hWork : ∀ item ∈ items, Sound (work item)) :
    Sound (items.forM work) :=
  Preserves.forM hWork

/- Failures told in other words. -/
theorem adapt
    {ε' : Type}
    {work : ExceptT ε Studio α}
    (tell : ε → ε')
    (hWork : Sound work) :
    Sound (ExceptT.adapt tell work) := by
  intro world hFiles
  exact hWork world hFiles

end Sound

end Studio

end PluginStudio

------------------------------------------------------------
-- Projects
------------------------------------------------------------

namespace PluginStudio

namespace Project

open Studio FileSystem

theorem sound_reconcile
    (root : Path) :
    Sound (reconcile .standard root) := by
  intro world hFiles
  rw [(reconcile_files root world).1]
  exact wellFormed_cleared hFiles ..

theorem sound_createDir
    (p : Path) :
    Sound (createDir p) := by
  intro world hFiles
  rw [createDir_apply]
  exact hFiles.makeDirsOn world.dir p.ancestors

theorem sound_writeFile
    (p : Path)
    (text : String) :
    Sound (writeFile p text) := by
  intro world hFiles
  rw [writeFile_apply]
  cases hWrite :
      world.files.write world.dir p (Utf8.encode text) with
  | error fault => exact hFiles
  | ok files => exact WellFormed.write hFiles hWrite

theorem sound_materialize
    (workspace : Path)
    (request : Request) :
    Sound (materialize workspace request) := by
  intro world hFiles
  rcases hLaid :
      layOut (tree workspace request) request
        (reconcile .standard (tree workspace request).root world).2
    with ⟨outcome, world'⟩
  rw [(materialize_apply workspace request world hLaid).2.1]
  have hSound : Sound (layOut (tree workspace request) request) :=
    Sound.except_bind (Sound.forM fun p _ => sound_createDir p)
      fun _ => Sound.forM fun file _ => sound_writeFile file.1 file.2
  have hAfter := hSound _
    (sound_reconcile (tree workspace request).root world hFiles)
  rw [hLaid] at hAfter
  exact hAfter

theorem sound_cleanup
    (root : Path) :
    Sound (cleanup root) := by
  refine Sound.bind ?_ fun result => ?_
  · intro world hFiles
    exact hFiles.removeTree world.dir root
  · cases result with
    | ok u => exact .of_same fun _ => rfl
    | error fault =>
        simp only
        split_ifs
        · exact .of_same fun _ => rfl
        · exact .of_same fun _ => rfl

end Project

end PluginStudio

------------------------------------------------------------
-- Builds
------------------------------------------------------------

namespace PluginStudio

namespace Coordinator

open Studio

variable {coordinator : Coordinator}

/- Only the run of the tool's command touches the files. -/
theorem invoke_apply
    (run : Tool.Runner)
    (tool : Toolchain)
    (project : Path)
    (world : World) :
    ∃ reported : World,
      reported.files = world.files ∧ reported.dir = world.dir ∧
        (Tool.invoke run tool project world).1 =
            (run (tool.command project) reported).1.mapError
              (Tool.Failure.spawn tool.program) ∧
          (Tool.invoke run tool project world).2.files =
              (run (tool.command project) reported).2.files ∧
            (Tool.invoke run tool project world).2.dir =
              (run (tool.command project) reported).2.dir := by
  unfold Tool.invoke
  simp only [ExceptT.mk]
  rw [bind_apply]
  generalize hReport :
    report .invocation .debug "spawning build tool"
      [⟨"program", tool.program.display, false⟩,
        ⟨"dir", project.display, false⟩] world = reported
  refine ⟨reported.2, by rw [← hReport]; rfl,
    by rw [← hReport]; rfl, ?_⟩
  rw [bind_apply]
  rcases run (tool.command project) reported.2 with
    ⟨fault | outcome, world'⟩ <;> exact ⟨rfl, rfl, rfl⟩

/- Reading the console leaves the files alone. -/
theorem readConsole_apply
    (output : Bytes)
    (world : World) :
    (Tool.readConsole output world).1 =
        (Console.decode output).text ∧
      (Tool.readConsole output world).2.files = world.files ∧
        (Tool.readConsole output world).2.dir = world.dir := by
  rw [Tool.readConsole]
  simp only
  cases (Console.decode output).faulty <;> exact ⟨rfl, rfl, rfl⟩

/- So does the choice of an archive. -/
theorem select_apply
    (project : Path)
    (world : World) :
    (Artifact.select project world).1 =
        (match Artifact.choose?
            (Artifact.candidates world.files world.dir
              (project.join Project.outputDir)) with
          | some p => .ok p
          | none => .error (.none (project.join Project.outputDir))) ∧
      (Artifact.select project world).2.files = world.files ∧
        (Artifact.select project world).2.dir = world.dir := by
  unfold Artifact.select
  generalize project.join Project.outputDir = dir
  simp only [ExceptT.mk]
  rw [bind_apply, inspect_apply, bind_apply]
  simp only
  cases Artifact.choose?
    (Artifact.candidates world.files world.dir dir) <;>
      exact ⟨rfl, rfl, rfl⟩

theorem readAt_apply
    (p : Path)
    (world : World) :
    Artifact.readAt p world =
      (match world.files.read world.dir p with
        | .ok bytes => .ok ⟨p, bytes⟩
        | .error fault => .error (.read p fault), world) := by
  unfold Artifact.readAt
  simp only [ExceptT.mk]
  rw [bind_apply, inspect_apply]
  cases world.files.read world.dir p <;> rfl

/- Clearing a project away never fails. -/
theorem cleanupStage_apply
    (root : Path)
    (world : World) :
    (cleanupStage root world).1 = .ok () := by
  rw [cleanupStage, except_bind_apply, except_lift_apply]
  simp only
  rw [except_bind_apply, except_lift_apply]
  simp only
  rw [except_lift_apply]

/- A build ends as its stages do. -/
theorem build_apply
    (coordinator : Coordinator)
    (request : Request)
    (world : World) :
    (coordinator.build request world).1 =
      (coordinator.stages request world).1 := by
  rw [build]
  generalize coordinator.stages request = work
  rfl

theorem sound_invokeStage
    (hRun : ∀ command, Sound (coordinator.run command))
    (request : Request)
    (root : Path) :
    Sound (coordinator.invokeStage request root) := by
  refine .except_bind (.of_same fun _ => rfl) fun _ => ?_
  refine .except_bind (.of_same fun _ => rfl) fun _ => ?_
  refine .except_bind (.adapt _ ?_) fun outcome => ?_
  · intro world hFiles
    obtain ⟨reported, hSame, -, -, hAfter, -⟩ :=
      invoke_apply coordinator.run coordinator.tool root world
    rw [hAfter]
    exact hRun _ reported (by rwa [hSame])
  · split_ifs
    · refine .except_bind ?_ fun _ => .of_same fun _ => rfl
      exact .of_same fun world => (readConsole_apply _ world).2.1
    · exact .of_same fun _ => rfl

theorem sound_loadStage
    (request : Request)
    (root : Path) :
    Sound (loadStage request root) := by
  refine .except_bind (.of_same fun _ => rfl) fun _ => ?_
  refine .except_bind (.adapt _ ?_) fun path => ?_
  · exact .of_same fun world => (select_apply root world).2.1
  refine .except_bind (.of_same fun _ => rfl) fun _ => ?_
  refine .except_bind (.adapt _ ?_) fun artifact => ?_
  · exact .of_same fun world => by rw [readAt_apply]
  exact .except_bind (.of_same fun _ => rfl) fun _ =>
    .of_same fun _ => rfl

theorem sound_stages
    (hRun : ∀ command, Sound (coordinator.run command))
    (request : Request) :
    Sound (coordinator.stages request) := by
  refine .except_bind ?_ fun root => ?_
  · refine .except_bind (.of_same fun _ => rfl) fun _ => ?_
    refine .except_bind (.of_same fun _ => rfl) fun _ => ?_
    refine .except_bind (.adapt _ ?_) fun _ => .of_same fun _ => rfl
    exact Project.sound_materialize coordinator.workspace request
  refine .except_bind (sound_invokeStage hRun request root)
    fun _ => ?_
  refine .except_bind (sound_loadStage request root)
    fun artifact => ?_
  refine .except_bind ?_ fun _ => .of_same fun _ => rfl
  refine .except_bind (.of_same fun _ => rfl) fun _ => ?_
  refine .except_bind (.of_same fun _ => rfl) fun _ => ?_
  intro world hFiles
  exact Project.sound_cleanup root world hFiles

/- A build leaves a well formed file system. -/
theorem sound_build
    (hRun : ∀ command, Sound (coordinator.run command))
    (request : Request) :
    Sound (coordinator.build request) := by
  refine Sound.bind (sound_stages hRun request) fun result => ?_
  refine Sound.bind (.of_same fun _ => rfl) fun _ => ?_
  refine Sound.bind ?_ fun _ => .of_same fun _ => rfl
  cases result <;> exact .of_same fun _ => rfl

theorem sound_buildAll
    (hRun : ∀ command, Sound (coordinator.run command))
    (requests : List Request) :
    Sound (coordinator.buildAll requests) := by
  induction requests with
  | nil => exact .of_same fun _ => rfl
  | cons request requests ih =>
      refine .bind (sound_build hRun request) fun _ => ?_
      exact .bind ih fun _ => .of_same fun _ => rfl

end Coordinator

end PluginStudio
