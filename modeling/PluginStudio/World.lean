import PluginStudio.Build.Phase
import PluginStudio.Event
import PluginStudio.Files.Operation

/-
  What the studio sees and changes while it works.

  Key definitions include:
    * `PluginStudio.World`
    * `PluginStudio.Studio`
    * `PluginStudio.Studio.report`
    * `PluginStudio.Studio.publish`
    * `PluginStudio.Studio.pause`
    * `PluginStudio.Studio.onFiles`
    * `PluginStudio.Studio.now`
-/

------------------------------------------------------------
-- Worlds
------------------------------------------------------------

namespace PluginStudio

/-
  The files, the directory that relative paths start from, the
  time in milliseconds, the events so far, and what an observer
  of the builds could notice so far.
-/
structure World where
  files : FileSystem
  dir : Place
  clock : Nat
  journal : List Event
  moments : List Build.Moment

namespace World

/- The phase that was published last. -/
def phase (world : World) : Build.Phase :=
  Build.current world.moments

end World

/- Work that changes the world. -/
abbrev Studio :=
  StateM World

namespace Studio

/- Report an event. -/
def report
    (topic : Topic)
    (level : Level)
    (message : String)
    (details : List Detail) : Studio Unit :=
  modify fun world =>
    { world with
      journal := world.journal ++ [⟨topic, level, message, details⟩] }

/- Publish the phase that a build has come to. -/
def publish (phase : Build.Phase) : Studio Unit :=
  modify fun world =>
    { world with moments := world.moments ++ [.published phase] }

/- Wait for something, while others may look. -/
def pause : Studio Unit :=
  modify fun world =>
    { world with moments := world.moments ++ [.paused] }

/- Look at the files. -/
def inspect
    {α : Type}
    (view : FileSystem → Place → α) : Studio α := do
  let world ← get
  return view world.files world.dir

/- Work on the files in several steps. -/
def onFiles
    {α : Type}
    (work : FileSystem → Place → FileSystem.Steps α) :
    Studio (Except IoFault α) :=
  fun world =>
    let (result, files) := work world.files world.dir
    (result, { world with files := files })

/- Work on the files in one step. -/
def onFile
    (work : FileSystem → Place → Except IoFault FileSystem) :
    Studio (Except IoFault Unit) :=
  onFiles fun fs dir => fs.step (work fs dir)

/- The time, which never stands still. -/
def now : Studio Nat :=
  fun world => (world.clock, { world with clock := world.clock + 1 })

end Studio

end PluginStudio
