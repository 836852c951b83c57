import PluginStudio.Build.Failure
import PluginStudio.Project.Layout
import PluginStudio.Text.Search
import PluginStudio.World

/-
  The archive that a build leaves behind.

  Key definitions include:
    * `PluginStudio.Artifact`
    * `PluginStudio.Artifact.isAuxiliary`
    * `PluginStudio.Artifact.candidates`
    * `PluginStudio.Artifact.choose?`
    * `PluginStudio.Artifact.select`
    * `PluginStudio.Artifact.readAt`
    * `PluginStudio.Artifact.load`

  A build may leave companions of the archive beside it.  The
  first archive by name that is none of them is taken, and the
  first by name if all of them are.
-/

------------------------------------------------------------
-- Choosing
------------------------------------------------------------

namespace PluginStudio

/- An archive in memory. -/
structure Artifact where
  path : Path
  bytes : Bytes
deriving DecidableEq, Repr

namespace Artifact

/- What the name of an archive ends with. -/
def fileExtension : String := "jar"

/- What the names of companions hold. -/
def auxiliaryMarkers : List String :=
  ["sources", "original"]

/- Is the archive a companion? -/
def isAuxiliary (p : Path) : Bool :=
  auxiliaryMarkers.any fun marker =>
    Text.holds ((p.fileName?).getD "").toList marker.toList

/- The archives among the entries of a directory. -/
def archives
    (dir : Path)
    (entries : List (String × Node)) : List Path :=
  ((entries.filter fun entry => entry.2.isFile).map fun entry =>
    dir.join entry.1).filter fun p =>
      p.extension? = some fileExtension

/- The archives right inside a directory, by name. -/
def candidates
    (fs : FileSystem)
    (cwd : Place)
    (dir : Path) : List Path :=
  match fs.list cwd dir with
  | .ok entries => archives dir entries
  | .error _ => []

/- The archive to take. -/
def choose? (found : List Path) : Option Path :=
  match found.find? fun p => !isAuxiliary p with
  | some p => some p
  | none => found.head?

/- The archive of a project. -/
def select (project : Path) : ExceptT Failure Studio Path :=
  ExceptT.mk do
    let dir := project.join Project.outputDir
    let found ← Studio.inspect fun fs cwd => candidates fs cwd dir
    Studio.report .artifact .debug "artifact candidates"
      [⟨"dir", dir.display, false⟩, ⟨"count", toString found.length, false⟩]
    match choose? found with
    | some p => return .ok p
    | none => return .error (.none dir)

/- An archive, read. -/
def readAt (p : Path) : ExceptT Failure Studio Artifact :=
  ExceptT.mk do
    match ← Studio.inspect fun fs cwd => fs.read cwd p with
    | .ok bytes => return .ok ⟨p, bytes⟩
    | .error fault => return .error (.read p fault)

/- The archive of a project, read. -/
def load (project : Path) : ExceptT Failure Studio Artifact := do
  let p ← select project
  readAt p

end Artifact

end PluginStudio
