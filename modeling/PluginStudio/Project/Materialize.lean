import PluginStudio.Build.Failure
import PluginStudio.Project.Layout
import PluginStudio.World

/-
  Laying a plugin project out on disk, and clearing it away.

  Key definitions include:
    * `PluginStudio.Project.Clearing`
    * `PluginStudio.Project.asidePath`
    * `PluginStudio.Project.reconcile`
    * `PluginStudio.Project.materialize`
    * `PluginStudio.Project.cleanup`

  Whatever occupies the project's directory is removed, or
  renamed where it cannot be removed.  The project is laid out
  even if neither works.
-/

------------------------------------------------------------
-- The Previous Occupant
------------------------------------------------------------

namespace PluginStudio

namespace Project

/- The two ways to clear a place. -/
structure Clearing where
  remove : Path → Studio (Except IoFault Unit)
  rename : Path → Path → Studio (Except IoFault Unit)

/- Clearing by what the file system offers. -/
def Clearing.standard : Clearing where
  remove p := Studio.onFiles fun fs dir => fs.removeTree dir p
  rename source target :=
    Studio.onFile fun fs dir => fs.rename dir source target

/- The name under which an occupant is kept at a time. -/
def asidePath
    (root : Path)
    (millis : Nat) : Path :=
  let name := Path.display ((root.fileName?).getD "")
  root.withFileName
    (Path.ofText (name ++ ".stale-" ++ toString millis))

/- Clear the way for a project. -/
def reconcile
    (clearing : Clearing)
    (root : Path) : Studio Unit := do
  if ← Studio.inspect fun fs dir => fs.pathExists dir root then
    match ← clearing.remove root with
    | .ok () =>
      Studio.report .project .debug "removed previous project tree"
        [⟨"path", root.display, false⟩]
    | .error fault =>
      let aside := asidePath root (← Studio.now)
      Studio.report .project .warn
        "failed to remove previous project tree, renaming aside"
        [⟨"path", root.display, false⟩, ⟨"error", fault.message, false⟩,
          ⟨"aside", aside.display, false⟩]
      match ← clearing.rename root aside with
      | .ok () => return
      | .error fault =>
        Studio.report .project .warn "failed to rename previous project tree"
          [⟨"path", root.display, false⟩, ⟨"error", fault.message, false⟩]

end Project

end PluginStudio

------------------------------------------------------------
-- Laying Out
------------------------------------------------------------

namespace PluginStudio

namespace Project

/- A directory of the project. -/
def createDir (p : Path) : ExceptT Failure Studio Unit :=
  ExceptT.mk do
    match ← Studio.onFiles fun fs dir => fs.makeDirs dir p with
    | .ok () => return .ok ()
    | .error fault => return .error (.createDir p fault)

/- A file of the project. -/
def writeFile
    (p : Path)
    (text : String) : ExceptT Failure Studio Unit :=
  ExceptT.mk do
    match ← Studio.onFile fun fs dir =>
        fs.write dir p (Utf8.encode text) with
    | .ok () => return .ok ()
    | .error fault => return .error (.writeFile p fault)

/- The files of a project with their texts, in their order. -/
def contents
    (tree : Tree)
    (request : Request) : List (Path × String) :=
  [(tree.manifest, Descriptor.manifest.text request),
      (tree.metadata, Descriptor.metadata.text request)] ++
    (tree.config?.toList.map fun p => (p, request.configYml)) ++
    [(tree.sourceFile, request.javaCode)]

/- The directories of a project, in their order. -/
def directories (tree : Tree) : List Path :=
  [tree.root, tree.sources, tree.resources]

/- Lay a project out once its place is clear. -/
def layOut
    (tree : Tree)
    (request : Request) : ExceptT Failure Studio Unit := do
  (directories tree).forM createDir
  (contents tree request).forM fun file => writeFile file.1 file.2

/- Lay a project out, with given ways to clear its place. -/
def materializeWith
    (clearing : Clearing)
    (workspace : Path)
    (request : Request) : ExceptT Failure Studio Tree := do
  let tree := Project.tree workspace request
  reconcile clearing tree.root
  layOut tree request
  Studio.report .project .info "materialized project"
    [⟨"plugin", request.pluginName, false⟩,
      ⟨"path", tree.root.display, false⟩]
  return tree

/- Lay a project out in a workspace. -/
def materialize
    (workspace : Path)
    (request : Request) : ExceptT Failure Studio Tree :=
  materializeWith .standard workspace request

/- Clear a finished project away, if that is possible. -/
def cleanup (root : Path) : Studio Unit := do
  match ← Studio.onFiles fun fs dir => fs.removeTree dir root with
  | .ok () =>
    Studio.report .project .debug "removed project tree"
      [⟨"path", root.display, false⟩]
  | .error fault =>
    if !fault.isNotFound then
      Studio.report .project .warn "failed to remove project tree"
        [⟨"path", root.display, false⟩, ⟨"error", fault.message, false⟩]

end Project

end PluginStudio
