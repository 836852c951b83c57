import PluginStudio.Files.Walk

/-
  What a process can do to a file system.

  Key definitions include:
    * `PluginStudio.FileSystem.makeDir`
    * `PluginStudio.FileSystem.removeDir`
    * `PluginStudio.FileSystem.unlink`
    * `PluginStudio.FileSystem.rename`
    * `PluginStudio.FileSystem.write`
    * `PluginStudio.FileSystem.read`
    * `PluginStudio.FileSystem.makeDirs`
    * `PluginStudio.FileSystem.removeTree`

  A single operation either changes the file system or gives a
  fault.  `makeDirs` and `removeTree` take several steps, so
  they can fail after part of their work is done.
-/

------------------------------------------------------------
-- Single Entries
------------------------------------------------------------

namespace PluginStudio

namespace FileSystem

/- Permission bits of new directories. -/
def dirMode : Nat := 0o755

/- Permission bits of new files. -/
def fileMode : Nat := 0o644

/- The fault with a number. -/
def refuse
    {α : Type}
    (errno : Errno) : Except IoFault α :=
  .error (.system errno)

/- A name that a directory could hold. -/
def checkName (name : String) : Except IoFault Unit :=
  if Path.longestName < name.length then
    refuse .nameTooLong
  else
    .ok ()

/- A new entry under a name that is free. -/
def create
    (fs : FileSystem)
    (dir : Place)
    (p : Path)
    (node : Node) : Except IoFault FileSystem := do
  let location ← fs.locate dir p
  match location.last with
  | .name name =>
    checkName name
    let place := location.dir ++ [name]
    if (fs.node? place).isSome then
      refuse .alreadyExists
    else if location.slash && !node.isDirectory then
      refuse .noEntry
    else
      return fs.put place node
  | _ => refuse .alreadyExists

/- A new directory. -/
def makeDir
    (fs : FileSystem)
    (dir : Place)
    (p : Path) : Except IoFault FileSystem :=
  fs.create dir p (.directory dirMode)

/- A new link. -/
def makeLink
    (fs : FileSystem)
    (dir : Place)
    (target p : Path) : Except IoFault FileSystem :=
  fs.create dir p (.link target)

/- Without a directory, which has to be empty. -/
def removeDir
    (fs : FileSystem)
    (dir : Place)
    (p : Path) : Except IoFault FileSystem := do
  let location ← fs.locate dir p
  match location.last with
  | .dot => refuse .invalidArgument
  | .dotDot => refuse .notEmpty
  | .root => refuse .busy
  | .name name =>
    checkName name
    let place := location.dir ++ [name]
    match fs.node? place with
    | none => refuse .noEntry
    | some node =>
      if !node.isDirectory then refuse .notDirectory
      else if fs.hasChildren place then refuse .notEmpty
      else return fs.erase place

/- Without a file or a link. -/
def unlink
    (fs : FileSystem)
    (dir : Place)
    (p : Path) : Except IoFault FileSystem := do
  let location ← fs.locate dir p
  match location.last with
  | .name name =>
    checkName name
    let place := location.dir ++ [name]
    match fs.node? place with
    | none => refuse .noEntry
    | some node =>
      if node.isDirectory then refuse .isDirectory
      else if location.slash then refuse .notDirectory
      else return fs.erase place
  | _ => refuse .isDirectory

/- May what stands at a place give way to a node moved there? -/
def replaceable
    (fs : FileSystem)
    (node : Node)
    (target : Place) : Except IoFault Unit :=
  match fs.node? target with
  | none => .ok ()
  | some old =>
    if node.isDirectory then
      if !old.isDirectory then refuse .notDirectory
      else if fs.hasChildren target then refuse .notEmpty
      else .ok ()
    else if old.isDirectory then
      refuse .isDirectory
    else
      .ok ()

/- With an entry under another name. -/
def rename
    (fs : FileSystem)
    (dir : Place)
    (source target : Path) : Except IoFault FileSystem := do
  let old ← fs.locate dir source
  let new ← fs.locate dir target
  match old.last, new.last with
  | .name oldName, .name newName =>
    checkName oldName
    let oldPlace := old.dir ++ [oldName]
    let newPlace := new.dir ++ [newName]
    match fs.node? oldPlace with
    | none => refuse .noEntry
    | some node =>
      checkName newName
      if !node.isDirectory && (old.slash || new.slash) then
        refuse .notDirectory
      else if newPlace = oldPlace then
        return fs
      else if newPlace.within oldPlace then
        refuse .invalidArgument
      else if oldPlace.within newPlace then
        refuse .notEmpty
      else
        fs.replaceable node newPlace
        return (fs.erase newPlace).move oldPlace newPlace
  | _, _ => refuse .busy

end FileSystem

end PluginStudio

------------------------------------------------------------
-- Contents
------------------------------------------------------------

namespace PluginStudio

namespace FileSystem

/-
  The place of a file to write to, with the file system in
  which it stands.  `update` gives the content that the file
  starts with, and a missing file starts with none.
-/
def openToWrite
    (fs : FileSystem)
    (dir : Place)
    (update : Bytes → Bytes)
    (p : Path) : Except IoFault (Place × FileSystem) := do
  match ← fs.resolve dir .output p with
  | .vacant parent name =>
    let place := parent ++ [name]
    return (place, fs.put place (.file fileMode (update [])))
  | .found place (.file mode content) =>
    return (place, fs.put place (.file mode (update content)))
  | .found _ (.device .terminal) => refuse .noDevice
  | .found place (.device _) => return (place, fs)
  | .found _ _ => refuse .isDirectory

/- The files, if there is room for content at a place. -/
def withRoom
    (fs : FileSystem)
    (place : Place)
    (content : Bytes) : Except IoFault FileSystem :=
  if fs.node? place = some (.device .full) && !content.isEmpty then
    refuse .noSpace
  else
    return fs

/- With a file of the given content, new or not. -/
def write
    (fs : FileSystem)
    (dir : Place)
    (p : Path)
    (content : Bytes) : Except IoFault FileSystem := do
  let (place, files) ← fs.openToWrite dir (fun _ => content) p
  files.withRoom place content

/- The content of a file. -/
def read
    (fs : FileSystem)
    (dir : Place)
    (p : Path) : Except IoFault Bytes := do
  match ← fs.stat dir true p with
  | (_, .file _ content) => return content
  | (_, .device .terminal) => refuse .noDevice
  | (_, .device _) => return []
  | _ => refuse .isDirectory

/- The device that a path leads to. -/
def device?
    (fs : FileSystem)
    (dir : Place)
    (p : Path) : Option Device :=
  match fs.stat dir true p with
  | .ok (_, .device device) => some device
  | _ => none

/- With other permission bits of what a path leads to. -/
def setMode
    (fs : FileSystem)
    (dir : Place)
    (p : Path)
    (mode : Nat) : Except IoFault FileSystem := do
  let (place, node) ← fs.stat dir true p
  return fs.put place (node.withMode mode)

/- The names in a directory, in the order of their bytes. -/
def list
    (fs : FileSystem)
    (dir : Place)
    (p : Path) : Except IoFault (List (String × Node)) := do
  match ← fs.stat dir true p with
  | (place, .directory _) =>
    return (fs.children place).mergeSort fun a b => a.1 ≤ b.1
  | _ => refuse .notDirectory

end FileSystem

end PluginStudio

------------------------------------------------------------
-- Directories And What They Hold
------------------------------------------------------------

namespace PluginStudio

namespace Path

/- A path and those of its parents, as far as they are named. -/
def ancestorsWithin : Nat → Path → List Path
  | 0, _ => []
  | more + 1, p =>
    match p.parent? with
    | none => []
    | some parent =>
      if parent = "" then [p] else p :: ancestorsWithin more parent

/-
  A path, its parent, and so on, up to the one below the root
  or below the directory that the path starts from.
-/
def ancestors (p : Path) : List Path :=
  ancestorsWithin p.segments.length p

end Path

namespace FileSystem

/- The outcome of several steps, and the state they leave. -/
abbrev Steps (α : Type) :=
  Except IoFault α × FileSystem

/- One step. -/
def step
    (fs : FileSystem)
    (result : Except IoFault FileSystem) : Steps Unit :=
  match result with
  | .ok fs' => (.ok (), fs')
  | .error fault => (.error fault, fs)

/- Is the fault that a directory is there already? -/
def isThere
    (fs : FileSystem)
    (dir : Place)
    (p : Path)
    (fault : IoFault) : Bool :=
  fault = .system .alreadyExists && fs.names dir Node.isDirectory p

/- A directory, which may be there already. -/
def ensureDir
    (fs : FileSystem)
    (dir : Place)
    (p : Path) : Steps Unit :=
  match fs.makeDir dir p with
  | .ok fs' => (.ok (), fs')
  | .error fault =>
    if fs.isThere dir p fault then (.ok (), fs) else (.error fault, fs)

/-
  A directory given with its ancestors.  Where the parent is
  missing it is made first.
-/
def makeDirsOn
    (fs : FileSystem)
    (dir : Place) :
    List Path → Steps Unit
  | [] => (.ok (), fs)
  | p :: ancestors =>
    match fs.makeDir dir p with
    | .ok fs' => (.ok (), fs')
    | .error fault =>
      if fault.isNotFound then
        match makeDirsOn fs dir ancestors with
        | (.ok (), fs') => fs'.ensureDir dir p
        | (.error fault, fs') => (.error fault, fs')
      else if fs.isThere dir p fault then
        (.ok (), fs)
      else
        (.error fault, fs)

/- A directory and all that it lies in. -/
def makeDirs
    (fs : FileSystem)
    (dir : Place)
    (p : Path) : Steps Unit :=
  fs.makeDirsOn dir p.ancestors

/-
  Without a directory and all that it holds.  A link to one is
  removed by itself.  What the directory holds goes first, and
  the directory is then removed by its path.
-/
def removeTree
    (fs : FileSystem)
    (dir : Place)
    (p : Path) : Steps Unit :=
  match fs.stat dir false p with
  | .error fault => (.error fault, fs)
  | .ok (_, .link _) => fs.step (fs.unlink dir p)
  | .ok (_, .file _ _) => (refuse .notDirectory, fs)
  | .ok (_, .device _) => (refuse .notDirectory, fs)
  | .ok (place, .directory _) =>
    let emptied := fs.eraseBelow place
    match emptied.removeDir dir p with
    | .ok fs' => (.ok (), fs')
    | .error fault =>
      if fault.isNotFound then
        (.ok (), emptied)
      else
        (.error fault, emptied)

end FileSystem

end PluginStudio
