import PluginStudio.Files.FileSystem
import PluginStudio.IoFault

/-
  Where a path leads.

  Key definitions include:
    * `PluginStudio.Spot`
    * `PluginStudio.Aim`
    * `PluginStudio.FileSystem.walkNames`
    * `PluginStudio.FileSystem.walk`
    * `PluginStudio.FileSystem.resolve`
    * `PluginStudio.FileSystem.locate`

  A path is walked name by name.  A link on the way is replaced
  by the names of its target, at most forty times.  A slash at
  the end of a path or of a target asks for a directory there.
  `resolve` walks all of a path, and `locate` stops before its
  last name, which is what a new entry, a removal or a renaming
  needs.
-/

------------------------------------------------------------
-- Walking Names
------------------------------------------------------------

namespace PluginStudio

/- The end of a walk: something, or a name that is still free. -/
inductive Spot where
  | found (place : Place) (node : Node)
  | vacant (dir : Place) (name : String)
deriving DecidableEq, Repr

/-
  What a walk is for: the entry of the last name, what that
  entry leads to, or a file there to write to.
-/
inductive Aim where
  | entry
  | target
  | output
deriving DecidableEq, Repr

namespace Path

/- The names of a path, dots among them. -/
def names (p : Path) : List String :=
  p.segments.filter fun name => name ≠ ""

/- The names to walk, and an empty one for a slash at the end. -/
def steps (p : Path) : List String :=
  if p.endsWithSlash then p.names ++ [""] else p.names

/- The longest name that a directory can hold, in bytes. -/
def longestName : Nat := 255

/- The longest path, in bytes. -/
def longest : Nat := 4095

end Path

namespace FileSystem

/- The place at which a path starts. -/
def startOf
    (dir : Place)
    (p : Path) : Place :=
  if p.isAbsolute then [] else dir

/-
  The steps from a link on, where some steps are left.  Only the
  last names can end with a slash.
-/
def stepsOn
    (target : Path)
    (names : List String) : List String :=
  if names.isEmpty then target.steps else target.names ++ names

/-
  Walk names from a place.  `detour` goes on from a place with
  other names when a link is met.
-/
def walkNames
    (fs : FileSystem)
    (aim : Aim)
    (detour : Place → List String → Except Errno Spot) :
    Place → List String → Except Errno Spot
  | place, [] =>
    match fs.node? place with
    | none => .error .noEntry
    | some node => .ok (.found place node)
  | place, name :: names =>
    match fs.node? place with
    | none => .error .noEntry
    | some node =>
      if !node.isDirectory then
        .error .notDirectory
      else if Path.isVoid name then
        walkNames fs aim detour place names
      else if name = ".." then
        walkNames fs aim detour place.dropLast names
      else if aim = .output && names = [""] then
        .error .isDirectory
      else if Path.longestName < name.length then
        .error .nameTooLong
      else
        match fs.node? (place ++ [name]) with
        | none =>
          if names.isEmpty then
            .ok (.vacant place name)
          else
            .error .noEntry
        | some (.link target) =>
          if names.isEmpty && aim = .entry then
            .ok (.found (place ++ [name]) (.link target))
          else
            detour (startOf place target) (stepsOn target names)
        | some _ =>
          walkNames fs aim detour (place ++ [name]) names

/- Walk names, with a number of links that may be followed. -/
def walk
    (fs : FileSystem)
    (aim : Aim) :
    Nat → Place → List String → Except Errno Spot
  | 0 => walkNames fs aim fun _ _ => .error .linkLoop
  | links + 1 => walkNames fs aim (walk fs aim links)

/- How many links a walk may follow. -/
def mostLinks : Nat := 40

end FileSystem

end PluginStudio

------------------------------------------------------------
-- Paths
------------------------------------------------------------

namespace PluginStudio

namespace Path

/- Refuse paths that the system cannot take at all. -/
def check (p : Path) : Except IoFault Unit :=
  if p.toList.contains '\x00' then
    .error .zeroInPath
  else if p = "" then
    .error (.system .noEntry)
  else if longest < p.length then
    .error (.system .nameTooLong)
  else
    .ok ()

end Path

/- The last part of a path. -/
inductive LastName where
  | root
  | dot
  | dotDot
  | name (name : String)
deriving DecidableEq, Repr

namespace LastName

/- The last part, by its text. -/
def ofName (name : String) : LastName :=
  if name = "." then .dot
  else if name = ".." then .dotDot
  else .name name

end LastName

/- A directory and the last part of a path within it. -/
structure Location where
  dir : Place
  last : LastName
  slash : Bool
deriving DecidableEq, Repr

namespace FileSystem

/- A fault of the system. -/
def liftErrno
    {α : Type}
    (result : Except Errno α) : Except IoFault α :=
  match result with
  | .ok a => .ok a
  | .error errno => .error (.system errno)

/-
  Where a path leads from a directory.  After a slash at the
  end there has to be a directory.
-/
def resolve
    (fs : FileSystem)
    (dir : Place)
    (aim : Aim)
    (p : Path) : Except IoFault Spot := do
  p.check
  liftErrno (fs.walk aim mostLinks (startOf dir p) p.steps)

/- The place of a directory to go on from. -/
def enter
    (spot : Spot) : Except Errno Place :=
  match spot with
  | .vacant _ _ => .error .noEntry
  | .found place node =>
    if node.isDirectory then .ok place else .error .notDirectory

/- The directory that a path's last part belongs to. -/
def locate
    (fs : FileSystem)
    (dir : Place)
    (p : Path) : Except IoFault Location := do
  p.check
  match p.names.getLast? with
  | none => return ⟨[], .root, true⟩
  | some name =>
    let spot ← liftErrno
      (fs.walk .target mostLinks (startOf dir p) p.names.dropLast)
    let place ← liftErrno (enter spot)
    return ⟨place, .ofName name, p.endsWithSlash⟩

/- What a path names, following links to the end or not. -/
def stat
    (fs : FileSystem)
    (dir : Place)
    (followLast : Bool)
    (p : Path) : Except IoFault (Place × Node) := do
  match ← fs.resolve dir (if followLast then .target else .entry) p with
  | .vacant _ _ => .error (.system .noEntry)
  | .found place node => return (place, node)

/- Does a path name anything? -/
def pathExists
    (fs : FileSystem)
    (dir : Place)
    (p : Path) : Bool :=
  (fs.stat dir true p).isOk

/- Does a path name something of a kind? -/
def names
    (fs : FileSystem)
    (dir : Place)
    (kind : Node → Bool)
    (p : Path) : Bool :=
  match fs.stat dir true p with
  | .ok (_, node) => kind node
  | .error _ => false

end FileSystem

end PluginStudio
