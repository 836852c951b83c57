import PluginStudio.Path

/-
  The contents of a file system.

  Key definitions include:
    * `PluginStudio.Node`
    * `PluginStudio.Place`
    * `PluginStudio.FileSystem`
    * `PluginStudio.FileSystem.node?`
    * `PluginStudio.FileSystem.put`
    * `PluginStudio.FileSystem.eraseBelow`
    * `PluginStudio.FileSystem.move`

  A file system is a finite map from places to what stands
  there.  A place is the names on the way down from the root,
  with no link among them, so that two places are the same
  only if they are equal.
-/

------------------------------------------------------------
-- Nodes And Places
------------------------------------------------------------

namespace PluginStudio

/-
  Devices keep nothing that is written to them.  `full` has no
  room for anything, and `terminal` cannot be opened because
  there is none.  What is written to the last two goes to the
  outputs of the program.
-/
inductive Device where
  | null
  | zero
  | full
  | terminal
  | output
  | problems
deriving DecidableEq, Repr

namespace Device

/- The byte that can be read without end. -/
def supply? : Device → Option UInt8
  | zero | full => some 0
  | _ => none

end Device

/- What can stand at a place. -/
inductive Node where
  | directory (mode : Nat)
  | file (mode : Nat) (content : Bytes)
  | link (target : Path)
  | device (device : Device)
deriving DecidableEq, Repr

namespace Node

/- Is it a directory? -/
def isDirectory : Node → Bool
  | directory _ => true
  | _ => false

/- Is it a regular file? -/
def isFile : Node → Bool
  | file _ _ => true
  | _ => false

/- The permission bits, which for links and devices are fixed. -/
def mode : Node → Nat
  | directory mode => mode
  | file mode _ => mode
  | link _ => 0o777
  | device _ => 0o666

/- With other permission bits. -/
def withMode
    (mode : Nat) :
    Node → Node
  | directory _ => directory mode
  | file _ content => file mode content
  | link target => link target
  | device d => device d

end Node

/- The names on the way from the root. -/
abbrev Place :=
  List String

namespace Place

/- Does a place lie at another or below it? -/
def within
    (place dir : Place) : Bool :=
  dir.isPrefixOf place

/- Does a place lie below another? -/
def below
    (place dir : Place) : Bool :=
  dir.isPrefixOf place && place ≠ dir

/- The place as a path. -/
def path (place : Place) : Path :=
  "/" ++ String.intercalate "/" place

end Place

end PluginStudio

------------------------------------------------------------
-- File Systems
------------------------------------------------------------

namespace PluginStudio

/- What stands at each place but the root. -/
structure FileSystem where
  nodes : List (Place × Node)
deriving DecidableEq, Repr

namespace FileSystem

/- Nothing but the root. -/
def empty : FileSystem where
  nodes := []

/- What stands at a place.  The root is always a directory. -/
def node?
    (fs : FileSystem) :
    Place → Option Node
  | [] => some (.directory 0o755)
  | name :: names => fs.nodes.lookup (name :: names)

/- With a node at a place, in place of what stood there. -/
def put
    (fs : FileSystem)
    (place : Place)
    (node : Node) : FileSystem where
  nodes :=
    (place, node) :: fs.nodes.filter fun entry => entry.1 ≠ place

/- Without what stands at a place. -/
def erase
    (fs : FileSystem)
    (place : Place) : FileSystem where
  nodes := fs.nodes.filter fun entry => entry.1 ≠ place

/- Without anything below a place. -/
def eraseBelow
    (fs : FileSystem)
    (place : Place) : FileSystem where
  nodes := fs.nodes.filter fun entry => !(entry.1.below place)

/- With all at and below one place brought to another. -/
def move
    (fs : FileSystem)
    (source target : Place) : FileSystem where
  nodes :=
    fs.nodes.map fun entry =>
      if entry.1.within source then
        (target ++ entry.1.drop source.length, entry.2)
      else
        entry

/- The names right below a place, with what stands there. -/
def children
    (fs : FileSystem)
    (place : Place) : List (String × Node) :=
  fs.nodes.filterMap fun entry =>
    match entry.1.getLast? with
    | none => none
    | some name =>
      if entry.1.dropLast = place then some (name, entry.2) else none

/- Does anything stand below a place? -/
def hasChildren
    (fs : FileSystem)
    (place : Place) : Bool :=
  fs.nodes.any fun entry => entry.1.below place

end FileSystem

end PluginStudio
