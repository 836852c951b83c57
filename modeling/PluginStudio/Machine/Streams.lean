import PluginStudio.Files.Operation

/-
  Open files and pipes.

  Key definitions include:
    * `PluginStudio.Stream`
    * `PluginStudio.Port`
    * `PluginStudio.Machine`
    * `PluginStudio.Machine.openPort`
    * `PluginStudio.Machine.write`
    * `PluginStudio.Machine.readSome`

  Programs take turns on a machine, so a pipe holds all that
  was written to it until the next program reads.  A stream
  that several programs share has one position.
-/

------------------------------------------------------------
-- Streams
------------------------------------------------------------

namespace PluginStudio

/-
  Something that can be read from or written to: a pipe with
  what it holds, the latest first, a file with a position, or
  a device.
-/
inductive Stream where
  | pipe (chunks : List Bytes)
  | file (place : Place) (offset : Nat) (appending : Bool)
  | device (device : Device)
deriving Repr

/- A stream by its number, and what may be done with it. -/
structure Port where
  stream : Nat
  readable : Bool
  writable : Bool
deriving DecidableEq, Repr

/-
  Files, the time in milliseconds, all opened streams, and
  whether a program found no room for its output.
-/
structure Machine where
  files : FileSystem
  clock : Nat
  streams : Array Stream
  crowded : Bool := false

/- What a file is opened for. -/
inductive Access where
  | read
  | write
  | append
  | both
deriving DecidableEq, Repr

namespace Access

def readable : Access → Bool
  | read | both => true
  | _ => false

def writable : Access → Bool
  | read => false
  | _ => true

end Access

end PluginStudio

------------------------------------------------------------
-- Opening
------------------------------------------------------------

namespace PluginStudio

namespace Machine

/- With a new stream. -/
def add
    (machine : Machine)
    (stream : Stream) : Nat × Machine :=
  (machine.streams.size,
    { machine with streams := machine.streams.push stream })

/- With another state of a stream. -/
def update
    (machine : Machine)
    (index : Nat)
    (stream : Stream) : Machine :=
  { machine with streams := machine.streams.setIfInBounds index stream }

/- A new pipe that holds the given bytes. -/
def openPipe
    (machine : Machine)
    (content : Bytes) : Nat × Machine :=
  machine.add (.pipe [content])

/- What an opened node is read and written as. -/
def streamOf
    (place : Place)
    (appending : Bool)
    (node : Node) : Except IoFault Stream :=
  match node with
  | .directory _ => .error (.system .isDirectory)
  | .device .terminal => .error (.system .noDevice)
  | .device device => .ok (.device device)
  | _ => .ok (.file place 0 appending)

/- The stream for a path, with the files after it was opened. -/
def openStream
    (fs : FileSystem)
    (dir : Place)
    (access : Access)
    (p : Path) : Except IoFault (Stream × FileSystem) :=
  match access with
  | .read => do
    let (place, node) ← fs.stat dir true p
    match node with
    | .directory _ => return (.file place 0 false, fs)
    | node => return (← streamOf place false node, fs)
  | access => do
    let keep := access ≠ .write
    let (place, fs) ← fs.openToWrite dir
      (fun content => if keep then content else []) p
    match fs.node? place with
    | none => return (.file place 0 (access = .append), fs)
    | some node => return (← streamOf place (access = .append) node, fs)

/- Open a file. -/
def openPort
    (machine : Machine)
    (dir : Place)
    (access : Access)
    (p : Path) : Except IoFault (Port × Machine) := do
  let (stream, files) ← openStream machine.files dir access p
  let (index, machine) := { machine with files := files }.add stream
  return (⟨index, access.readable, access.writable⟩, machine)

end Machine

end PluginStudio

------------------------------------------------------------
-- Reading And Writing
------------------------------------------------------------

namespace PluginStudio

namespace Machine

/- Content with bytes put at a position, filled up with zeros. -/
def splice
    (content bytes : Bytes)
    (offset : Nat) : Bytes :=
  content.take offset ++
    List.replicate (offset - content.length) 0 ++ bytes ++
    content.drop (offset + bytes.length)

/- Write bytes to a stream. -/
def writeStream
    (machine : Machine)
    (index : Nat)
    (bytes : Bytes) : Machine :=
  match machine.streams[index]? with
  | none => machine
  | some (.device _) => machine
  | some (.pipe chunks) => machine.update index (.pipe (bytes :: chunks))
  | some (.file place offset appending) =>
    match machine.files.node? place with
    | some (.file mode content) =>
      let start := if appending then content.length else offset
      let machine :=
        { machine with
          files :=
            machine.files.put place
              (.file mode (splice content bytes start)) }
      machine.update index
        (.file place (start + bytes.length) appending)
    | _ => machine

/- Write bytes through a port. -/
def write
    (machine : Machine)
    (port : Port)
    (bytes : Bytes) : Except IoFault Machine :=
  if port.writable then
    match machine.streams[port.stream]? with
    | some (.device .full) =>
      if bytes.isEmpty then .ok machine else .error (.system .noSpace)
    | _ => .ok (machine.writeStream port.stream bytes)
  else
    .error (.system .badDescriptor)

/-
  Take bytes from a stream.  `part` says what is taken of all
  that is there.  An endless stream has as many as `most`.
-/
def takeStream
    (machine : Machine)
    (index most : Nat)
    (part : Bytes → Nat) : Except IoFault (Bytes × Machine) :=
  match machine.streams[index]? with
  | none => .error (.system .badDescriptor)
  | some (.device device) =>
    match device.supply? with
    | none => .ok ([], machine)
    | some b =>
      let all := List.replicate most b
      .ok (all.take (part all), machine)
  | some (.pipe chunks) =>
    let all := chunks.reverse.flatten
    let size := part all
    .ok (all.take size, machine.update index (.pipe [all.drop size]))
  | some (.file place offset appending) =>
    match machine.files.node? place with
    | some (.file _ content) =>
      let all := content.drop offset
      let size := min (part all) all.length
      .ok (all.take size,
        machine.update index (.file place (offset + size) appending))
    | some (.directory _) => .error (.system .isDirectory)
    | _ => .ok ([], machine)

/- Read bytes through a port. -/
def readPart
    (machine : Machine)
    (port : Port)
    (most : Nat)
    (part : Bytes → Nat) : Except IoFault (Bytes × Machine) :=
  if port.readable then
    machine.takeStream port.stream most part
  else
    .error (.system .badDescriptor)

/- Read at most so many bytes. -/
def readSome
    (machine : Machine)
    (port : Port)
    (most : Nat) : Except IoFault (Bytes × Machine) :=
  machine.readPart port most fun _ => most

/- Read all that is there. -/
def readAll
    (machine : Machine)
    (port : Port) : Except IoFault (Bytes × Machine) :=
  machine.readPart port 0 List.length

/- Size of a line with its end. -/
def lineSize (bytes : Bytes) : Nat :=
  (bytes.takeWhile fun b => b ≠ 10).length + 1

/- Read a line with its end. -/
def readLine
    (machine : Machine)
    (port : Port) : Except IoFault (Bytes × Machine) :=
  machine.readPart port 0 lineSize

end Machine

end PluginStudio
