import PluginStudio.ExitStatus
import PluginStudio.Machine.Streams
import PluginStudio.Text.Octets

/-
  What a program is started with, and what it can do.

  Key definitions include:
    * `PluginStudio.Process`
    * `PluginStudio.Program`
    * `PluginStudio.Program.emit`
    * `PluginStudio.Program.complain`
    * `PluginStudio.Program.input`

  Arguments, variables and output are texts that hold bytes.
-/

------------------------------------------------------------
-- Processes
------------------------------------------------------------

namespace PluginStudio

/-
  Arguments, variables, directory, open descriptors, and the
  signals that are ignored.
-/
structure Process where
  args : List String
  vars : List (String × String)
  dir : Place
  ports : List (Nat × Port)
  ignored : List Nat := []

/- Work of a program. -/
abbrev Program :=
  ReaderT Process (StateM Machine)

namespace Program

/- Write a text to a descriptor.  Could it be written? -/
def emit
    (descriptor : Nat)
    (text : String) : Program Bool := do
  let process ← read
  let machine ← get
  match process.ports.lookup descriptor with
  | none => return false
  | some port =>
    match machine.write port (Octets.bytes text) with
    | .ok machine =>
      set machine
      return true
    | .error fault =>
      if descriptor = 1 && fault = .system .noSpace then
        set { machine with crowded := true }
      return false

/- Write a text. -/
def put (text : String) : Program Unit := do
  let _ ← emit 1 text

/- Tell of a problem. -/
def complain (text : String) : Program Unit := do
  let _ ← emit 2 (text ++ "\n")

/- A fault's reason, without its number. -/
def reason : IoFault → String
  | .system errno => errno.text
  | fault => fault.message

/- All that can be read from a descriptor. -/
def readFrom (descriptor : Nat) : Program (Except IoFault Bytes) := do
  let process ← read
  let machine ← get
  match process.ports.lookup descriptor with
  | none => return .error (.system .badDescriptor)
  | some port =>
    match machine.readAll port with
    | .error fault => return .error fault
    | .ok (bytes, machine) =>
      set machine
      return .ok bytes

/- At most so many bytes from a descriptor. -/
def readSome
    (descriptor most : Nat) : Program (Except IoFault Bytes) := do
  let process ← read
  let machine ← get
  match process.ports.lookup descriptor with
  | none => return .error (.system .badDescriptor)
  | some port =>
    match machine.readSome port most with
    | .error fault => return .error fault
    | .ok (bytes, machine) =>
      set machine
      return .ok bytes

/- All input. -/
def input : Program String := do
  match ← readFrom 0 with
  | .ok bytes => return Octets.text bytes
  | .error _ => return ""

/- Look at the files. -/
def look
    {α : Type}
    (view : FileSystem → Place → α) : Program α := do
  let process ← read
  let machine ← get
  return view machine.files process.dir

/- Change the files in one step. -/
def change
    (work : FileSystem → Place → Except IoFault FileSystem) :
    Program (Except IoFault Unit) := do
  match ← look work with
  | .error fault => return .error fault
  | .ok files =>
    modify fun machine => { machine with files := files }
    return .ok ()

/- Change the files in several steps. -/
def changeAll
    (work : FileSystem → Place → FileSystem.Steps Unit) :
    Program (Except IoFault Unit) := do
  let (result, files) ← look work
  modify fun machine => { machine with files := files }
  return result

/- At most so many bytes of a file. -/
def fileSome
    (arg : String)
    (most : Nat) : Program (Except IoFault Bytes) := do
  look fun fs dir =>
    match fs.stat dir true arg with
    | .error fault => .error fault
    | .ok (_, .device device) =>
      .ok ((device.supply?.toList).flatMap (List.replicate most))
    | .ok _ => (fs.read dir arg).map fun bytes => bytes.take most

/- The descriptor that a path is another name of. -/
def descriptor? (p : Path) : Option Nat :=
  match p with
  | "/dev/stdin" => some 0
  | "/dev/stdout" => some 1
  | "/dev/stderr" => some 2
  | _ =>
    match p.toList with
    | '/' :: 'd' :: 'e' :: 'v' :: '/' :: 'f' :: 'd' :: '/' :: digits =>
      if digits.all Char.isDigit then (String.ofList digits).toNat? else none
    | _ => none

/- The bytes of a file, or of the input for a dash. -/
def content (arg : String) : Program (Except IoFault Bytes) := do
  if arg = "-" then
    readFrom 0
  else
    match descriptor? arg with
    | some descriptor => readFrom descriptor
    | none => look fun fs dir => fs.read dir arg

/- The worst status of the work on each argument. -/
def each
    (args : List String)
    (work : String → Program Nat) : Program Nat :=
  match args with
  | [] => return 0
  | arg :: args => do
    let status ← work arg
    let others ← each args work
    return max status others

/- Letters of the options in front, and the other arguments. -/
def options : List String → List Char × List String
  | [] => ([], [])
  | arg :: args =>
    if arg = "--" then
      ([], args)
    else
      match arg.toList with
      | '-' :: c :: cs =>
        let (more, others) := options args
        (c :: cs ++ more, others)
      | _ =>
        let (more, others) := options args
        (more, arg :: others)

/- Options, some of which have values, and the other arguments. -/
structure Given where
  letters : List Char := []
  values : List (Char × String) := []
  names : List String := []

/-
  Read letters of one argument.  A letter with a value takes
  what follows it, or is left over if nothing follows.
-/
def letters
    (valued : List Char) :
    List Char → Given → Given × Option Char
  | [], given => (given, none)
  | c :: cs, given =>
    if c ∈ valued then
      match cs with
      | [] => (given, some c)
      | _ =>
        ({ given with
            values := given.values ++ [(c, String.ofList cs)] }, none)
    else
      letters valued cs { given with letters := given.letters ++ [c] }

/- Options in front of or between other arguments. -/
def given
    (valued : List Char) :
    List String → Option Char → Given → Given
  | [], _, acc => acc
  | arg :: args, some c, acc =>
    given valued args none { acc with values := acc.values ++ [(c, arg)] }
  | arg :: args, none, acc =>
    if arg = "--" then
      { acc with names := acc.names ++ args }
    else
      match arg.toList with
      | '-' :: c :: cs =>
        let (acc, open?) := letters valued (c :: cs) acc
        given valued args open? acc
      | _ => given valued args none { acc with names := acc.names ++ [arg] }

end Program

end PluginStudio
