import PluginStudio.Shell.Interpreter
import PluginStudio.Utility.Catalog

/-
  The shell as a program, and the running of program files.

  Key definitions include:
    * `PluginStudio.Shell.operate`
    * `PluginStudio.Shell.startNode`
    * `PluginStudio.Shell.launchWith`
    * `PluginStudio.Shell.launch`

  A program file is the image of a utility, or a script that
  names its interpreter on the first line.
-/

------------------------------------------------------------
-- Starting
------------------------------------------------------------

namespace PluginStudio

namespace Shell

/- What a shell is asked to carry out. -/
inductive Task where
  | text (text? : Option String)
  | file (name : String)
  | input
deriving Repr

/- What the arguments of a shell ask for. -/
structure Order where
  task : Task
  zero : String
  args : List String
  options : Options

/- Read the arguments behind the options. -/
def orderOf
    (zero : String)
    (command : Bool)
    (options : Options)
    (args : List String) : Order :=
  match command, args with
  | true, text :: name :: rest => ⟨.text (some text), name, rest, options⟩
  | true, [text] => ⟨.text (some text), zero, [], options⟩
  | true, [] => ⟨.text none, zero, [], options⟩
  | false, name :: rest => ⟨.file name, name, rest, options⟩
  | false, [] => ⟨.input, zero, [], options⟩

/- Read the arguments of a shell. -/
def readOrder
    (zero : String) :
    List String → Bool → Options → Order
  | [], command, options => orderOf zero command options []
  | arg :: args, command, options =>
    match arg.toList with
    | ['-'] => orderOf zero command options args
    | ['-', '-'] => orderOf zero command options args
    | '-' :: c :: cs =>
      readOrder zero args (command || (c :: cs).contains 'c')
        ((c :: cs).foldl (fun o d => switch true d o) options)
    | '+' :: c :: cs =>
      readOrder zero args command
        ((c :: cs).foldl (fun o d => switch false d o) options)
    | _ => orderOf zero command options (arg :: args)

/- The directory as the variables name it, if they are right. -/
def namedDir
    (process : Process)
    (files : FileSystem) : String :=
  let physical := process.dir.path
  match process.vars.lookup "PWD" with
  | none => physical
  | some path =>
    match files.stat [] true path with
    | .ok (place, _) =>
      if place = process.dir && path.toList.head? = some '/' then path
      else physical
    | .error _ => physical

/- Where programs are searched for if nothing else is said. -/
def defaultPath : String :=
  "/usr/local/sbin:/usr/local/bin:/usr/sbin:/usr/bin:/sbin:/bin"

/- The number of the first process. -/
def firstPid : Nat := 4711

/- The state that a shell starts in. -/
def initial
    (process : Process)
    (machine : Machine)
    (order : Order) : State :=
  let dir := namedDir process machine.files
  let given := process.vars.filterMap fun (name, value) =>
    if isName name then some (name, (⟨value, true, false⟩ : Variable))
    else none
  let vars := assocSet "IFS" ⟨" \t\n", false, false⟩ given
  let vars := assocSet "PWD" ⟨dir, true, false⟩ vars
  let vars := assocSet "OPTIND" ⟨"1", false, false⟩ vars
  let vars := assocSet "PS4" ⟨"+ ", false, false⟩ vars
  let vars :=
    if (vars.lookup "PATH").isSome then vars
    else assocSet "PATH" ⟨defaultPath, false, false⟩ vars
  { machine := machine
    dir := process.dir
    logicalDir := dir
    ports := process.ports
    vars := vars
    zero := order.zero
    args := order.args
    status := 0
    options := order.options
    functions := []
    traps := process.ignored.map fun signal => (signal, "")
    pending := []
    line := 0
    pid := firstPid
    job? := none
    jobs := []
    substituted? := none
    locals := []
    loops := 0 }

end Shell

end PluginStudio

------------------------------------------------------------
-- Running A Shell
------------------------------------------------------------

namespace PluginStudio

namespace Shell

/- The text of a script. -/
def scriptText
    (launch : Launch)
    (process : Process)
    (task : Task) : Action Unit := do
  let perform (text : String) : Action Unit :=
    runText launch mostNesting "" text
  match task with
  | .text (some text) => perform text
  | .text none => abort "-c requires an argument"
  | .input =>
    let state ← get
    match state.ports.lookup 0 with
    | none => return
    | some port =>
      match state.machine.readAll port with
      | .error _ => return
      | .ok (bytes, machine) =>
        set { state with machine := machine }
        perform (Octets.text bytes)
  | .file name =>
    let state ← get
    match state.machine.files.read state.dir name with
    | .ok bytes => perform (Octets.text bytes)
    | .error fault =>
      modify fun state =>
        { state with zero := (process.args.head?).getD "sh" }
      abort ("cannot open " ++ name ++ ": " ++ openReason false fault)

/- How a shell ends after its script. -/
def endingOf
    (state : State) :
    Except Flow Unit → ExitStatus
  | .ok () => .exited (state.status % 256)
  | .error (.killed signal) => .killed signal false
  | .error flow => .exited (endStatus state flow % 256)

/- Run a shell. -/
def operate
    (launch : Launch)
    (process : Process) : StateM Machine ExitStatus := fun machine =>
  let zero := (process.args.head?).getD "sh"
  let order := readOrder zero (process.args.drop 1) false {}
  let (result, state) :=
    (untilEnd (runText launch mostNesting "")
      (scriptText launch process order.task)).run.run
      (initial process machine order)
  (endingOf state result, state.machine)

end Shell

end PluginStudio

------------------------------------------------------------
-- Program Files
------------------------------------------------------------

namespace PluginStudio

namespace Shell

/- The interpreter of a script, and its argument. -/
def interpreter? (content : Bytes) : Option (String × Option String) :=
  match content with
  | 0x23 :: 0x21 :: rest =>
    let isBlank (c : Char) : Bool := c = ' ' || c = '\t'
    let line := (Octets.text
      ((rest.take 254).takeWhile fun b => b ≠ 10)).toList
    let line := (line.dropWhile isBlank).reverse.dropWhile isBlank
    let line := line.reverse
    let name := line.takeWhile fun c => !isBlank c
    let arg := (line.drop name.length).dropWhile isBlank
    if name.isEmpty then
      none
    else
      some (String.ofList name,
        if arg.isEmpty then none else some (String.ofList arg))
  | _ => none

/- Assignments in front of a command, and the command. -/
def splitAssignments :
    List String → List (String × String) × List String
  | [] => ([], [])
  | arg :: args =>
    match binding arg with
    | (name, some value) =>
      let (more, rest) := splitAssignments args
      ((name, value) :: more, rest)
    | _ => ([], arg :: args)

/- The file that a program is searched for as. -/
def searchProgram?
    (machine : Machine)
    (process : Process)
    (name : String) : Option Path :=
  if '/' ∈ name.toList then
    some name
  else
    let path := (process.vars.lookup "PATH").getD defaultPath
    let dirs := (Path.splitOn ':' path.toList).map String.ofList
    (dirs.map fun dir => Path.join dir name).find?
      fun p => machine.files.names process.dir Node.isFile p

/- Run the program whose image has a name. -/
def runImage
    (shell : Process → StateM Machine ExitStatus)
    (again : Launch)
    (name : String)
    (process : Process) :
    StateM Machine (Except IoFault ExitStatus) := do
  if name = "sh" then
    return .ok (← shell process)
  else if name = "env" then
    let args := (process.args.drop 1).filter fun arg => arg ≠ "-i"
    let start := if "-i" ∈ process.args.take 2 then [] else process.vars
    let (given, command) := splitAssignments args
    let vars := overlay start given
    match command with
    | [] =>
      let (status, machine) :=
        (Utility.printVariables [] { process with vars := vars }).run
          (← get)
      set machine
      return .ok (.exited status)
    | program :: _ =>
      let inner : Process := { process with args := command, vars := vars }
      let missing : StateM Machine (Except IoFault ExitStatus) := do
        let ((), machine) :=
          (Program.complain ("env: '" ++ program ++
            "': No such file or directory") process).run (← get)
        set machine
        return .ok (.exited 127)
      match searchProgram? (← get) inner program with
      | none => missing
      | some file =>
        match ← again file inner with
        | .ok status => return .ok status
        | .error _ => missing
  else
    match Utility.named? name with
    | none => return .error (.system .execFormat)
    | some utility =>
      let (status, machine) :=
        (utility (process.args.drop 1) process).run (← get)
      set machine
      return .ok (.exited status)

/- Run what was found for a program.  `again` runs interpreters. -/
def startNode
    (shell : Process → StateM Machine ExitStatus)
    (again : Launch)
    (node : Node)
    (file : Path)
    (process : Process) :
    StateM Machine (Except IoFault ExitStatus) :=
  match node with
  | .file mode content =>
    if mode &&& 0o111 = 0 then
      return .error (.system .permissionDenied)
    else
      match Utility.imageName? content, interpreter? content with
      | some name, _ => runImage shell again name process
      | none, some (name, arg?) =>
        again name
          { process with
            args :=
              [name] ++ arg?.toList ++ [file] ++
                process.args.drop 1 }
      | none, none => return .error (.system .execFormat)
  | _ => return .error (.system .permissionDenied)

/-
  Run a program file.  `depth` bounds how many interpreters may
  be scripts themselves.
-/
def launchWith
    (shell : Process → StateM Machine ExitStatus) :
    Nat → Launch
  | 0, _, _ => return .error (.system .linkLoop)
  | depth + 1, file, process => do
    let machine ← get
    match machine.files.stat process.dir true file with
    | .error fault => return .error fault
    | .ok (_, node) =>
      startNode shell (launchWith shell depth) node file process

/- How many interpreters may follow one another. -/
def mostInterpreters : Nat := 5

/- A shell whose programs may start shells, so many levels deep. -/
def shell : Nat → Process → StateM Machine ExitStatus
  | 0, _ => return .exited 2
  | levels + 1, process =>
    operate (launchWith (shell levels) mostInterpreters) process

/- How many shells may run inside one another. -/
def mostLevels : Nat := 1000

/- Run a program file. -/
def launch : Launch :=
  launchWith (shell mostLevels) mostInterpreters

end Shell

end PluginStudio
