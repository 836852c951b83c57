import PluginStudio.Shell.Builtin
import PluginStudio.Shell.Parser

/-
  Carrying out scripts.

  Key definitions include:
    * `PluginStudio.Shell.Launch`
    * `PluginStudio.Shell.redirect`
    * `PluginStudio.Shell.run`
    * `PluginStudio.Shell.runText`

  How program files are run is given by a parameter.  Loops and
  nesting are bounded by a budget that no script here uses up.
-/

------------------------------------------------------------
-- Redirections
------------------------------------------------------------

namespace PluginStudio

namespace Shell

/-
  A way to run a program file with arguments, of which the
  first is its name.
-/
abbrev Launch :=
  Path → Process → StateM Machine (Except IoFault ExitStatus)

/- Why a file could not be opened, or made if it should be. -/
def openReason
    (making : Bool)
    (fault : IoFault) : String :=
  if fault = .system .noEntry || fault = .system .notDirectory then
    if making then "Directory nonexistent" else "No such file"
  else
    Program.reason fault

/- Connect a descriptor. -/
def connect
    (descriptor : Nat)
    (port? : Option Port) : Action Unit :=
  modify fun state =>
    let others := state.ports.filter fun entry => entry.1 ≠ descriptor
    { state with
      ports :=
        match port? with
        | some port => (descriptor, port) :: others
        | none => others }

/- Connect a descriptor to a file. -/
def connectFile
    (descriptor : Nat)
    (access : Access)
    (name : String) : Action (Except String Unit) := do
  let state ← get
  match (Program.descriptor? name).bind fun d => state.ports.lookup d with
  | some port =>
    connect descriptor (some port)
    return .ok ()
  | none =>
    match state.machine.openPort state.dir access name with
    | .ok (port, machine) =>
      set { state with machine := machine }
      connect descriptor (some port)
      return .ok ()
    | .error fault =>
      let making := access ≠ .read
      return .error ((if making then "cannot create " else "cannot open ") ++
        name ++ ": " ++ openReason making fault)

/- Carry out one redirection. -/
def redirectOne
    (capture : Capture) :
    Redirection → Action (Except String Unit)
  | .mk descriptor channel word => do
    let text ← expandText capture word
    match channel with
    | .document =>
      let state ← get
      let (index, machine) := state.machine.openPipe (Octets.bytes text)
      set { state with machine := machine }
      connect descriptor (some ⟨index, true, false⟩)
      return .ok ()
    | .duplicate =>
      if text = "-" then
        connect descriptor none
        return .ok ()
      else if text ≠ "" && text.toList.all Char.isDigit then
        match (← get).ports.lookup (text.toNat?.getD 0) with
        | some port =>
          connect descriptor (some port)
          return .ok ()
        | none => return .error (text ++ ": Bad file descriptor")
      else
        abort "Syntax error: Bad fd number"
    | .input => connectFile descriptor .read text
    | .append => connectFile descriptor .append text
    | .both => connectFile descriptor .both text
    | .clobber => connectFile descriptor .write text
    | .output =>
      let state ← get
      let files := state.machine.files
      if state.options.keepFiles &&
          (files.names state.dir Node.isFile text ||
            (!files.pathExists state.dir text &&
              (files.stat state.dir false text).isOk)) then
        return .error ("cannot create " ++ text ++ ": File exists")
      else
        connectFile descriptor .write text

/- Carry out redirections as far as they succeed. -/
def redirectAll
    (capture : Capture) :
    List Redirection → Action (Except String Unit)
  | [] => return .ok ()
  | redirection :: redirections => do
    match ← redirectOne capture redirection with
    | .ok () => redirectAll capture redirections
    | .error problem => return .error problem

/- Carry out redirections.  A problem is told and undone. -/
def redirect
    (capture : Capture)
    (redirections : List Redirection) : Action Bool := do
  let ports := (← get).ports
  match ← redirectAll capture redirections with
  | .ok () => return true
  | .error problem =>
    modify fun state => { state with ports := ports }
    warn problem
    return false

/- Do something, and then have the descriptors as before. -/
def keepingPorts
    {α : Type}
    (action : Action α) : Action α := do
  let ports := (← get).ports
  let restore : Action Unit :=
    modify fun state => { state with ports := ports }
  try
    let a ← action
    restore
    return a
  catch flow =>
    restore
    throw flow

end Shell

end PluginStudio

------------------------------------------------------------
-- Subshells
------------------------------------------------------------

namespace PluginStudio

namespace Shell

/- The status that a flow ends a shell with. -/
def endStatus
    (state : State) :
    Flow → Nat
  | .leave _ _ => state.status
  | .back status => status
  | .exit status => status
  | .killed signal => 128 + signal

/- What a shell does at its end, after it came to a status. -/
def atEnd
    (evaluate : String → Action Unit)
    (status : Nat) : Action Unit := do
  let state ← get
  match state.traps.lookup 0 with
  | none => throw (.exit status)
  | some action =>
    set { state with
      status := status
      traps := state.traps.filter fun t => t.1 ≠ 0 }
    evaluate action
    throw (.exit status)

/- Do something, and then what is to be done at the end. -/
def untilEnd
    (evaluate : String → Action Unit)
    (action : Action Unit) : Action Unit := do
  let status : Nat ←
    try
      action
      pure (← get).status
    catch flow =>
      match flow with
      | .killed signal => throw (.killed signal)
      | flow => pure (endStatus (← get) flow)
  atEnd evaluate status

/-
  Do something in a copy of the shell.  Only the machine keeps
  what was done.  The signal that kills a shell kills it with
  all its copies.
-/
def inSubshell
    (evaluate : String → Action Unit)
    (action : Action Unit) : Action Nat := do
  let outer ← get
  let inner :=
    { outer with
      traps := outer.traps.filter fun t => t.2 = ""
      pending := []
      jobs := []
      loops := 0 }
  let (result, state) := (untilEnd evaluate action).run.run inner
  set { outer with machine := state.machine }
  match result with
  | .ok () => return state.status
  | .error (.killed signal) => throw (.killed signal)
  | .error flow => return endStatus state flow

/- A text without line ends at its end. -/
def withoutLineEnds (text : String) : String :=
  String.ofList ((text.toList.reverse.dropWhile fun c => c = '\n').reverse)

/- What a command prints. -/
def captureWith
    (perform : Command → Action Unit)
    (evaluate : String → Action Unit)
    (command : Command) : Action String := do
  let state ← get
  let (index, machine) := state.machine.openPipe []
  set { state with machine := machine }
  let status ← inSubshell evaluate do
    connect 1 (some ⟨index, false, true⟩)
    perform command
  let state ← get
  let bytes :=
    match state.machine.readAll ⟨index, true, false⟩ with
    | .ok (bytes, _) => bytes
    | .error _ => []
  set { state with status := status, substituted? := some status }
  return withoutLineEnds (Octets.text (bytes.filter fun b => b ≠ 0))

/- Run commands so that each reads what the one before wrote. -/
def pipe
    (perform : Command → Action Unit)
    (evaluate : String → Action Unit) :
    List Command → Option Nat → Action Nat
  | [], _ => return 0
  | command :: commands, source? => do
    let state ← get
    let (index, machine) := state.machine.openPipe []
    set { state with machine := machine }
    let status ← inSubshell evaluate do
      match source? with
      | some source => connect 0 (some ⟨source, true, false⟩)
      | none => pure ()
      if !commands.isEmpty then
        connect 1 (some ⟨index, false, true⟩)
      perform command
    if commands.isEmpty then
      return status
    else
      pipe perform evaluate commands (some index)

end Shell

end PluginStudio

------------------------------------------------------------
-- Programs
------------------------------------------------------------

namespace PluginStudio

namespace Shell

/- What the end of a program by a signal is called. -/
def signalText (signal : Nat) : String :=
  match signal with
  | 1 => "Hangup"
  | 3 => "Quit"
  | 4 => "Illegal instruction"
  | 6 => "Aborted"
  | 7 => "Bus error"
  | 8 => "Floating point exception"
  | 9 => "Killed"
  | 10 => "User defined signal 1"
  | 11 => "Segmentation fault"
  | 12 => "User defined signal 2"
  | 14 => "Alarm clock"
  | 15 => "Terminated"
  | _ => ""

/- The status of a program that ended. -/
def settleStatus : ExitStatus → Action Nat
  | .exited code => return code
  | .killed signal _ => do
    if signalText signal ≠ "" then
      let _ ← say 2 (signalText signal ++ "\n")
    return 128 + signal
  | _ => return 0

/- The paths that a name is searched for at. -/
def searchPaths
    (state : State)
    (name : String) : List Path :=
  let dirs := (Path.splitOn ':' ((state.value? "PATH").getD "").toList).map
    String.ofList
  dirs.map fun dir =>
    Path.join (if dir = "" then "." else dir) name

/- The program file that a name is searched for as. -/
def search?
    (state : State)
    (name : String) : Option Path :=
  (searchPaths state name).find?
    fun p => state.machine.files.names state.dir Node.isFile p

/- The program file of a command. -/
def programOf?
    (state : State)
    (name : String) : Option Path :=
  if '/' ∈ name.toList then
    some name
  else
    search? state name

/- Run a program file. -/
def start
    (launch : Launch)
    (file : Path)
    (args : List String)
    (vars : List (String × String)) :
    Action (Except IoFault ExitStatus) := do
  let state ← get
  let process : Process :=
    ⟨args, vars, state.dir, state.ports, state.ignored⟩
  let (result, machine) := (launch file process).run state.machine
  set { state with machine := machine }
  match result with
  | .error (.system 8) =>
    let script : Process :=
      { process with
        args := ["sh", file] ++ args.drop 1 }
    let (result, machine) := (launch "/bin/sh" script).run machine
    set { state with machine := machine }
    return result
  | other => return other

/- Is there something of a program's name that is no file? -/
def isHidden
    (state : State)
    (name : String) : Bool :=
  (searchPaths state name).any fun p =>
    state.machine.files.pathExists state.dir p

/- Run the program of a command.  `label` is told on failure. -/
def external
    (launch : Launch)
    (label name : String)
    (args : List String)
    (vars : List (String × String)) : Action (Except Nat ExitStatus) := do
  match programOf? (← get) name with
  | none =>
    warn (label ++ name ++
      (if isHidden (← get) name then ": Permission denied"
        else ": not found"))
    return .error 127
  | some file =>
    match ← start launch file (name :: args) vars with
    | .ok status => return .ok status
    | .error fault =>
      if fault = .system .noEntry || fault = .system .notDirectory then
        warn (label ++ name ++ ": not found")
        return .error 127
      else
        warn (label ++ name ++ ": " ++ Program.reason fault)
        return .error 126

/- Variables with others in front of them. -/
def overlay
    (vars : List (String × String)) :
    List (String × String) → List (String × String)
  | [] => vars
  | (name, value) :: more => overlay (assocSet name value vars) more

end Shell

end PluginStudio

------------------------------------------------------------
-- Commands
------------------------------------------------------------

namespace PluginStudio

namespace Shell

/- What is needed to carry out commands. -/
structure Means where
  launch : Launch
  perform : Bool → Command → Action Unit
  evaluateAs : String → String → Action Unit

/- Carry out the commands of a text. -/
def Means.evaluate
    (means : Means)
    (text : String) : Action Unit :=
  means.evaluateAs "" text

/- What a command prints. -/
def Means.capture
    (means : Means) : Capture :=
  captureWith (means.perform false) means.evaluate

/- Ordinary commands of the shell that need its means. -/
def needingMeans : List String :=
  ["type", "command"]

/- End the shell if a failure should. -/
def checkFailure (tested : Bool) : Action Unit := do
  let state ← get
  if state.options.exitOnFailure && !tested && state.status ≠ 0 then
    throw (.exit state.status)

/- Say what a command is. -/
def describe (name : String) : Action Nat := do
  let state ← get
  if name ∈ keywords then
    print "type" (name ++ " is a shell keyword\n")
  else if (state.functions.lookup name).isSome then
    print "type" (name ++ " is a shell function\n")
  else if isSpecial name then
    print "type" (name ++ " is a special shell builtin\n")
  else if (builtins.lookup name).isSome || name ∈ needingMeans then
    print "type" (name ++ " is a shell builtin\n")
  else
    match programOf? state name with
    | some file => print "type" (name ++ " is " ++ file ++ "\n")
    | none =>
      let _ ← print "type" (name ++ ": not found\n")
      return 127

/- Say what commands are. -/
def describeAll : List String → Action Nat
  | [] => return 0
  | name :: names => do
    let status ← describe name
    let others ← describeAll names
    return max status others

/- Say how a command is run. -/
def locateCommand (name : String) : Action Nat := do
  let state ← get
  if name ∈ keywords || (state.functions.lookup name).isSome ||
      isSpecial name || (builtins.lookup name).isSome ||
      name ∈ needingMeans then
    print "command" (name ++ "\n")
  else
    match programOf? state name with
    | some file => print "command" (file ++ "\n")
    | none => return 127

/- Run a program, or a command of the shell by itself. -/
def runPlain
    (means : Means)
    (name : String)
    (args : List String)
    (vars : List (String × String)) : Action Nat := do
  match builtins.lookup name with
  | some builtin => builtin args
  | none =>
    match ← external means.launch "" name args vars with
    | .ok status => settleStatus status
    | .error status => return status

/- Read commands from a file and carry them out. -/
def sourceFile
    (means : Means)
    (name : String) : Action Nat := do
  let state ← get
  let file? :=
    if '/' ∈ name.toList then some name
    else search? state name
  match file? with
  | none => abort (".: " ++ name ++ ": not found")
  | some file =>
    match state.machine.files.read state.dir file with
    | .error fault =>
      abort (".: cannot open " ++ name ++ ": " ++ openReason false fault)
    | .ok bytes =>
      try
        setStatus 0
        means.evaluateAs (name ++ ": ") (Octets.text bytes)
        return (← get).status
      catch flow =>
        match flow with
        | .back status => return status
        | other => throw other

/- Commands of the shell that need its means. -/
def inner?
    (means : Means)
    (vars : List (String × String)) :
    String → Option Builtin
  | "eval" => some fun args => do
    setStatus 0
    means.evaluateAs "eval: " (String.intercalate " " args)
    return (← get).status
  | "." => some fun args => sourceFile means (args.head?.getD "")
  | "type" => some describeAll
  | "exec" => some fun args => do
    match args with
    | [] => return 0
    | name :: rest =>
      match ← external means.launch "exec: " name rest vars with
      | .ok (.killed signal _) => throw (.killed signal)
      | .ok status => throw (.exit (status.code?.getD 0))
      | .error status => throw (.exit status)
  | "command" => some fun args => do
    match args with
    | "-v" :: name :: _ => locateCommand name
    | "-V" :: name :: _ => describe name
    | "--" :: name :: rest => runPlain means name rest vars
    | name :: rest => runPlain means name rest vars
    | [] => return 0
  | name => builtins.lookup name

/- Have the variables of a function back as they were. -/
def restoreLocals
    (saved : List (String × Option Variable)) : Action Unit :=
  modify fun state =>
    { state with
      vars :=
        saved.foldl
          (fun vars (name, old?) =>
            match old? with
            | some old => assocSet name old vars
            | none => assocErase name vars)
          state.vars }

/- Call a function. -/
def callFunction
    (means : Means)
    (tested : Bool)
    (body : Command)
    (args : List String) : Action Nat := do
  let outer ← get
  set { outer with args := args, locals := [] :: outer.locals, loops := 0 }
  let leave : Action Unit := do
    let frame := ((← get).locals.head?).getD []
    restoreLocals frame
    modify fun state =>
      { state with
        args := outer.args
        locals := outer.locals
        loops := outer.loops }
  try
    means.perform tested body
    let status := (← get).status
    leave
    return status
  catch flow =>
    leave
    match flow with
    | .back status => return status
    | other => throw other

/- The values that assignments give. -/
def evaluateAll
    (capture : Capture) :
    List (String × Word) → Action (List (String × String))
  | [] => return []
  | (name, word) :: more => do
    let value ← expandText capture word
    let others ← evaluateAll capture more
    return (name, value) :: others

/- Show a command before it is carried out. -/
def trace
    (assignments : List (String × String))
    (fields : List String) : Action Unit := do
  if (← get).options.traceCommands then
    let parts := assignments.map (fun a => a.1 ++ "=" ++ a.2) ++ fields
    let sign := ((← get).value? "PS4").getD ""
    let _ ← say 2 (sign ++ String.intercalate " " parts ++ "\n")

/- Commands whose arguments may be assignments. -/
def declares (words : List Word) : Bool :=
  match words.head?.bind bareText? with
  | some name => name ∈ ["export", "readonly", "local"]
  | none => false

/- The arguments of a command. -/
def expandArguments
    (capture : Capture)
    (words : List Word) : Action (List String) := do
  if declares words then
    let parts ← words.mapM fun word => do
      match assignment? word with
      | some (name, value) =>
        return [name ++ "=" ++ (← expandText capture value)]
      | none => expandFields capture word
    return parts.flatten
  else
    expandAll capture words

/- Assign several variables. -/
def assignAll : List (String × String) → Action Unit
  | [] => return
  | (name, value) :: more => do
    assign name value
    assignAll more

/- Carry out a command with assignments that last as long. -/
def withAssigned
    (values : List (String × String))
    (action : Action Nat) : Action Nat := do
  let saved := (← get).vars
  let restore : Action Unit :=
    modify fun state =>
      { state with
        vars :=
          values.foldl
            (fun vars (name, _) =>
              match saved.lookup name with
              | some old => assocSet name old vars
              | none => assocErase name vars)
            state.vars }
  assignAll values
  for (name, _) in values do
    remark name fun v => { v with exported := true }
  try
    let status ← action
    restore
    return status
  catch flow =>
    restore
    throw flow

/- Carry out the command that fields name. -/
def dispatch
    (means : Means)
    (tested : Bool)
    (values : List (String × String))
    (name : String)
    (args : List String) : Action Nat := do
  let state ← get
  let vars := overlay state.exports values
  match state.functions.lookup name with
  | some body =>
    if isSpecial name then
      return 0
    else
      withAssigned values (callFunction means tested body args)
  | none =>
    match inner? means vars name with
    | some builtin =>
      if isSpecial name then
        assignAll values
        builtin args
      else if values.isEmpty then
        builtin args
      else
        withAssigned values (builtin args)
    | none =>
      match ← external means.launch "" name args vars with
      | .ok status => settleStatus status
      | .error status => return status

/- Carry out a simple command. -/
def simple
    (means : Means)
    (tested : Bool)
    (line : Nat)
    (assignments : List (String × Word))
    (words : List Word)
    (redirections : List Redirection) : Action Unit := do
  modify fun state => { state with line := line, substituted? := none }
  let fields ← expandArguments means.capture words
  match fields with
  | [] =>
    keepingPorts do
      if ← redirect means.capture redirections then
        let values ← evaluateAll means.capture assignments
        trace values []
        assignAll values
        setStatus ((← get).substituted?.getD 0)
      else
        setStatus 2
  | name :: args =>
    let action : Action Unit := do
      if ← redirect means.capture redirections then
        let values ← evaluateAll means.capture assignments
        trace values fields
        let status ← dispatch means tested values name args
        setStatus status
      else if isSpecial name then
        throw (.exit 2)
      else
        setStatus 2
    if name = "exec" then action else keepingPorts action

end Shell

end PluginStudio

------------------------------------------------------------
-- Loops And Choices
------------------------------------------------------------

namespace PluginStudio

namespace Shell

/- One round of a loop.  Should there be another? -/
def round (action : Action Bool) : Action Bool := do
  try
    action
  catch flow =>
    match flow with
    | .leave levels again =>
      if 1 < levels then
        throw (.leave (levels - 1) again)
      else
        return again
    | other => throw other

/- Do something inside a loop. -/
def insideLoop (action : Action Unit) : Action Unit := do
  modify fun state => { state with loops := state.loops + 1 }
  let leave : Action Unit :=
    modify fun state => { state with loops := state.loops - 1 }
  try
    action
    leave
  catch flow =>
    leave
    throw flow

/- Repeat a body as long as a condition says so. -/
def repeatWhile
    (means : Means)
    (tested inverted : Bool)
    (condition body : Command) :
    Nat → Nat → Action Unit
  | 0, status => setStatus status
  | rounds + 1, status => do
    let again ← round do
      means.perform true condition
      if ((← get).status = 0) != inverted then
        means.perform tested body
        return true
      else
        setStatus status
        return false
    if again then
      repeatWhile means tested inverted condition body rounds
        (← get).status

/- Carry out a body for each value of a variable. -/
def forEach
    (means : Means)
    (tested : Bool)
    (name : String)
    (body : Command) :
    List String → Action Unit
  | [] => return
  | value :: values => do
    assign name value
    let again ← round do
      means.perform tested body
      return true
    if again then
      forEach means tested name body values

/- Does one of the patterns accept a text? -/
def anyAccepts
    (capture : Capture)
    (subject : List Char) :
    List Word → Action Bool
  | [] => return false
  | word :: words => do
    let glyphs ← expandGlyphs capture word
    if (Pattern.ofGlyphs glyphs).accepts subject then
      return true
    else
      anyAccepts capture subject words

/- Carry out the first arm whose pattern accepts a text. -/
def choose
    (means : Means)
    (tested : Bool)
    (subject : List Char) :
    List (List Word × Command) → Action Unit
  | [] => setStatus 0
  | (patterns, body) :: arms => do
    if ← anyAccepts means.capture subject patterns then
      setStatus 0
      means.perform tested body
    else
      choose means tested subject arms

/- Carry out a compound command with its redirections. -/
def redirected
    (means : Means)
    (redirections : List Redirection)
    (action : Action Unit) : Action Unit := do
  if redirections.isEmpty then
    action
  else
    keepingPorts do
      if ← redirect means.capture redirections then
        action
      else
        setStatus 2

/- Carry out a command in the background, which is done at once. -/
def background
    (means : Means)
    (command : Command) : Action Unit := do
  let state ← get
  let (index, machine) := state.machine.openPipe []
  set { state with machine := machine }
  let status ← inSubshell means.evaluate do
    connect 0 (some ⟨index, true, false⟩)
    means.perform false command
  modify fun state =>
    let pid := state.pid + 1 + state.jobs.length
    { state with
      status := 0
      job? := some pid
      jobs := (pid, status) :: state.jobs }

/- How often a loop may go round. -/
def mostRounds : Nat := 100000000

/- Carry out a command with the given means. -/
def step
    (means : Means)
    (tested : Bool) :
    Command → Action Unit
  | .nothing => return
  | .chain first second => do
    means.perform tested first
    means.perform tested second
  | .both first second => do
    means.perform true first
    if (← get).status = 0 then
      means.perform tested second
  | .either first second => do
    means.perform true first
    if (← get).status ≠ 0 then
      means.perform tested second
  | .negated command => do
    means.perform true command
    setStatus (if (← get).status = 0 then 1 else 0)
  | .background command => background means command
  | .pipeline commands => do
    let status ← pipe (means.perform false) means.evaluate commands none
    setStatus status
    checkFailure tested
  | .subshell line body redirections => do
    modify fun state => { state with line := line }
    redirected means redirections do
      let status ← inSubshell means.evaluate (means.perform tested body)
      setStatus status
    checkFailure tested
  | .group body redirections =>
    redirected means redirections (means.perform tested body)
  | .branch condition yes no redirections =>
    redirected means redirections do
      means.perform true condition
      if (← get).status = 0 then
        means.perform tested yes
      else
        setStatus 0
        means.perform tested no
  | .loop inverted condition body redirections =>
    redirected means redirections
      (insideLoop
        (repeatWhile means tested inverted condition body mostRounds 0))
  | .each line name words? body redirections => do
    modify fun state => { state with line := line }
    redirected means redirections do
      let values ←
        match words? with
        | some words => expandAll means.capture words
        | none => pure (← get).args
      setStatus 0
      insideLoop (forEach means tested name body values)
  | .choice line subject arms redirections => do
    modify fun state => { state with line := line }
    redirected means redirections do
      let text ← expandText means.capture subject
      choose means tested text.toList arms
  | .function name body => do
    modify fun state =>
      { state with
        functions := assocSet name body state.functions
        status := 0 }
  | .simple line assignments words redirections => do
    simple means tested line assignments words redirections
    checkFailure tested

/- Carry out what is to be done on signals that came in. -/
def answerSignals
    (evaluate : String → Action Unit) :
    List Nat → Action Unit
  | [] => return
  | signal :: signals => do
    let state ← get
    match state.traps.lookup signal with
    | none => answerSignals evaluate signals
    | some action =>
      evaluate action
      setStatus state.status
      answerSignals evaluate signals

/- Look for signals after a command. -/
def checkSignals
    (evaluate : String → Action Unit) : Action Unit := do
  let pending := (← get).pending
  if !pending.isEmpty then
    modify fun state => { state with pending := [] }
    answerSignals evaluate pending

end Shell

end PluginStudio

------------------------------------------------------------
-- Scripts
------------------------------------------------------------

namespace PluginStudio

namespace Shell

/-
  Carry out the command lines of a source.  `label` is told
  before what is wrong with it.
-/
def runSource
    (perform : Command → Action Unit)
    (label : String) :
    Nat → Source → Action Unit
  | 0, _ => return
  | lines + 1, source => do
    match readNext?.run source with
    | .error fault =>
      modify fun state => { state with line := fault.line }
      abort (label ++ "Syntax error: " ++ fault.message)
    | .ok (none, _) => return
    | .ok (some command, source) =>
      perform command
      runSource perform label lines source

mutual

/- Carry out a command. -/
def run
    (launch : Launch) :
    Nat → Bool → Command → Action Unit
  | 0, _, _ => throw (.exit 2)
  | fuel + 1, tested, command => do
    if (← get).options.skipCommands then return
    step ⟨launch, run launch fuel, runText launch fuel⟩ tested command
    checkSignals (runText launch fuel "")

/- Carry out the commands of a text. -/
def runText
    (launch : Launch) :
    Nat → String → String → Action Unit
  | 0, _, _ => throw (.exit 2)
  | fuel + 1, label, text =>
    runSource (run launch fuel false) label (text.length + 1)
      (Source.ofText text)

end

/- How deep commands may nest. -/
def mostNesting : Nat := 1000000

end Shell

end PluginStudio
