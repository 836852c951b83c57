import PluginStudio.Shell.Expansion
import PluginStudio.Shell.Reader
import PluginStudio.Utility.Condition

/-
  Commands that a shell carries out by itself.

  Key definitions include:
    * `PluginStudio.Shell.Builtin`
    * `PluginStudio.Shell.builtins`
    * `PluginStudio.Shell.isSpecial`

  Each gives its status.  Those that read commands or start
  programs are not among them.
-/

------------------------------------------------------------
-- Output
------------------------------------------------------------

namespace PluginStudio

namespace Shell

/- A command of the shell. -/
abbrev Builtin :=
  List String → Action Nat

/- Write output of a command, whose name is told on failure. -/
def print
    (name text : String) : Action Nat := do
  if text = "" then
    return 0
  else if ← say 1 text then
    return 0
  else
    warn (name ++ ": " ++ name ++ ": I/O error")
    return 1

/- Show the arguments, without their escapes. -/
def echoBuiltin : Builtin := fun args => do
  let (bare, args) :=
    match args with
    | "-n" :: rest => (true, rest)
    | _ => (false, args)
  let (text, stop) := Format.escapes (String.intercalate " " args)
  print "echo" (if bare || stop then text else text ++ "\n")

/- Print by a format. -/
def printfBuiltin : Builtin := fun args => do
  match args with
  | [] =>
    warn "printf: usage: printf format [arg ...]"
    return 2
  | format :: rest =>
    let printed := Format.print format rest
    for problem in printed.problems do
      warn ("printf: " ++ problem)
    match printed.fatal? with
    | some problem =>
      warn ("printf: " ++ problem)
      let _ ← print "printf" printed.text
      return 2
    | none =>
      let status ← print "printf" printed.text
      return if printed.problems.isEmpty then status else 1

/- Test a condition. -/
def testBuiltin (bracket : Bool) : Builtin := fun args => do
  let name := if bracket then "[" else "test"
  if bracket && args.getLast? ≠ some "]" then
    warn "[: missing ]"
    return 2
  else
    let args := if bracket then args.dropLast else args
    let state ← get
    match Condition.evaluate ⟨state.machine.files, state.dir⟩ args with
    | .ok true => return 0
    | .ok false => return 1
    | .error problem =>
      warn (name ++ ": " ++ problem)
      return 2

end Shell

end PluginStudio

------------------------------------------------------------
-- Directories
------------------------------------------------------------

namespace PluginStudio

namespace Shell

/- Names of a path with dots resolved by their meaning. -/
def resolveDots : List String → List String → List String
  | acc, [] => acc.reverse
  | acc, name :: names =>
    if name = "" || name = "." then resolveDots acc names
    else if name = ".." then resolveDots (acc.drop 1) names
    else resolveDots (name :: acc) names

/- A path from the root, without dots. -/
def logicalPath
    (dir target : String) : String :=
  let whole := Path.join dir target
  "/" ++ String.intercalate "/" (resolveDots [] (Path.segments whole))

/- Go to another directory. -/
def changeDir : Builtin := fun args => do
  let state ← get
  let args := args.filter fun arg => arg ≠ "-P" && arg ≠ "-L" && arg ≠ "--"
  let back := args.head? = some "-"
  let target :=
    match args with
    | [] => (state.value? "HOME").getD ""
    | arg :: _ =>
      if arg = "-" then (state.value? "OLDPWD").getD "" else arg
  if target = "" then
    return 0
  else
    let path := logicalPath state.logicalDir target
    match state.machine.files.stat state.dir true path with
    | .ok (place, .directory _) =>
      let old := state.logicalDir
      set { state with dir := place, logicalDir := path }
      assign "OLDPWD" old
      assign "PWD" path
      if back then
        print "cd" (path ++ "\n")
      else
        return 0
    | _ =>
      warn ("cd: can't cd to " ++ target)
      return 2

/- Show the directory. -/
def showDir : Builtin := fun args => do
  let state ← get
  print "pwd"
    ((if "-P" ∈ args then state.dir.path
      else state.logicalDir) ++ "\n")

end Shell

end PluginStudio

------------------------------------------------------------
-- Flow
------------------------------------------------------------

namespace PluginStudio

namespace Shell

/- A number that an argument gives. -/
def count
    (name : String)
    (arg? : Option String)
    (default : Nat) : Action Nat := do
  match arg? with
  | none => return default
  | some arg =>
    if arg ≠ "" && arg.toList.all Char.isDigit then
      return arg.toList.foldl (fun n c => n * 10 + (c.toNat - 48)) 0
    else
      abort (name ++ ": Illegal number: " ++ arg)

/- End the shell. -/
def exitBuiltin : Builtin := fun args => do
  let status ← count "exit" args.head? (← get).status
  throw (.exit status)

/- End a function or a script. -/
def returnBuiltin : Builtin := fun args => do
  let status ← count "return" args.head? (← get).status
  throw (.back status)

/- Leave loops, or go on with the next round. -/
def leaveBuiltin
    (name : String)
    (again : Bool) : Builtin := fun args => do
  let levels ← count name args.head? 1
  if (← get).loops = 0 then
    return 0
  else
    throw (.leave levels again)

/- Drop arguments. -/
def shiftBuiltin : Builtin := fun args => do
  let n ← count "shift" args.head? 1
  let state ← get
  if state.args.length < n then
    abort "shift: can't shift that many"
  else
    set { state with args := state.args.drop n }
    return 0

end Shell

end PluginStudio

------------------------------------------------------------
-- Variables And Options
------------------------------------------------------------

namespace PluginStudio

namespace Shell

/- A name and a value, if there is one. -/
def binding (arg : String) : String × Option String :=
  let name := arg.toList.takeWhile fun c => c ≠ '='
  match arg.toList.drop name.length with
  | '=' :: value => (String.ofList name, some (String.ofList value))
  | _ => (arg, none)

/- Change how a variable is kept. -/
def remark
    (name : String)
    (change : Variable → Variable) : Action Unit := do
  let state ← get
  match state.vars.lookup name with
  | some v => set { state with vars := assocSet name (change v) state.vars }
  | none => return

/- A value between quotes. -/
def quotedValue (value : String) : String :=
  let parts := Path.splitOn '\'' value.toList
  String.intercalate "\"'\"" (parts.map fun part =>
    "'" ++ String.ofList part ++ "'")

/- Show the variables with a mark. -/
def showMarked
    (builtin : String)
    (marked : Variable → Bool) : Action Nat := do
  let vars := ((← get).vars.filter fun v => marked v.2).mergeSort
    fun a b => a.1 ≤ b.1
  print builtin (String.join (vars.map fun v =>
    builtin ++ " " ++ v.1 ++ "=" ++ quotedValue v.2.value ++ "\n"))

/- Give variables a mark, and values where some are given. -/
def markAll
    (builtin : String)
    (marked : Variable → Bool)
    (change : Variable → Variable) : Builtin := fun args => do
  if (args.filter fun arg => arg ≠ "-p").isEmpty then
    return ← showMarked builtin marked
  for arg in args do
    if arg ≠ "-p" then
      let (name, value?) := binding arg
      if isName name then
        match value? with
        | some value => assign name value
        | none =>
          if ((← get).vars.lookup name).isNone && builtin = "readonly" then
            assign name ""
        remark name change
      else
        abort (builtin ++ ": " ++ name ++ ": bad variable name")
  return 0

/- Take variables or functions away. -/
def unsetBuiltin : Builtin := fun args => do
  let functions := args.head? = some "-f"
  for arg in args.filter fun arg => arg ≠ "-f" && arg ≠ "-v" do
    if functions then
      modify fun state =>
        { state with functions := assocErase arg state.functions }
    else
      unassign arg
  return 0

/- Variables that a function keeps to itself. -/
def localBuiltin : Builtin := fun args => do
  match (← get).locals with
  | [] => abort "local: not in a function"
  | _ =>
    for arg in args do
      let (name, value?) := binding arg
      modify fun state =>
        { state with
          locals :=
            match state.locals with
            | [] => []
            | frame :: frames =>
              ((name, state.vars.lookup name) :: frame) :: frames }
      match value? with
      | some value => assign name value
      | none => pure ()
    return 0

/- Switch an option by its letter. -/
def switch
    (on : Bool)
    (c : Char)
    (options : Options) : Options :=
  match c with
  | 'e' => { options with exitOnFailure := on }
  | 'u' => { options with failOnUnset := on }
  | 'x' => { options with traceCommands := on }
  | 'f' => { options with keepPatterns := on }
  | 'C' => { options with keepFiles := on }
  | 'a' => { options with exportAll := on }
  | 'n' => { options with skipCommands := on }
  | _ => options

/- The letter of an option's name. -/
def letterOf (name : String) : Char :=
  match name with
  | "errexit" => 'e'
  | "nounset" => 'u'
  | "xtrace" => 'x'
  | "noglob" => 'f'
  | "noclobber" => 'C'
  | "allexport" => 'a'
  | "noexec" => 'n'
  | _ => '?'

/- All letters that switch options. -/
def optionLetters : List Char :=
  ['e', 'f', 'I', 'i', 'm', 'n', 's', 'x', 'v', 'V', 'E', 'C', 'a', 'b', 'u']

/- The first letter in front of arguments that is no option. -/
def strangeLetter? : List String → Option String
  | [] => none
  | arg :: args =>
    match arg.toList with
    | ['-', '-'] => none
    | [_, 'o'] =>
      match args with
      | _ :: rest => strangeLetter? rest
      | [] => none
    | sign :: c :: cs =>
      if sign = '-' || sign = '+' then
        match (c :: cs).find? fun d => d ∉ optionLetters with
        | some d => some (String.ofList [sign, d])
        | none => strangeLetter? args
      else
        none
    | _ => none

/-
  Options in front of arguments.  The flag says that arguments
  were given, or marked as such.
-/
def readOptions :
    List String → Options → Options × List String × Bool
  | [], options => (options, [], false)
  | arg :: args, options =>
    match arg.toList with
    | ['-', '-'] => (options, args, true)
    | ['-', 'o'] =>
      match args with
      | name :: rest =>
        readOptions rest (switch true (letterOf name) options)
      | [] => (options, [], false)
    | ['+', 'o'] =>
      match args with
      | name :: rest =>
        readOptions rest (switch false (letterOf name) options)
      | [] => (options, [], false)
    | '-' :: c :: cs =>
      readOptions args
        ((c :: cs).foldl (fun o d => switch true d o) options)
    | '+' :: c :: cs =>
      readOptions args
        ((c :: cs).foldl (fun o d => switch false d o) options)
    | _ => (options, arg :: args, true)

/- Set options and arguments. -/
def setBuiltin : Builtin := fun args => do
  match strangeLetter? args with
  | some option => abort ("set: Illegal option " ++ option)
  | none => pure ()
  let state ← get
  let (options, rest, given) := readOptions args state.options
  set { state with
    options := options
    args := if given then rest else state.args }
  return 0

end Shell

end PluginStudio

------------------------------------------------------------
-- Reading
------------------------------------------------------------

namespace PluginStudio

namespace Shell

/- A line in which backslashes protect what follows. -/
def unescapeLine : List Char → List Glyph
  | [] => []
  | '\\' :: c :: cs => ⟨c, true⟩ :: unescapeLine cs
  | c :: cs => ⟨c, false⟩ :: unescapeLine cs

/- Is the glyph a separator of white space? -/
def isSpaceGlyph
    (separators : List Char)
    (g : Glyph) : Bool :=
  !g.quoted && g.char ∈ separators &&
    (g.char = ' ' || g.char = '\t' || g.char = '\n')

/- The values for names, of which the last gets the rest. -/
def distribute
    (separators : List Char) :
    List String → List Glyph → List (String × String)
  | [], _ => []
  | [name], line =>
    let rest := line.dropWhile (isSpaceGlyph separators)
    let kept := (rest.reverse.dropWhile (isSpaceGlyph separators)).reverse
    [(name, String.ofList (kept.map Glyph.char))]
  | name :: names, line =>
    let isSep (g : Glyph) : Bool := !g.quoted && g.char ∈ separators
    let start := line.dropWhile (isSpaceGlyph separators)
    let field := start.takeWhile fun g => !isSep g
    let behind :=
      (start.drop field.length).dropWhile (isSpaceGlyph separators)
    let behind :=
      match behind with
      | g :: more =>
        if isSep g && (start.drop field.length).head? = some g then more
        else behind
      | [] => []
    (name, String.ofList (field.map Glyph.char)) ::
      distribute separators names behind

/- Read a line, with the lines that backslashes join to it. -/
def readLogical (raw : Bool) : Nat → Action (List Char × Bool)
  | 0 => return ([], false)
  | fuel + 1 => do
    let state ← get
    match state.ports.lookup 0 with
    | none => return ([], false)
    | some port =>
      match state.machine.readLine port with
      | .error _ => return ([], false)
      | .ok (bytes, machine) =>
        set { state with machine := machine }
        let cs := (Octets.text bytes).toList
        let ended := cs.getLast? = some '\n'
        let line := if ended then cs.dropLast else cs
        let slashes := (line.reverse.takeWhile fun c => c = '\\').length
        if !raw && ended && slashes % 2 = 1 then
          let (more, ended) ← readLogical raw fuel
          return (line.dropLast ++ more, ended)
        else
          return (line, ended)

/- Read a line into variables. -/
def readBuiltin : Builtin := fun args => do
  let raw := args.head? = some "-r"
  let names := args.filter fun arg => arg ≠ "-r"
  if names.isEmpty then
    warn "read: arg count"
    return 2
  let (line, ended) ← readLogical raw 10000
  let glyphs :=
    if raw then line.map fun c => ⟨c, false⟩ else unescapeLine line
  let separators := (← get).separators
  for (name, value) in distribute separators names glyphs do
    assign name value
  return if ended then 0 else 1

end Shell

end PluginStudio

------------------------------------------------------------
-- Signals
------------------------------------------------------------

namespace PluginStudio

namespace Shell

/- Names of signals without their common start. -/
def signalNames : List String :=
  "EXIT" :: Signal.names.map fun name => String.ofList (name.toList.drop 3)

/- The number of a signal, by number or name. -/
def signal? (text : String) : Option Nat :=
  if text ≠ "" && text.toList.all Char.isDigit then
    let n := text.toList.foldl (fun n c => n * 10 + (c.toNat - 48)) 0
    if n ≤ 64 then some n else none
  else
    let upper := text.map Char.toUpper
    let name :=
      if upper.startsWith "SIG" then String.ofList (upper.toList.drop 3)
      else upper
    signalNames.findIdx? fun other => other = name

/- Tell of a signal that does not exist. -/
def badTrap (name : String) : Action Unit := do
  let _ ← say 2 ("trap: " ++ name ++ ": bad trap\n")

/- Set what is done on signals. -/
def trapBuiltin : Builtin := fun args => do
  let args := args.filter fun arg => arg ≠ "--"
  match args with
  | [] =>
    let state ← get
    let text := String.join (state.traps.map fun (n, action) =>
      "trap -- '" ++ action ++ "' " ++ (signalNames[n]?).getD "" ++ "\n")
    print "trap" text
  | [one] =>
    match signal? one with
    | some n =>
      modify fun state =>
        { state with traps := state.traps.filter fun t => t.1 ≠ n }
      return 0
    | none =>
      badTrap one
      return 1
  | action :: signals =>
    let mut status := 0
    for signal in signals do
      match signal? signal with
      | none =>
        badTrap signal
        status := 1
      | some n =>
        modify fun state =>
          let others := state.traps.filter fun t => t.1 ≠ n
          { state with
            traps := if action = "-" then others else others ++ [(n, action)] }
    return status

/- Signals that do nothing unless they are trapped. -/
def isHarmless (signal : Nat) : Bool :=
  signal = 17 || signal = 18 || signal = 23 || signal = 28

/- Send a signal to this shell. -/
def receive (signal : Nat) : Action Unit := do
  let state ← get
  if signal = 0 then
    return
  else
    match state.traps.lookup signal with
    | some action =>
      if signal = 9 || signal = 19 then
        throw (.killed signal)
      else if action ≠ "" then
        set { state with pending := state.pending ++ [signal] }
    | none =>
      if !isHarmless signal then throw (.killed signal)

/- How signals are sent. -/
def killUsage : String :=
  "kill: Usage: kill [-s sigspec | -signum | -sigspec] [pid | job]... or\n" ++
    "kill -l [exitstatus]"

/- The name of a signal in a list of them. -/
def signalListed (n : Nat) : String :=
  if n = 0 || n = 16 || n = 32 || n = 33 then toString n
  else if n < 32 then (signalNames[n]?).getD (toString n)
  else if n = 34 then "RTMIN"
  else if n = 64 then "RTMAX"
  else if n < 50 then "RTMIN+" ++ toString (n - 34)
  else "RTMAX-" ++ toString (64 - n)

/- List signals, or name the one that a status tells of. -/
def listSignals : Builtin := fun args => do
  match args with
  | [] =>
    print "kill" (String.join
      ((List.range 64).map fun n => signalListed n ++ "\n"))
  | arg :: _ =>
    match arg.toNat? with
    | some n => print "kill" (signalListed (n % 128) ++ "\n")
    | none =>
      warn ("kill: Illegal number: " ++ arg)
      return 2

/- Send a signal to each target.  Did all get it? -/
def sendAll
    (signal : Nat) : List String → Nat → Action Nat
  | [], status => return status
  | target :: targets, status => do
    let state ← get
    if target = toString state.pid || target = "0" then
      receive signal
      sendAll signal targets status
    else
      match target.toInt? with
      | none =>
        warn ("kill: Illegal number: " ++ target)
        return 2
      | some n =>
        if (state.jobs.lookup n.toNat).isSome then
          sendAll signal targets status
        else
          warn "kill: No such process\n"
          sendAll signal targets 1

/- Send signals. -/
def killBuiltin : Builtin := fun args => do
  let (signal?, targets) : Option Nat × List String :=
    match args with
    | "-s" :: name :: rest => (signal? name, rest)
    | first :: rest =>
      match first.toList with
      | '-' :: cs => (signal? (String.ofList cs), rest)
      | _ => (some 15, args)
    | [] => (some 15, [])
  match args, signal? with
  | "-l" :: rest, _ => listSignals rest
  | _, none =>
    warn ("kill: Illegal option " ++
      String.ofList ((args.head?.getD "").toList.take 2))
    return 2
  | _, some signal =>
    if targets.isEmpty then
      warn killUsage
      return 2
    else
      sendAll signal targets 0

/- Wait for background commands. -/
def waitBuiltin : Builtin := fun args => do
  let state ← get
  match args with
  | [] => return 0
  | _ =>
    return (args.map fun arg =>
      (state.jobs.lookup (arg.toNat?.getD 0)).getD 127).getLast?.getD 0

end Shell

end PluginStudio

------------------------------------------------------------
-- The Table
------------------------------------------------------------

namespace PluginStudio

namespace Shell

/- The commands of the shell by their names. -/
def builtins : List (String × Builtin) :=
  [
    (":", fun _ => return 0),
    ("true", fun _ => return 0),
    ("false", fun _ => return 1),
    ("echo", echoBuiltin),
    ("printf", printfBuiltin),
    ("[", testBuiltin true),
    ("test", testBuiltin false),
    ("cd", changeDir),
    ("pwd", showDir),
    ("exit", exitBuiltin),
    ("return", returnBuiltin),
    ("break", leaveBuiltin "break" false),
    ("continue", leaveBuiltin "continue" true),
    ("shift", shiftBuiltin),
    ("export", markAll "export" Variable.exported
      fun v => { v with exported := true }),
    ("readonly", markAll "readonly" Variable.constant
      fun v => { v with constant := true }),
    ("unset", unsetBuiltin),
    ("local", localBuiltin),
    ("set", setBuiltin),
    ("read", readBuiltin),
    ("trap", trapBuiltin),
    ("kill", killBuiltin),
    ("wait", waitBuiltin),
    ("umask", fun args =>
      if args.isEmpty then print "umask" "0022\n" else return 0),
    ("ulimit", fun _ => return 0),
    ("times", fun _ => return 0),
    ("hash", fun _ => return 0),
    ("jobs", fun _ => return 0)
  ]

/- Commands whose failure ends the shell. -/
def isSpecial (name : String) : Bool :=
  name ∈ [":", ".", "break", "continue", "eval", "exec", "exit",
    "export", "readonly", "return", "set", "shift", "times", "trap",
    "unset"]

end Shell

end PluginStudio
