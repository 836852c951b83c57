import PluginStudio.Machine.Process
import PluginStudio.Shell.Arithmetic
import PluginStudio.Shell.Script

/-
  The state of a running shell.

  Key definitions include:
    * `PluginStudio.Shell.State`
    * `PluginStudio.Shell.Flow`
    * `PluginStudio.Shell.Action`
    * `PluginStudio.Shell.warn`
    * `PluginStudio.Shell.parameter?`
-/

------------------------------------------------------------
-- States
------------------------------------------------------------

namespace PluginStudio

namespace Shell

/- A variable.  Programs that are started see exported ones. -/
structure Variable where
  value : String
  exported : Bool
  constant : Bool
deriving Repr

/- Ways in which a shell can work. -/
structure Options where
  exitOnFailure : Bool := false
  failOnUnset : Bool := false
  traceCommands : Bool := false
  keepPatterns : Bool := false
  keepFiles : Bool := false
  exportAll : Bool := false
  skipCommands : Bool := false
deriving Repr

/- All that a shell knows. -/
structure State where
  machine : Machine
  dir : Place
  logicalDir : String
  ports : List (Nat × Port)
  vars : List (String × Variable)
  zero : String
  args : List String
  status : Nat
  options : Options
  functions : List (String × Command)
  traps : List (Nat × String)
  pending : List Nat
  line : Nat
  pid : Nat
  job? : Option Nat
  jobs : List (Nat × Nat)
  substituted? : Option Nat
  locals : List (List (String × Option Variable))
  loops : Nat

/- Why the commands that follow are not carried out. -/
inductive Flow where
  | leave (levels : Nat) (again : Bool)
  | back (status : Nat)
  | exit (status : Nat)
  | killed (signal : Nat)
deriving Repr

/- Work of a shell. -/
abbrev Action :=
  ExceptT Flow (StateM State)

end Shell

end PluginStudio

------------------------------------------------------------
-- Output
------------------------------------------------------------

namespace PluginStudio

namespace Shell

/- Let a program work with what the shell has open. -/
def withProgram
    {α : Type}
    (work : Program α) : Action α := do
  let state ← get
  let process : Process := ⟨[], [], state.dir, state.ports, []⟩
  let (a, machine) := (work process).run state.machine
  set { state with machine := machine }
  return a

/- Write a text to a descriptor.  Could it be written? -/
def say
    (descriptor : Nat)
    (text : String) : Action Bool :=
  withProgram (Program.emit descriptor text)

/- Tell of a problem, with the script and the line. -/
def warn (message : String) : Action Unit := do
  let state ← get
  let _ ← say 2
    (state.zero ++ ": " ++ toString state.line ++ ": " ++ message ++ "\n")

/- Set the status of the last command. -/
def setStatus (status : Nat) : Action Unit :=
  modify fun state => { state with status := status }

/- Tell of a problem and end the shell. -/
def abort
    {α : Type}
    (message : String) : Action α := do
  warn message
  throw (.exit 2)

end Shell

end PluginStudio

------------------------------------------------------------
-- Variables
------------------------------------------------------------

namespace PluginStudio

namespace Shell

/- A list of pairs with another value for a key. -/
def assocSet
    {α : Type}
    (key : String)
    (value : α) :
    List (String × α) → List (String × α)
  | [] => [(key, value)]
  | entry :: entries =>
    if entry.1 = key then
      (key, value) :: entries
    else
      entry :: assocSet key value entries

/- A list of pairs without a key. -/
def assocErase
    {α : Type}
    (key : String)
    (entries : List (String × α)) : List (String × α) :=
  entries.filter fun entry => entry.1 ≠ key

/- The letters of the options that are on. -/
def Options.letters (options : Options) : String :=
  (if options.exitOnFailure then "e" else "") ++
    (if options.keepPatterns then "f" else "") ++
    (if options.traceCommands then "x" else "") ++
    (if options.keepFiles then "C" else "") ++
    (if options.exportAll then "a" else "") ++
    (if options.failOnUnset then "u" else "")

/- The value of a variable. -/
def State.value?
    (state : State)
    (name : String) : Option String :=
  (state.vars.lookup name).map Variable.value

/- The value of a parameter of any kind but the lists of all. -/
def State.parameter?
    (state : State)
    (name : String) : Option String :=
  match name with
  | "?" => some (toString state.status)
  | "#" => some (toString state.args.length)
  | "$" => some (toString state.pid)
  | "-" => some state.options.letters
  | "!" => state.job?.map toString
  | "0" => some state.zero
  | _ =>
    match name.toNat? with
    | some n =>
      if name.toList.all Char.isDigit then state.args[n - 1]?
      else none
    | none => state.value? name

/- The characters that fields are separated by. -/
def State.separators (state : State) : List Char :=
  match state.value? "IFS" with
  | some value => value.toList
  | none => [' ', '\t', '\n']

/- Give a variable a value. -/
def assign
    (name value : String) : Action Unit := do
  let state ← get
  match state.vars.lookup name with
  | some old =>
    if old.constant then
      abort (name ++ ": is read only")
    else
      set { state with
        vars := assocSet name
          { old with
            value := value
            exported := old.exported || state.options.exportAll }
          state.vars }
  | none =>
    set { state with
      vars := assocSet name ⟨value, state.options.exportAll, false⟩
        state.vars }

/- Take a variable away. -/
def unassign (name : String) : Action Unit := do
  let state ← get
  match state.vars.lookup name with
  | some old =>
    if old.constant then
      abort ("unset: " ++ name ++ ": is read only")
    else
      set { state with vars := assocErase name state.vars }
  | none => return

/- The variables that started programs see. -/
def State.exports (state : State) : List (String × String) :=
  state.vars.filterMap fun entry =>
    if entry.2.exported then some (entry.1, entry.2.value) else none

/- The signals that are ignored. -/
def State.ignored (state : State) : List Nat :=
  state.traps.filterMap fun trap =>
    if trap.2 = "" && trap.1 ≠ 0 then some trap.1 else none

/- The value of a sum, whose assignments are carried out. -/
def calculate (text : String) : Action Int := do
  let state ← get
  let lookup (name : String) : String := (state.value? name).getD ""
  let result : Except SumFault (Int × List (String × Int)) := do
    let e ← Expr.read text
    e.value lookup []
  match result with
  | .ok (n, assigned) =>
    for (name, value) in assigned.reverse do
      assign name (toString value)
    return n
  | .error fault => abort (fault.message text)

end Shell

end PluginStudio
