import PluginStudio.Cli.Refusal
import PluginStudio.Cli.Similarity
import PluginStudio.Net.Address

/-
  Reading a command line.

  Key definitions include:
    * `PluginStudio.Cli.Reading`
    * `PluginStudio.Cli.readArgs`
    * `PluginStudio.Cli.Order`
    * `PluginStudio.Cli.Order.read`

  Words are read from left to right.  The value of an argument
  is only looked at once the next argument is known, so of two
  faults the one that is seen first is reported.
-/

------------------------------------------------------------
-- Values
------------------------------------------------------------

namespace PluginStudio

namespace Cli

/- Reasons why a text is not a number. -/
def invalidDigit : String := "invalid digit found in string"
def emptyNumber : String := "cannot parse integer from empty string"
def tooLarge : String := "number too large to fit in target type"
def tooSmall : String := "number too small to fit in target type"

/- A number of digits that may not pass a limit. -/
def readDigits
    (limit : Nat)
    (overflow : String) : Nat → List Char → Except String Nat
  | n, [] => .ok n
  | n, c :: cs =>
    if !c.isDigit then
      .error invalidDigit
    else if limit < n * 10 + (c.toNat - 48) then
      .error overflow
    else
      readDigits limit overflow (n * 10 + (c.toNat - 48)) cs

/- A number of 64 bits with a sign. -/
def readInteger (text : String) : Except String Int :=
  match text.toList with
  | [] => .error emptyNumber
  | ['+'] => .error invalidDigit
  | ['-'] => .error invalidDigit
  | '+' :: cs => (readDigits 9223372036854775807 tooLarge 0 cs).map Int.ofNat
  | '-' :: cs => (readDigits 9223372036854775808 tooSmall 0 cs).map fun n => -Int.ofNat n
  | cs => (readDigits 9223372036854775807 tooLarge 0 cs).map Int.ofNat

/- The number of a port. -/
def readPort (text : String) : Except String Nat := do
  let n ← readInteger text
  if 0 ≤ n ∧ n ≤ 65535 then
    return n.toNat
  else
    throw (toString n ++ " is not in 0..=65535")

/- The address of a host. -/
def readIp (text : String) : Except String Net.Ip :=
  match Net.Ip.read? text with
  | some ip => .ok ip
  | none => .error "invalid IP address syntax"

/- What is wrong with the value of an argument. -/
def valueComplaint?
    (arg : Arg)
    (value : String) : Option Complaint :=
  match arg with
  | .port =>
    match readPort value with
    | .ok _ => none
    | .error reason => some (.badValue value arg reason)
  | .bind =>
    match readIp value with
    | .ok _ => none
    | .error reason => some (.badValue value arg reason)
  | _ => if value = "" then some (.noValue arg) else none

end Cli

end PluginStudio

------------------------------------------------------------
-- Readings
------------------------------------------------------------

namespace PluginStudio

namespace Cli

/- Reasons to stop reading. -/
inductive Stop where
  | shown (text : String)
  | refused (refusal : Refusal)
deriving DecidableEq, Repr

/-
  Arguments so far with their values, an argument that is not
  settled yet, the number of places filled, and whether options
  are over.
-/
structure Reading where
  given : List (Arg × String) := []
  pending? : Option (Arg × Option String) := none
  places : Nat := 0
  optionsOver : Bool := false
deriving Repr

namespace Reading

/- Was the argument given? -/
def has
    (reading : Reading)
    (arg : Arg) : Bool :=
  reading.given.any fun entry => entry.1 = arg

/- Arguments that were given. -/
def args (reading : Reading) : List Arg :=
  reading.given.map fun entry => entry.1

/- Is the next word the value of an option? -/
def isWaiting (reading : Reading) : Bool :=
  match reading.pending? with
  | some (_, none) => true
  | _ => false

/- Add an argument, which may not be given twice. -/
def add
    (scope : Scope)
    (reading : Reading)
    (arg : Arg)
    (value : String) : Except Stop Reading :=
  if reading.has arg then
    .error (.refused ⟨.repeated arg, [], some scope.usage, true⟩)
  else
    .ok { reading with given := reading.given ++ [(arg, value)] }

/- Settle the argument that is not settled yet. -/
def settle
    (scope : Scope)
    (reading : Reading) : Except Stop Reading :=
  match reading.pending? with
  | none => .ok reading
  | some (arg, none) => .error (.refused ⟨.noValue arg, [], none, true⟩)
  | some (arg, some value) => do
    let settled ← add scope { reading with pending? := none } arg value
    match valueComplaint? arg value with
    | some complaint => throw (.refused ⟨complaint, [], none, true⟩)
    | none => return settled

/-
  Arguments that count as used after a fault.  Of an argument
  given twice neither counts.
-/
def used (reading : Reading) : List Arg :=
  match reading.pending? with
  | some (arg, some _) =>
    if reading.has arg then reading.args.filter fun a => a ≠ arg
    else reading.args ++ [arg]
  | _ => reading.args

end Reading

end Cli

end PluginStudio

------------------------------------------------------------
-- Hints
------------------------------------------------------------

namespace PluginStudio

namespace Cli

/- A hint that a word can be passed after a double dash. -/
def valueTip (word : String) : String :=
  "to pass " ++ Emphasis.invalid.quoted word ++ " as a value, use " ++
    Emphasis.valid.quoted ("-- " ++ word)

/- Names in quotes with commas between them. -/
def quotedNames (names : List String) : String :=
  String.intercalate ", " (names.map Emphasis.valid.quoted)

/- A hint at commands that are named similarly. -/
def commandTips (names : List String) : List String :=
  match names with
  | [] => []
  | [name] =>
    ["a similar subcommand exists: " ++ Emphasis.valid.quoted name]
  | _ => ["some similar subcommands exist: " ++ quotedNames names]

/- The earlier of two finds. -/
def earlier
    (first? : Option (Nat × String))
    (second : Nat × String) : Option (Nat × String) :=
  match first? with
  | some first => if second.1 < first.1 then some second else some first
  | none => some second

/-
  An option of a command further right that may have been
  meant, together with the command.
-/
def commandOption?
    (scope : Scope)
    (name : String)
    (rest : List String) : Option String :=
  let finds := scope.commands.filterMap fun sub => do
    let option ← (similarTo name sub.longs).getLast?
    let place ← rest.findIdx? fun word => word = sub.word
    return (place, sub.word ++ " --" ++ option)
  (finds.foldl earlier none).map fun find => find.2

/- Refuse an option that does not exist. -/
def unknownLong
    (scope : Scope)
    (reading : Reading)
    (name : String)
    (rest : List String) : Refusal :=
  let word := "--" ++ name
  let complaint := Complaint.unknownArgument word
  match (similarTo name scope.longs).getLast? with
  | some similar =>
    let meant := (scope.long? similar).toList
    ⟨complaint,
      ["a similar argument exists: " ++
        Emphasis.valid.quoted ("--" ++ similar)],
      some (scope.usageWith (reading.used ++ meant) false), true⟩
  | none =>
    let tips :=
      match commandOption? scope name rest with
      | some option => [Emphasis.valid.quoted option ++ " exists"]
      | none => if scope.positionals.isEmpty then [] else [valueTip word]
    ⟨complaint, tips, some (scope.usageWith reading.used false), true⟩

/- Refuse a short option that does not exist. -/
def unknownShort
    (scope : Scope)
    (c : Char) : Refusal :=
  let word := "-" ++ String.singleton c
  ⟨.unknownArgument word,
    if scope.positionals.isEmpty then [] else [valueTip word],
    some scope.usage, true⟩

/- Refuse a word that has no place. -/
def unknownWord
    (scope : Scope)
    (reading : Reading)
    (word : String) : Refusal :=
  if reading.optionsOver && (scope.command? word).isSome then
    ⟨.unknownArgument word,
      ["subcommand " ++ Emphasis.valid.quoted word ++
        " exists; to use it, remove the " ++
        Emphasis.invalid.quoted "--" ++ " before it"],
      some scope.usage, true⟩
  else if scope.commands.isEmpty then
    ⟨.unknownArgument word, [], some scope.usage, true⟩
  else
    ⟨.unknownCommand word,
      commandTips (similarTo word (scope.commands.map Scope.word)),
      some scope.usage, true⟩

end Cli

end PluginStudio

------------------------------------------------------------
-- Words
------------------------------------------------------------

namespace PluginStudio

namespace Cli

namespace Reading

/- Take an option without a value. -/
def flag
    (scope : Scope)
    (reading : Reading)
    (arg : Arg) : Except Stop Reading := do
  let settled ← reading.settle scope
  match arg with
  | .help => throw (.shown scope.helpText)
  | .version => throw (.shown (programName ++ " " ++ Cli.version ++ "\n"))
  | _ => settled.add scope arg ""

/- Take an option with its value. -/
def attach
    (scope : Scope)
    (reading : Reading)
    (arg : Arg)
    (value : String) : Except Stop Reading := do
  let settled ← reading.settle scope
  { settled with pending? := some (arg, some value) }.settle scope

/- Take an option whose value follows. -/
def await
    (scope : Scope)
    (reading : Reading)
    (arg : Arg) : Except Stop Reading := do
  let settled ← reading.settle scope
  return { settled with pending? := some (arg, none) }

/- Take a word for its place. -/
def place
    (scope : Scope)
    (reading : Reading)
    (word : String) : Except Stop Reading := do
  match scope.positionals[reading.places]? with
  | some arg =>
    let settled ← reading.settle scope
    return { settled with
      pending? := some (arg, some word), places := settled.places + 1 }
  | none => throw (.refused (unknownWord scope reading word))

/- Take a long option. -/
def long
    (scope : Scope)
    (reading : Reading)
    (name : String)
    (value? : Option String)
    (rest : List String) : Except Stop Reading :=
  match scope.long? name with
  | none => .error (.refused (unknownLong scope reading name rest))
  | some arg =>
    match arg.takesValue, value? with
    | true, some value => reading.attach scope arg value
    | true, none => reading.await scope arg
    | false, none => reading.flag scope arg
    | false, some value =>
      let together := reading.args.any fun arg => scope.group.contains arg
      .error (.refused
        ⟨.surplusValue value arg, [],
          some (scope.usageWith (reading.args ++ [arg]) together), true⟩)

/- Take short options that are written together. -/
def short
    (scope : Scope) :
    Reading → List Char → Except Stop Reading
  | reading, [] => .ok reading
  | reading, c :: cs =>
    match scope.short? c with
    | none => .error (.refused (unknownShort scope c))
    | some arg =>
      if !arg.takesValue then do
        short scope (← reading.flag scope arg) cs
      else
        match cs with
        | [] => reading.await scope arg
        | '=' :: value => reading.attach scope arg (String.ofList value)
        | value => reading.attach scope arg (String.ofList value)

/- Take a word that may be an option or a value. -/
def word
    (scope : Scope)
    (reading : Reading)
    (text : String)
    (rest : List String) : Except Stop Reading :=
  match text.toList with
  | '-' :: '-' :: cs =>
    let name := String.ofList (cs.takeWhile fun c => c ≠ '=')
    let value? :=
      match cs.dropWhile fun c => c ≠ '=' with
      | _ :: value => some (String.ofList value)
      | [] => none
    reading.long scope name value? rest
  | '-' :: c :: cs => short scope reading (c :: cs)
  | _ =>
    match reading.pending? with
    | some (arg, none) =>
      .ok { reading with pending? := some (arg, some text) }
    | _ => reading.place scope text

/- Nothing follows.  Is all there that has to be? -/
def finish
    (scope : Scope)
    (reading : Reading) : Except Stop Reading := do
  let settled ← reading.settle scope
  let missing := scope.required.filter fun arg => !settled.has arg
  if missing.isEmpty then
    return settled
  else
    throw (.refused
      ⟨.missing missing, [],
        some (scope.usageWith (settled.args ++ missing) false), true⟩)

end Reading

end Cli

end PluginStudio

------------------------------------------------------------
-- Command Lines
------------------------------------------------------------

namespace PluginStudio

namespace Cli

/- Show help for the command that words lead to. -/
def helpFor : Scope → List String → Stop
  | scope, [] => .shown scope.helpText
  | scope, name :: rest =>
    match scope.command? name with
    | some sub => helpFor sub rest
    | none =>
      .refused
        ⟨.unknownCommand name, [], some scope.usage, !scope.options.isEmpty⟩

/-
  Read the words of a scope.  A command starts a scope of its
  own, which is read before the arguments so far are settled.
-/
def readArgs :
    Scope → Reading → List String → Except Stop (List (Scope × Reading))
  | scope, reading, [] => do
    return [(scope, ← reading.finish scope)]
  | scope, reading, text :: rest =>
    if reading.optionsOver then do
      readArgs scope (← reading.place scope text) rest
    else
      match if reading.isWaiting then none else scope.command? text with
      | some .help => .error (helpFor scope rest)
      | some sub => do
        let inner ← readArgs sub {} rest
        return (scope, ← reading.finish scope) :: inner
      | none =>
        if text = "--" then
          readArgs scope { reading with optionsOver := true } rest
        else do
          readArgs scope (← reading.word scope text rest) rest

end Cli

end PluginStudio

------------------------------------------------------------
-- Orders
------------------------------------------------------------

namespace PluginStudio

namespace Cli

/- What the program is to do. -/
inductive Task where
  | serve (bind : Net.Ip) (port : Nat) (headless : Bool)
  | build (request : Path) (output? : Option Path)
deriving DecidableEq, Repr

/- A task, and where it finds its files. -/
structure Order where
  resourcesDir? : Option Path
  buildDir? : Option Path
  verbose : Bool
  task : Task
deriving DecidableEq, Repr

namespace Order

/- The value of an argument, the one furthest in. -/
def valueOf?
    (readings : List (Scope × Reading))
    (arg : Arg) : Option String :=
  readings.foldl (fun found? entry =>
    match entry.2.given.lookup arg with
    | some value => some value
    | none => found?) none

/- The path that an argument gives. -/
def pathOf?
    (readings : List (Scope × Reading))
    (arg : Arg) : Option Path :=
  (valueOf? readings arg).map Path.ofText

/- The task that the innermost scope stands for. -/
def taskOf (readings : List (Scope × Reading)) : Task :=
  let value? := valueOf? readings
  match readings.getLast? with
  | some (.build, _) =>
    .build ((pathOf? readings .request).getD "")
      (pathOf? readings .output)
  | _ =>
    .serve
      (((value? .bind).bind Net.Ip.read?).getD .localhost)
      (((value? .port).bind fun v => (readPort v).toOption).getD 0)
      (value? .headless).isSome

/- The order that a command line gives. -/
def read (args : List String) : Except Stop Order := do
  let readings ← readArgs .top {} args
  return {
      resourcesDir? := pathOf? readings .resourcesDir
      buildDir? := pathOf? readings .buildDir
      verbose := (valueOf? readings .verbose).isSome
      task := taskOf readings }

end Order

end Cli

end PluginStudio
