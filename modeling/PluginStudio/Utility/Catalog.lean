import PluginStudio.Shell.Pattern
import PluginStudio.Utility.Condition
import PluginStudio.Utility.Edit

/-
  The utilities by their names.

  Key definitions include:
    * `PluginStudio.Utility.named?`
    * `PluginStudio.Utility.names`
    * `PluginStudio.Utility.image`

  A program file of a utility is an image that holds its name.
-/

------------------------------------------------------------
-- Small Utilities
------------------------------------------------------------

namespace PluginStudio

namespace Utility

open Program

/- Show the arguments. -/
def echo (args : List String) : Program Nat := do
  match args with
  | "-n" :: rest => put (String.intercalate " " rest)
  | "-e" :: rest =>
    put ((Format.escapes (String.intercalate " " rest)).1 ++ "\n")
  | _ => put (String.intercalate " " args ++ "\n")
  return 0

/- Print by a format. -/
def printf (args : List String) : Program Nat := do
  match args with
  | [] => missingOperand "printf"
  | format :: rest =>
    let printed := Format.print format rest
    put printed.text
    for problem in printed.problems do
      complain ("printf: " ++ problem)
    match printed.fatal? with
    | some problem =>
      complain ("printf: " ++ problem)
      return 1
    | none => return if printed.problems.isEmpty then 0 else 1

/- Test a condition. -/
def test
    (bracket : Bool)
    (args : List String) : Program Nat := do
  let name := if bracket then "[" else "test"
  if bracket && args.getLast? ≠ some "]" then
    complain (name ++ ": missing ']'")
    return 2
  else
    let args := if bracket then args.dropLast else args
    match ← look fun fs dir => Condition.evaluate ⟨fs, dir⟩ args with
    | .ok true => return 0
    | .ok false => return 1
    | .error problem =>
      complain (name ++ ": " ++ problem)
      return 2

/- Milliseconds that a text of seconds tells. -/
def milliseconds (text : String) : Nat :=
  let cs := text.toList
  let whole := cs.takeWhile Char.isDigit
  let part :=
    match cs.drop whole.length with
    | '.' :: more => (more.takeWhile Char.isDigit).take 3
    | _ => []
  let value (ds : List Char) : Nat :=
    ds.foldl (fun n c => n * 10 + (c.toNat - 48)) 0
  value whole * 1000 + value part * Nat.pow 10 (3 - part.length)

/- Is a text a number of seconds? -/
def isSeconds (text : String) : Bool :=
  let cs := text.toList
  cs.any Char.isDigit && cs.all fun c => c.isDigit || c = '.'

/- Let time pass. -/
def sleep (args : List String) : Program Nat := do
  match args, args.find? fun arg => !isSeconds arg with
  | [], _ => missingOperand "sleep"
  | _, some arg =>
    complain ("sleep: invalid time interval " ++ quoteEscaped arg)
    complain "Try 'sleep --help' for more information."
    return 1
  | _, none =>
    modify fun machine =>
      { machine with
        clock := (args.map milliseconds).foldl Nat.add machine.clock }
    return 0

/- Show the working directory. -/
def workingDir (_ : List String) : Program Nat := do
  put ((← read).dir.path ++ "\n")
  return 0

/- Show variables. -/
def printVariables (args : List String) : Program Nat := do
  let vars := (← read).vars
  match args with
  | [] =>
    put (lines (vars.map fun v => v.1 ++ "=" ++ v.2))
    return 0
  | names =>
    each names fun name => do
      match vars.lookup name with
      | some value =>
        put (value ++ "\n")
        return 0
      | none => return 1

/- Does a pattern, given as text, accept another text? -/
def acceptsText
    (pattern text : String) : Bool :=
  (Shell.Pattern.ofGlyphs
    (pattern.toList.map fun c => ⟨c, false⟩)).accepts text.toList

end Utility

end PluginStudio

------------------------------------------------------------
-- The Catalog
------------------------------------------------------------

namespace PluginStudio

namespace Utility

/- All utilities. -/
def catalog : List (String × (List String → Program Nat)) :=
  [
    ("true", fun _ => return 0),
    ("false", fun _ => return 1),
    ("echo", echo),
    ("printf", printf),
    ("test", test false),
    ("[", test true),
    ("cat", concatenate),
    ("tac", reversedLines),
    ("rev", backwards),
    ("grep", searchLines),
    ("sed", editLines),
    ("yes", repeatForever),
    ("dd", copyBlocks),
    ("head", head),
    ("tail", tail),
    ("tr", transliterate),
    ("wc", count),
    ("sort", sort),
    ("uniq", unique),
    ("cut", cut),
    ("tee", tee),
    ("seq", sequence),
    ("basename", baseName),
    ("dirname", dirName),
    ("mkdir", makeDirectories),
    ("rmdir", removeDirectories),
    ("rm", remove),
    ("touch", touch),
    ("ln", link),
    ("cp", copy),
    ("mv", move),
    ("chmod", changeMode),
    ("readlink", readLink),
    ("ls", list),
    ("find", find acceptsText),
    ("sleep", sleep),
    ("pwd", workingDir),
    ("printenv", printVariables)
  ]

/- What a utility says if there was no room for its output. -/
def crowdedLines (name : String) : List String :=
  let cause := ": " ++ Errno.noSpace.text
  match name with
  | "sort" => [": fflush failed: 'standard output'" ++ cause, ": write error"]
  | "find" => [": 'standard output'" ++ cause, ": write error"]
  | "tee" => [": 'standard output'" ++ cause]
  | "yes" => [": standard output" ++ cause]
  | "dd" => [": error writing 'standard output'" ++ cause]
  | "sed" => [": couldn't flush stdout" ++ cause]
  | "wc" => [": write error"]
  | _ => [": write error" ++ cause]

/- The status with which it then ends. -/
def crowdedStatus (name : String) : Nat :=
  match name with
  | "sed" => 4
  | "ls" | "grep" | "sort" | "printenv" => 2
  | _ => 1

/- Run a utility, and complain if there was no room for its output. -/
def watched
    (name : String)
    (utility : List String → Program Nat)
    (args : List String) : Program Nat := do
  modify fun machine => { machine with crowded := false }
  let status ← utility args
  if (← get).crowded then
    for line in crowdedLines name do
      Program.complain (name ++ line)
    return crowdedStatus name
  else
    return status

/- The utility with a name. -/
def named? (name : String) : Option (List String → Program Nat) :=
  (catalog.lookup name).map (watched name)

/- Bytes that every program image starts with. -/
def imageMark : Bytes :=
  [0x7f, 0x45, 0x4c, 0x46]

/- The image of a program with a name. -/
def image (name : String) : Bytes :=
  imageMark ++ Utf8.encode name

/- The name that an image holds. -/
def imageName? (content : Bytes) : Option String :=
  if imageMark.isPrefixOf content then
    Utf8.decode? (content.drop imageMark.length)
  else
    none

end Utility

end PluginStudio
