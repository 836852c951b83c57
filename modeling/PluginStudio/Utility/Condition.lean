import PluginStudio.Machine.Process
import PluginStudio.Utility.Format

/-
  Conditions on texts, numbers and files.

  Key definitions include:
    * `PluginStudio.Condition.evaluate`

  A condition is given as a list of arguments.  Which of them
  are operators depends on where they stand.
-/

------------------------------------------------------------
-- Operators
------------------------------------------------------------

namespace PluginStudio

namespace Condition

/- What a condition may look at. -/
structure Surroundings where
  files : FileSystem
  dir : Place

/- What a path leads to. -/
def Surroundings.node?
    (s : Surroundings)
    (follow : Bool)
    (arg : String) : Option Node :=
  match s.files.stat s.dir follow arg with
  | .ok (_, node) => some node
  | .error _ => none

/- Operators in front of one argument. -/
def unaryOperators : List String :=
  ["-e", "-f", "-d", "-r", "-w", "-x", "-s", "-n", "-z", "-L", "-h",
    "-p", "-S", "-b", "-c", "-g", "-u", "-k", "-O", "-G", "-t"]

/- Operators between two arguments. -/
def binaryOperators : List String :=
  ["=", "!=", "<", ">", "-eq", "-ne", "-lt", "-le", "-gt", "-ge",
    "-nt", "-ot", "-ef"]

/- A condition on one argument. -/
def unary
    (s : Surroundings)
    (op arg : String) : Bool :=
  let node? := s.node? true arg
  match op with
  | "-e" => node?.isSome
  | "-f" => node?.any Node.isFile
  | "-d" => node?.any Node.isDirectory
  | "-r" | "-w" => node?.isSome
  | "-x" =>
    node?.any fun node => node.isDirectory || node.mode &&& 0o111 ≠ 0
  | "-s" =>
    node?.any fun node =>
      match node with
      | .file _ content => !content.isEmpty
      | .directory _ => true
      | _ => false
  | "-L" | "-h" =>
    (s.node? false arg).any fun node =>
      match node with
      | .link _ => true
      | _ => false
  | "-n" => arg ≠ ""
  | "-z" => arg = ""
  | "-c" =>
    node?.any fun node =>
      match node with
      | .device _ => true
      | _ => false
  | "-O" | "-G" => node?.isSome
  | "-g" => node?.any fun node => node.mode &&& 0o2000 ≠ 0
  | "-u" => node?.any fun node => node.mode &&& 0o4000 ≠ 0
  | "-k" => node?.any fun node => node.mode &&& 0o1000 ≠ 0
  | _ => false

/- A whole number, white space around it aside. -/
def number (text : String) : Except String Int :=
  let isSpace (c : Char) : Bool := c = ' ' || c = '\t' || c = '\n'
  let cs := text.toList.dropWhile isSpace
  let (negative, ds) :=
    match cs with
    | '-' :: more => (true, more)
    | '+' :: more => (false, more)
    | _ => (false, cs)
  let digits := ds.takeWhile Char.isDigit
  if digits.isEmpty || !(ds.drop digits.length).all isSpace then
    .error ("Illegal number: " ++ text)
  else
    let n : Nat :=
      digits.foldl (fun n c => n * 10 + (c.toNat - 48)) 0
    .ok (if negative then -(n : Int) else n)

/- Do two paths lead to the same place? -/
def samePlace
    (s : Surroundings)
    (a b : String) : Bool :=
  match s.files.stat s.dir true a,
      s.files.stat s.dir true b with
  | .ok (p, _), .ok (q, _) => p = q
  | _, _ => false

/- A condition on two arguments. -/
def binary
    (s : Surroundings)
    (a op b : String) : Except String Bool :=
  match op with
  | "=" => .ok (a = b)
  | "!=" => .ok (a ≠ b)
  | "<" => .ok (a < b)
  | ">" => .ok (b < a)
  | "-nt" => .ok ((s.node? true a).isSome && (s.node? true b).isNone)
  | "-ot" => .ok ((s.node? true a).isNone && (s.node? true b).isSome)
  | "-ef" => .ok (samePlace s a b)
  | _ => do
    let m ← number a
    let n ← number b
    return (match op with
      | "-eq" => m = n
      | "-ne" => m ≠ n
      | "-lt" => m < n
      | "-le" => m ≤ n
      | "-gt" => m > n
      | _ => m ≥ n)

end Condition

end PluginStudio

------------------------------------------------------------
-- Conditions
------------------------------------------------------------

namespace PluginStudio

namespace Condition

/- Is the argument an operator between two others? -/
def isBinary (arg : String) : Bool :=
  arg ∈ binaryOperators

/- Is the argument an operator in front of another? -/
def isUnary (arg : String) : Bool :=
  arg ∈ unaryOperators

/- Without the bracket that closes a condition. -/
def closing
    (result : Bool × List String) : Except String (Bool × List String) :=
  match result.2 with
  | ")" :: rest => .ok (result.1, rest)
  | _ => .error "closing paren expected"

mutual

/- Conditions of which one has to hold. -/
def readOr
    (s : Surroundings) :
    Nat → List String → Except String (Bool × List String)
  | 0, _ => .error "argument expected"
  | fuel + 1, args => do
    let (a, rest) ← readAnd s fuel args
    match rest with
    | "-o" :: more =>
      let (b, rest) ← readOr s fuel more
      return (a || b, rest)
    | _ => return (a, rest)

/- Conditions that all have to hold. -/
def readAnd
    (s : Surroundings) :
    Nat → List String → Except String (Bool × List String)
  | 0, _ => .error "argument expected"
  | fuel + 1, args => do
    let (a, rest) ← readNot s fuel args
    match rest with
    | "-a" :: more =>
      let (b, rest) ← readAnd s fuel more
      return (a && b, rest)
    | _ => return (a, rest)

/- A condition that may be reversed. -/
def readNot
    (s : Surroundings) :
    Nat → List String → Except String (Bool × List String)
  | 0, _ => .error "argument expected"
  | fuel + 1, args => do
    match args with
    | "!" :: op :: more =>
      if isBinary op && !more.isEmpty then
        readOne s fuel args
      else
        let (a, rest) ← readNot s fuel (op :: more)
        return (!a, rest)
    | _ => readOne s fuel args

/- A condition by itself. -/
def readOne
    (s : Surroundings) :
    Nat → List String → Except String (Bool × List String)
  | 0, _ => .error "argument expected"
  | fuel + 1, args => do
    match args with
    | [] => .error "argument expected"
    | [a] => if a = "(" then .error "argument expected" else return (a ≠ "", [])
    | a :: op :: rest =>
      match rest with
      | b :: more =>
        if isBinary op then
          return (← binary s a op b, more)
        else if a = "(" then
          closing (← readOr s fuel (op :: rest))
        else if isUnary a then
          return (unary s a op, rest)
        else
          return (a ≠ "", op :: rest)
      | [] =>
        if a = "(" then
          closing (← readOr s fuel [op])
        else if isUnary a then
          return (unary s a op, [])
        else if isBinary op then
          .error (op ++ ": argument expected")
        else
          return (a ≠ "", [op])

end

/- Does the condition hold? -/
def evaluate
    (s : Surroundings)
    (args : List String) : Except String Bool := do
  match args with
  | [] => return false
  | _ =>
    let (a, rest) ← readOr s (4 * args.length + 8) args
    match rest, args with
    | [], _ => return a
    | _, first :: second :: _ =>
      if first = "!" || isUnary first then
        .error (second ++ ": unexpected operator")
      else
        .error (first ++ ": unexpected operator")
    | _, _ => .error "unexpected operator"

end Condition

end PluginStudio
