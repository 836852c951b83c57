/-
  Sums in scripts.

  Key definitions include:
    * `PluginStudio.Shell.Expr`
    * `PluginStudio.Shell.Expr.read`
    * `PluginStudio.Shell.Expr.value`

  Numbers have 64 bits and a sign, and overflow without notice.
-/

------------------------------------------------------------
-- Expressions
------------------------------------------------------------

namespace PluginStudio

namespace Shell

/- Operators between two numbers. -/
inductive Operator where
  | times
  | quotient
  | remainder
  | plus
  | minus
  | left
  | right
  | less
  | atMost
  | more
  | atLeast
  | equal
  | unequal
  | bitAnd
  | bitXor
  | bitOr
deriving DecidableEq, Repr

/- Why an expression has no value. -/
inductive SumFault where
  | problem (text : String)
  | noNumber (text : String)
deriving DecidableEq, Repr

namespace SumFault

/- The fault of an expression in words. -/
def message
    (expression : String) : SumFault → String
  | problem text =>
    "arithmetic expression: " ++ text ++ ": \"" ++ expression ++ "\""
  | noNumber text => "Illegal number: " ++ text

end SumFault

/- An expression. -/
inductive Expr where
  | number (value : Int)
  | item (name : String)
  | minus (e : Expr)
  | opposite (e : Expr)
  | complement (e : Expr)
  | binary (op : Operator) (a b : Expr)
  | both (a b : Expr)
  | either (a b : Expr)
  | choice (c a b : Expr)
  | assign (name : String) (op? : Option Operator) (e : Expr)
deriving Repr

namespace Operator

/- Operators that are written with the given signs, and rank. -/
def table : List (String × Operator × Nat) :=
  [("<<", left, 7), (">>", right, 7), ("<=", atMost, 6),
    (">=", atLeast, 6), ("==", equal, 5), ("!=", unequal, 5),
    ("*", times, 9), ("/", quotient, 9), ("%", remainder, 9),
    ("+", plus, 8), ("-", minus, 8), ("<", less, 6), (">", more, 6),
    ("&", bitAnd, 4), ("^", bitXor, 3), ("|", bitOr, 2)]

/- A number cut to 64 bits. -/
def cut (n : Int) : Int :=
  Int.bmod n 18446744073709551616

/- A number's bits. -/
def bits (n : Int) : Nat :=
  (n % 18446744073709551616).toNat

/- A truth value as a number. -/
def truth (b : Bool) : Int :=
  if b then 1 else 0

/- The result, unless a zero divides. -/
def apply
    (op : Operator)
    (a b : Int) : Except SumFault Int :=
  match op with
  | times => .ok (cut (a * b))
  | quotient =>
    if b = 0 then .error (.problem "division by zero") else .ok (cut (a.tdiv b))
  | remainder =>
    if b = 0 then .error (.problem "division by zero") else .ok (cut (a.tmod b))
  | plus => .ok (cut (a + b))
  | minus => .ok (cut (a - b))
  | left => .ok (cut (a * Nat.pow 2 (bits b % 64)))
  | right => .ok (a.fdiv (Nat.pow 2 (bits b % 64)))
  | less => .ok (truth (a < b))
  | atMost => .ok (truth (a ≤ b))
  | more => .ok (truth (a > b))
  | atLeast => .ok (truth (a ≥ b))
  | equal => .ok (truth (a = b))
  | unequal => .ok (truth (a ≠ b))
  | bitAnd => .ok (cut (bits a &&& bits b))
  | bitXor => .ok (cut (bits a ^^^ bits b))
  | bitOr => .ok (cut (bits a ||| bits b))

end Operator

end Shell

end PluginStudio

------------------------------------------------------------
-- Reading
------------------------------------------------------------

namespace PluginStudio

namespace Shell

namespace Expr

/- Is the character white space? -/
def isSpace (c : Char) : Bool :=
  c = ' ' || c = '\t' || c = '\n'

/- Without white space in front. -/
def trim (cs : List Char) : List Char :=
  cs.dropWhile isSpace

/- The value of a digit. -/
def digit (c : Char) : Nat :=
  if c.isDigit then c.toNat - 48
  else if 'a' ≤ c && c ≤ 'f' then c.toNat - 87
  else if 'A' ≤ c && c ≤ 'F' then c.toNat - 55
  else 99

/- The number with the given digits. -/
def ofDigits
    (base : Nat)
    (cs : List Char) : Nat :=
  cs.foldl (fun n c => n * base + digit c) 0

/- The largest number. -/
def most : Nat := 9223372036854775807

/- A number in front of a text, by its base. -/
def number? (cs : List Char) : Option (Int × List Char) :=
  let cut (n : Nat) : Int := (min n most : Nat)
  match cs with
  | '0' :: x :: more =>
    if x = 'x' || x = 'X' then
      let ds := more.takeWhile fun c => digit c < 16
      some (cut (ofDigits 16 ds), more.drop ds.length)
    else
      let ds := (x :: more).takeWhile fun c => digit c < 8
      some (cut (ofDigits 8 ds), (x :: more).drop ds.length)
  | c :: more =>
    if c.isDigit then
      let ds := (c :: more).takeWhile Char.isDigit
      some (cut (ofDigits 10 ds), (c :: more).drop ds.length)
    else
      none
  | [] => none

/- A name in front of a text. -/
def name? (cs : List Char) : Option (String × List Char) :=
  match cs with
  | c :: _ =>
    if c.isAlpha || c = '_' then
      let name := cs.takeWhile fun c => c.isAlphanum || c = '_'
      some (String.ofList name, cs.drop name.length)
    else
      none
  | [] => none

/- The operator in front of a text that ranks at least so high. -/
def operator?
    (rank : Nat)
    (cs : List Char) : Option (Operator × Nat × List Char) :=
  match cs with
  | '&' :: '&' :: _ => none
  | '|' :: '|' :: _ => none
  | _ =>
    match Operator.table.find? fun row =>
        row.1.toList.isPrefixOf cs with
    | some (sign, op, level) =>
      let after := cs.drop sign.length
      if rank ≤ level then some (op, level, after) else none
    | none => none

/- The operator of an assignment in front of a text. -/
def assigning? (cs : List Char) : Option (Option Operator × List Char) :=
  match cs with
  | '=' :: '=' :: _ => none
  | '=' :: more => some (none, more)
  | _ =>
    match operator? 0 cs with
    | some (op, _, '=' :: more) =>
      if op = .less || op = .more || op = .equal || op = .unequal ||
          op = .atMost || op = .atLeast then
        none
      else
        some (some op, more)
    | _ => none

mutual

/- A number, a name, or what a sign or brackets stand before. -/
def readPrimary : Nat → List Char → Except SumFault (Expr × List Char)
  | 0, _ => .error (.problem "expecting primary")
  | fuel + 1, text => do
    let cs := trim text
    match cs with
    | '(' :: more =>
      let (e, after) ← readAll fuel more
      match trim after with
      | ')' :: rest => return (e, rest)
      | _ => .error (.problem "expecting ')'")
    | '-' :: more =>
      let (e, rest) ← readPrimary fuel more
      return (.minus e, rest)
    | '+' :: more => readPrimary fuel more
    | '~' :: more =>
      let (e, rest) ← readPrimary fuel more
      return (.complement e, rest)
    | '!' :: '=' :: _ => .error (.problem "expecting primary")
    | '!' :: more =>
      let (e, rest) ← readPrimary fuel more
      return (.opposite e, rest)
    | _ =>
      match number? cs, name? cs with
      | some (n, rest), _ => return (.number n, rest)
      | none, some (name, rest) =>
        match assigning? (trim rest) with
        | some (op?, more) =>
          let (e, rest) ← readAll fuel more
          return (.assign name op? e, rest)
        | none => return (.item name, rest)
      | none, none => .error (.problem "expecting primary")

/- Operands and operators that rank at least so high. -/
def readRanked :
    Nat → Nat → Expr → List Char → Except SumFault (Expr × List Char)
  | 0, _, _, _ => .error (.problem "expecting primary")
  | fuel + 1, rank, e, text => do
    match operator? rank (trim text) with
    | none => return (e, text)
    | some (op, level, more) =>
      let (second, rest) ← readPrimary fuel more
      let (second, rest) ← readRanked fuel (level + 1) second rest
      readRanked fuel rank (.binary op e second) rest

/- Operands that all have to hold. -/
def readBoth : Nat → List Char → Except SumFault (Expr × List Char)
  | 0, _ => .error (.problem "expecting primary")
  | fuel + 1, text => do
    let (first, rest) ← readPrimary fuel text
    let (first, rest) ← readRanked fuel 0 first rest
    match trim rest with
    | '&' :: '&' :: more =>
      let (second, rest) ← readBoth fuel more
      return (.both first second, rest)
    | _ => return (first, rest)

/- Operands of which one has to hold. -/
def readEither : Nat → List Char → Except SumFault (Expr × List Char)
  | 0, _ => .error (.problem "expecting primary")
  | fuel + 1, text => do
    let (first, rest) ← readBoth fuel text
    match trim rest with
    | '|' :: '|' :: more =>
      let (second, rest) ← readEither fuel more
      return (.either first second, rest)
    | _ => return (first, rest)

/- An expression of any kind. -/
def readAll : Nat → List Char → Except SumFault (Expr × List Char)
  | 0, _ => .error (.problem "expecting primary")
  | fuel + 1, text => do
    let (first, rest) ← readEither fuel text
    match trim rest with
    | '?' :: more =>
      let (yes, rest) ← readAll fuel more
      match trim rest with
      | ':' :: more =>
        let (no, rest) ← readAll fuel more
        return (.choice first yes no, rest)
      | _ => .error (.problem "expecting ':'")
    | _ => return (first, rest)

end

/- The expression that a text writes. -/
def read (text : String) : Except SumFault Expr := do
  let (e, rest) ← readAll (8 * text.length + 16) text.toList
  if (trim rest).isEmpty then
    return e
  else
    .error (.problem "expecting EOF")

end Expr

end Shell

end PluginStudio

------------------------------------------------------------
-- Values
------------------------------------------------------------

namespace PluginStudio

namespace Shell

namespace Expr

/- The number that a variable's text stands for. -/
def numberOf (text : String) : Except SumFault Int :=
  let cs := trim text.toList
  let (negative, ds) :=
    match cs with
    | '-' :: more => (true, more)
    | '+' :: more => (false, more)
    | _ => (false, cs)
  if cs.isEmpty then
    .ok 0
  else
    match number? ds with
    | some (n, rest) =>
      if (trim rest).isEmpty then
        .ok (if negative then -n else n)
      else
        .error (.noNumber text)
    | none => .error (.noNumber text)

/- The number that a name stands for. -/
def current
    (lookup : String → String)
    (env : List (String × Int))
    (x : String) : Except SumFault Int :=
  match env.lookup x with
  | some n => .ok n
  | none => numberOf (lookup x)

/-
  The value of an expression, with the names it assigns.  The
  latest assignment of a name is the first in the list.
-/
def value
    (lookup : String → String) :
    Expr → List (String × Int) →
    Except SumFault (Int × List (String × Int))
  | number n, env => .ok (n, env)
  | item x, env => do
    let n ← current lookup env x
    return (n, env)
  | minus e, env => do
    let (n, env) ← value lookup e env
    return (Operator.cut (-n), env)
  | opposite e, env => do
    let (n, env) ← value lookup e env
    return (Operator.truth (n = 0), env)
  | complement e, env => do
    let (n, env) ← value lookup e env
    return (-n - 1, env)
  | binary op a b, env => do
    let (m, env) ← value lookup a env
    let (n, env) ← value lookup b env
    let r ← op.apply m n
    return (r, env)
  | both a b, env => do
    let (m, env) ← value lookup a env
    if m = 0 then
      return (0, env)
    else
      let (n, env) ← value lookup b env
      return (Operator.truth (n ≠ 0), env)
  | either a b, env => do
    let (m, env) ← value lookup a env
    if m ≠ 0 then
      return (1, env)
    else
      let (n, env) ← value lookup b env
      return (Operator.truth (n ≠ 0), env)
  | choice c a b, env => do
    let (n, env) ← value lookup c env
    if n ≠ 0 then value lookup a env else value lookup b env
  | assign x op? e, env => do
    let (n, env) ← value lookup e env
    match op? with
    | none => return (n, (x, n) :: env)
    | some op =>
      let old ← current lookup env x
      let r ← op.apply old n
      return (r, (x, r) :: env)

end Expr

end Shell

end PluginStudio
