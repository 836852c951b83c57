/-
  Texts made from a format.

  Key definitions include:
    * `PluginStudio.Format.escapes`
    * `PluginStudio.Format.print`

  Escapes in a format and in echoed texts are told apart: the
  latter write octal numbers with a zero in front.
-/

------------------------------------------------------------
-- Escapes
------------------------------------------------------------

namespace PluginStudio

namespace Format

/- Is the character an octal digit? -/
def isOctal (c : Char) : Bool :=
  '0' ≤ c && c ≤ '7'

/- The character with an octal number, cut to a byte. -/
def ofOctal (ds : List Char) : Char :=
  Char.ofNat
    ((ds.foldl (fun n d => n * 8 + (d.toNat - 48)) 0) % 256)

/- The octal digits in front, at most three. -/
def octalDigits (cs : List Char) : List Char :=
  (cs.take 3).takeWhile isOctal

/- Characters that a letter after a backslash stands for. -/
def letter? (c : Char) : Option Char :=
  match c with
  | '\\' => some '\\'
  | 'a' => some (Char.ofNat 7)
  | 'b' => some (Char.ofNat 8)
  | 'f' => some (Char.ofNat 12)
  | 'n' => some '\n'
  | 'r' => some '\r'
  | 't' => some '\t'
  | 'v' => some (Char.ofNat 11)
  | _ => none

/- What a backslash and what follows stand for, and the rest. -/
def escape (cs : List Char) : Char × List Char :=
  match cs with
  | [] => ('\\', [])
  | c :: more =>
    if isOctal c then
      (ofOctal (octalDigits cs), cs.drop (octalDigits cs).length)
    else
      match letter? c with
      | some d => (d, more)
      | none => ('\\', cs)

/-
  An echoed text without its escapes.  The flag says that the
  output ends there.
-/
def escapesWithin : Nat → List Char → List Char → List Char × Bool
  | 0, acc, _ => (acc.reverse, false)
  | _ + 1, acc, [] => (acc.reverse, false)
  | fuel + 1, acc, c :: cs =>
    if c ≠ '\\' then
      escapesWithin fuel (c :: acc) cs
    else
      match cs with
      | 'c' :: _ => (acc.reverse, true)
      | '0' :: more =>
        let ds := octalDigits more
        escapesWithin fuel (ofOctal ds :: acc) (more.drop ds.length)
      | _ =>
        let (d, rest) := escape cs
        escapesWithin fuel (d :: acc) rest

/- An echoed text without its escapes. -/
def escapes (text : String) : String × Bool :=
  let (cs, stop) :=
    escapesWithin (text.length + 1) [] text.toList
  (String.ofList cs, stop)

end Format

end PluginStudio

------------------------------------------------------------
-- Conversions
------------------------------------------------------------

namespace PluginStudio

namespace Format

/- How a value is written. -/
structure Directive where
  left : Bool := false
  zeros : Bool := false
  plus : Bool := false
  space : Bool := false
  alternate : Bool := false
  width : Nat := 0
  precision? : Option Nat := none
deriving Repr

/- A text brought to the width of a directive. -/
def pad
    (d : Directive)
    (text : String) : String :=
  let fill := "".pushn ' ' (d.width - text.length)
  if d.left then text ++ fill else fill ++ text

/- Digits with a sign, brought to precision and width. -/
def padNumber
    (d : Directive)
    (sign digits : String) : String :=
  match d.precision? with
  | some n => pad d (sign ++ "".pushn '0' (n - digits.length) ++ digits)
  | none =>
    if d.zeros && !d.left then
      sign ++ "".pushn '0' (d.width - sign.length - digits.length) ++
        digits
    else
      pad d (sign ++ digits)

/- A number with its sign. -/
def signed
    (d : Directive)
    (n : Int) : String :=
  let sign :=
    if n < 0 then "-"
    else if d.plus then "+"
    else if d.space then " "
    else ""
  padNumber d sign (toString n.natAbs)

/- A number without a sign in a base. -/
def unsigned
    (d : Directive)
    (base : Nat)
    (upper : Bool)
    (n : Int) : String :=
  let bits := (n % 18446744073709551616).toNat
  let digits := String.ofList (Nat.toDigits base bits)
  let mark :=
    if !d.alternate || bits = 0 then ""
    else if base = 16 then "0x"
    else if base = 8 then "0"
    else ""
  let text := padNumber d mark digits
  if upper then text.map Char.toUpper else text

/- The number that a text starts with, and what is left of it. -/
def integer? (text : String) : Option (Int × List Char) :=
  let cs := text.toList.dropWhile fun c => c = ' ' || c = '\t'
  let (negative, ds) :=
    match cs with
    | '-' :: more => (true, more)
    | '+' :: more => (false, more)
    | _ => (false, cs)
  let value (base : Nat) (digits : List Char) : Int :=
    let n := digits.foldl (fun n c =>
      n * base + (if c.isDigit then c.toNat - 48
        else (c.toLower.toNat - 87))) 0
    if negative then -(n : Int) else n
  let hex (c : Char) : Bool :=
    c.isDigit || ('a' ≤ c.toLower && c.toLower ≤ 'f')
  match ds with
  | '0' :: 'x' :: more =>
    let digits := more.takeWhile hex
    some (value 16 digits, more.drop digits.length)
  | '0' :: more =>
    let digits := more.takeWhile isOctal
    some (value 8 digits, more.drop digits.length)
  | c :: _ =>
    if c.isDigit then
      let digits := ds.takeWhile Char.isDigit
      some (value 10 digits, ds.drop digits.length)
    else
      none
  | [] => none

/- The number of an argument, with what is wrong with it. -/
def argument (text : String) : Int × Option String :=
  match text.toList with
  | [] => (0, none)
  | '"' :: c :: _ => (c.toNat, none)
  | '\'' :: c :: _ => (c.toNat, none)
  | _ =>
    match integer? text with
    | none => (0, some (text ++ ": expected numeric value"))
    | some (n, []) => (n, none)
    | some (n, _) => (n, some (text ++ ": not completely converted"))

/-
  A decimal number brought to so many places.  Halves go to the
  even neighbour.
-/
def fixed
    (places : Nat)
    (text : String) : String :=
  let (negative, cs) :=
    match text.toList with
    | '-' :: more => (true, more)
    | cs => (false, cs)
  let whole := cs.takeWhile Char.isDigit
  let part :=
    match cs.drop whole.length with
    | '.' :: more => more.takeWhile Char.isDigit
    | _ => []
  let digits := (whole ++ part).foldl
    (fun n c => n * 10 + (c.toNat - 48)) 0
  let scale := Nat.pow 10 part.length
  let scaled := digits * Nat.pow 10 places
  let q := scaled / scale
  let r := scaled % scale
  let n :=
    if 2 * r > scale || (2 * r = scale && q % 2 = 1) then q + 1 else q
  let all := toString n
  let all := "".pushn '0' (places + 1 - all.length) ++ all
  let front := (all.toList.take (all.length - places))
  let back := (all.toList.drop (all.length - places))
  (if negative then "-" else "") ++ String.ofList front ++
    (if places = 0 then "" else "." ++ String.ofList back)

/- What has been printed, and how it went. -/
structure Progress where
  text : List String
  problems : List String
  args : List String
  stop : Bool
  fatal? : Option String

/- The next argument. -/
def Progress.take (p : Progress) : Option String × Progress :=
  match p.args with
  | [] => (none, p)
  | arg :: args => (some arg, { p with args := args })

/- With more text. -/
def Progress.push (p : Progress) (text : String) : Progress :=
  { p with text := text :: p.text }

/- The number of the next argument. -/
def Progress.takeNumber (p : Progress) : Int × Progress :=
  let (arg?, p) := p.take
  match arg? with
  | none => (0, p)
  | some arg =>
    let (n, problem?) := argument arg
    (n, { p with problems := problem?.toList ++ p.problems })

/- The flags in front of a directive. -/
def flags : List Char → Directive → Directive × List Char
  | [], d => (d, [])
  | c :: cs, d =>
    match c with
    | '-' => flags cs { d with left := true }
    | '0' => flags cs { d with zeros := true }
    | '+' => flags cs { d with plus := true }
    | ' ' => flags cs { d with space := true }
    | '#' => flags cs { d with alternate := true }
    | _ => (d, c :: cs)

/- A width or a precision, which an argument may give. -/
def size
    (p : Progress)
    (cs : List Char) : Int × Progress × List Char :=
  match cs with
  | '*' :: more =>
    let (n, p) := p.takeNumber
    (n, p, more)
  | _ =>
    let ds := cs.takeWhile Char.isDigit
    (ds.foldl (fun n c => n * 10 + (c.toNat - 48)) 0, p,
      cs.drop ds.length)

/- Carry out one directive. -/
def convert
    (d : Directive)
    (kind : Char)
    (spec : String)
    (p : Progress) : Progress :=
  let shorten (text : String) : String :=
    match d.precision? with
    | some n => String.ofList (text.toList.take n)
    | none => text
  match kind with
  | 's' =>
    let (arg?, p) := p.take
    p.push (pad d (shorten (arg?.getD "")))
  | 'c' =>
    let (arg?, p) := p.take
    p.push (pad d (String.ofList ((arg?.getD "").toList.take 1)))
  | 'b' =>
    let (arg?, p) := p.take
    let (text, stop) := escapes (arg?.getD "")
    { p.push (pad d (shorten text)) with stop := stop }
  | 'f' =>
    let (arg?, p) := p.take
    let text := fixed (d.precision?.getD 6) (arg?.getD "")
    let digits := text.dropWhile (· = '-')
    let sign := if text.startsWith "-" then "-" else ""
    p.push (padNumber { d with precision? := none } sign digits.toString)
  | _ =>
    if kind = 'd' || kind = 'i' then
      let (n, p) := p.takeNumber
      p.push (signed d n)
    else if kind = 'u' || kind = 'o' || kind = 'x' || kind = 'X' then
      let (n, p) := p.takeNumber
      let base := if kind = 'u' then 10 else if kind = 'o' then 8 else 16
      p.push (unsigned d base (kind = 'X') n)
    else
      { p with fatal? := some (spec ++ ": invalid directive") }

/- Go through a format once. -/
def pass : Nat → List Char → Progress → Progress
  | 0, _, p => p
  | _ + 1, [], p => p
  | fuel + 1, c :: cs, p =>
    if p.stop || p.fatal?.isSome then
      p
    else if c = '\\' then
      match cs with
      | 'c' :: _ => { p with stop := true }
      | _ =>
        let (d, rest) := escape cs
        pass fuel rest (p.push d.toString)
    else if c ≠ '%' then
      pass fuel cs (p.push c.toString)
    else
      match cs with
      | '%' :: rest => pass fuel rest (p.push "%")
      | _ =>
        let (d, rest) := flags cs {}
        let (width, p, rest) := size p rest
        let d :=
          { d with
            left := d.left || width < 0
            width := width.natAbs }
        let (d, p, rest) :=
          match rest with
          | '.' :: more =>
            let (n, p, rest) := size p more
            let precision? := if n < 0 then none else some n.toNat
            ({ d with precision? := precision? }, p, rest)
          | _ => (d, p, rest)
        match rest with
        | [] => { p with fatal? := some "missing format character" }
        | kind :: rest =>
          let spec :=
            String.ofList ('%' :: cs.take (cs.length - rest.length))
          pass fuel rest (convert d kind spec p)

/- Go through a format until the arguments are used up. -/
def passes
    (format : List Char) :
    Nat → Progress → Progress
  | 0, p => p
  | fuel + 1, p =>
    let q := pass (format.length + 1) format p
    if q.stop || q.fatal?.isSome || q.args.isEmpty ||
        q.args.length = p.args.length then
      q
    else
      passes format fuel q

/- The text of a format with its arguments, and the problems. -/
structure Printed where
  text : String
  problems : List String
  fatal? : Option String

/- Print arguments by a format. -/
def print
    (format : String)
    (args : List String) : Printed :=
  let p := passes format.toList (args.length + 1)
    ⟨[], [], args, false, none⟩
  { text := String.join p.text.reverse
    problems := p.problems.reverse
    fatal? := p.fatal? }

end Format

end PluginStudio
