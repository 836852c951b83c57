/-
  Patterns for parts of lines.

  Key definitions include:
    * `PluginStudio.Regex`
    * `PluginStudio.Regex.read?`
    * `PluginStudio.Regex.find?`

  Patterns are written in one of two ways.  They differ in which
  signs have a meaning by themselves and which only after a
  backslash.
-/

------------------------------------------------------------
-- Patterns
------------------------------------------------------------

namespace PluginStudio

/- Characters that are accepted, or not accepted. -/
structure CharSet where
  negated : Bool
  ranges : List (Char × Char)
deriving Repr

namespace CharSet

/- Is a character in the set? -/
def has
    (set : CharSet)
    (c : Char) : Bool :=
  (set.ranges.any fun range => range.1 ≤ c && c ≤ range.2) != set.negated

end CharSet

/- A pattern. -/
inductive Regex where
  | empty
  | set (chars : CharSet)
  | atStart
  | atEnd
  | group (index : Nat) (inner : Regex)
  | again (index : Nat)
  | chain (first second : Regex)
  | either (first second : Regex)
  | repeated (least : Nat) (most? : Option Nat) (inner : Regex)
deriving Repr

namespace Regex

/- Number of parts of a pattern. -/
def size : Regex → Nat
  | group _ inner => inner.size + 1
  | chain first second => first.size + second.size + 1
  | either first second => first.size + second.size + 1
  | repeated least _ inner => inner.size + least + 1
  | _ => 1

end Regex

end PluginStudio

------------------------------------------------------------
-- Signs
------------------------------------------------------------

namespace PluginStudio

namespace Regex

/- What a pattern is written with. -/
inductive Sign where
  | set (chars : CharSet)
  | again (index : Nat)
  | atStart
  | atEnd
  | opening
  | closing
  | bar
  | times (least : Nat) (most? : Option Nat)
deriving Repr

/- A single character. -/
def single (c : Char) : Sign :=
  .set ⟨false, [(c, c)]⟩

/- Any character. -/
def any : Sign :=
  .set ⟨true, []⟩

/- Named classes of characters. -/
def namedRanges (name : String) : List (Char × Char) :=
  match name with
  | "alpha" => [('A', 'Z'), ('a', 'z')]
  | "upper" => [('A', 'Z')]
  | "lower" => [('a', 'z')]
  | "digit" => [('0', '9')]
  | "alnum" => [('0', '9'), ('A', 'Z'), ('a', 'z')]
  | "space" => [('\t', '\r'), (' ', ' ')]
  | "blank" => [('\t', '\t'), (' ', ' ')]
  | "punct" => [('!', '/'), (':', '@'), ('[', Char.ofNat 96), ('\x7b', '~')]
  | "xdigit" => [('0', '9'), ('A', 'F'), ('a', 'f')]
  | _ => []

/- The ranges of a set up to its closing bracket. -/
def readRanges :
    Nat → Bool → List (Char × Char) → List Char →
    Option (List (Char × Char) × List Char)
  | 0, _, _, _ => none
  | _ + 1, _, _, [] => none
  | fuel + 1, first, acc, c :: cs =>
    if c = ']' && !first then
      some (acc.reverse, cs)
    else
      match c, cs with
      | '[', ':' :: more =>
        let name := more.takeWhile Char.isAlpha
        readRanges fuel false
          (namedRanges (String.ofList name) ++ acc)
          (more.drop (name.length + 2))
      | _, '-' :: d :: more =>
        if d = ']' then
          readRanges fuel false (('-', '-') :: (c, c) :: acc) (d :: more)
        else
          readRanges fuel false ((c, d) :: acc) more
      | _, _ => readRanges fuel false ((c, c) :: acc) cs

/- A set after its opening bracket. -/
def readSet? (cs : List Char) : Option (Sign × List Char) :=
  match cs with
  | '^' :: more =>
    (readRanges (more.length + 1) true [] more).map fun (ranges, rest) =>
      (.set ⟨true, ranges⟩, rest)
  | _ =>
    (readRanges (cs.length + 1) true [] cs).map fun (ranges, rest) =>
      (.set ⟨false, ranges⟩, rest)

/- A number of digits. -/
def digitsValue (ds : List Char) : Nat :=
  ds.foldl (fun n c => n * 10 + (c.toNat - 48)) 0

/- Bounds after their opening brace, without the closing one. -/
def readBounds? (cs : List Char) : Option (Sign × List Char) :=
  let low := cs.takeWhile Char.isDigit
  match cs.drop low.length with
  | ',' :: more =>
    let high := more.takeWhile Char.isDigit
    some (.times (digitsValue low)
        (if high.isEmpty then none else some (digitsValue high)),
      more.drop high.length)
  | rest =>
    if low.isEmpty then none
    else some (.times (digitsValue low) (some (digitsValue low)), rest)

/- May a start or a repetition stand after this sign? -/
def opens : Option Sign → Bool
  | none => true
  | some .opening => true
  | some .bar => true
  | _ => false

/- Does a pattern or a part of it end here? -/
def endsPart
    (extended : Bool)
    (cs : List Char) : Bool :=
  match cs with
  | [] => true
  | ')' :: _ => extended
  | '|' :: _ => extended
  | '\\' :: ')' :: _ => !extended
  | '\\' :: '|' :: _ => !extended
  | _ => false

/- Signs that stand by themselves, or after a backslash. -/
def sign?
    (c : Char)
    (cs : List Char) : Option (Sign × List Char) :=
  match c with
  | '(' => some (.opening, cs)
  | ')' => some (.closing, cs)
  | '|' => some (.bar, cs)
  | '+' => some (.times 1 none, cs)
  | '?' => some (.times 0 (some 1), cs)
  | _ => none

/- The bounds in braces. -/
def braces?
    (extended : Bool)
    (cs : List Char) : Option (Sign × List Char) :=
  match readBounds? cs with
  | some (sign, '\x7d' :: rest) => if extended then some (sign, rest) else none
  | some (sign, '\\' :: '\x7d' :: rest) =>
    if extended then none else some (sign, rest)
  | _ => none

/- The next sign. -/
def nextSign?
    (extended : Bool)
    (before : Option Sign)
    (c : Char)
    (cs : List Char) : Option (Sign × List Char) :=
  match c with
  | '[' => readSet? cs
  | '.' => some (any, cs)
  | '*' =>
    if opens before then some (single '*', cs) else some (.times 0 none, cs)
  | '^' =>
    if extended || opens before then some (.atStart, cs)
    else some (single '^', cs)
  | '$' =>
    if extended || endsPart extended cs then some (.atEnd, cs)
    else some (single '$', cs)
  | '\x7b' =>
    if extended then braces? true cs else some (single c, cs)
  | '\\' =>
    match cs with
    | [] => none
    | d :: more =>
      if d.isDigit then some (.again (d.toNat - 48), more)
      else if extended then some (single d, more)
      else if d = '\x7b' then braces? false more
      else some ((sign? d more).getD (single d, more))
  | _ =>
    if extended then some ((sign? c cs).getD (single c, cs))
    else some (single c, cs)

/- All signs of a pattern. -/
def signs? (extended : Bool) :
    Nat → Option Sign → List Char → Option (List Sign)
  | _, _, [] => some []
  | 0, _, _ => none
  | fuel + 1, before, c :: cs => do
    let (sign, rest) ← nextSign? extended before c cs
    let more ← signs? extended fuel (some sign) rest
    return sign :: more

end Regex

end PluginStudio

------------------------------------------------------------
-- Reading
------------------------------------------------------------

namespace PluginStudio

namespace Regex

/- Repeat a part as the signs behind it say. -/
def repeatedBy : Regex → List Sign → Regex × List Sign
  | part, .times least most? :: rest =>
    repeatedBy (.repeated least most? part) rest
  | part, rest => (part, rest)

mutual

/- Parts one after another, up to a bar or a closing bracket. -/
def readChain :
    Nat → Nat → Regex → List Sign → Option (Regex × Nat × List Sign)
  | 0, _, _, _ => none
  | fuel + 1, groups, before, signs =>
    match signs with
    | [] => some (before, groups, [])
    | .closing :: _ => some (before, groups, signs)
    | .bar :: _ => some (before, groups, signs)
    | .opening :: rest => do
      let (inner, count, rest) ← readEither fuel (groups + 1) rest
      match rest with
      | .closing :: rest =>
        let (part, rest) := repeatedBy (.group (groups + 1) inner) rest
        readChain fuel count (.chain before part) rest
      | _ => none
    | .times _ _ :: rest => readChain fuel groups before rest
    | .set chars :: rest =>
      let (part, rest) := repeatedBy (.set chars) rest
      readChain fuel groups (.chain before part) rest
    | .again n :: rest =>
      let (part, rest) := repeatedBy (.again n) rest
      readChain fuel groups (.chain before part) rest
    | .atStart :: rest => readChain fuel groups (.chain before .atStart) rest
    | .atEnd :: rest => readChain fuel groups (.chain before .atEnd) rest

/- Parts between bars. -/
def readEither :
    Nat → Nat → List Sign → Option (Regex × Nat × List Sign)
  | 0, _, _ => none
  | fuel + 1, groups, signs => do
    let (first, groups, rest) ← readChain fuel groups .empty signs
    match rest with
    | .bar :: rest =>
      let (second, groups, rest) ← readEither fuel groups rest
      return (.either first second, groups, rest)
    | _ => return (first, groups, rest)

end

/- The pattern that a text writes. -/
def read?
    (extended : Bool)
    (text : String) : Option Regex := do
  let signs ← signs? extended text.length none text.toList
  match ← readEither (3 * signs.length + 3) 0 signs with
  | (pattern, _, []) => return pattern
  | _ => none

end Regex

end PluginStudio

------------------------------------------------------------
-- Matching
------------------------------------------------------------

namespace PluginStudio

namespace Regex

/- A place in a line, and what the groups hold so far. -/
structure Spot where
  atStart : Bool
  rest : List Char
  groups : List (Nat × List Char)

/- What was passed between two places. -/
def passed (start finish : Spot) : List Char :=
  start.rest.take (start.rest.length - finish.rest.length)

/- Go on behind a text. -/
def skip?
    (text : List Char)
    (spot : Spot) : Option Spot :=
  if text.isPrefixOf spot.rest then
    some { spot with
      atStart := spot.atStart && text.isEmpty
      rest := spot.rest.drop text.length }
  else
    none

/-
  Match a pattern at a place, and then what follows.  A part is
  repeated as often as possible.
-/
def matchThen (fold : Char → Char) :
    Nat → Regex → Spot → (Spot → Option Spot) → Option Spot
  | 0, _, _, _ => none
  | fuel + 1, pattern, spot, next =>
    match pattern with
    | .empty => next spot
    | .set chars =>
      match spot.rest with
      | [] => none
      | c :: cs =>
        if chars.has c || chars.has (fold c) then
          next { spot with atStart := false, rest := cs }
        else
          none
    | .atStart => if spot.atStart then next spot else none
    | .atEnd => if spot.rest.isEmpty then next spot else none
    | .again n => (skip? ((spot.groups.lookup n).getD []) spot).bind next
    | .group n inner =>
      matchThen fold fuel inner spot fun after =>
        next { after with groups := (n, passed spot after) :: after.groups }
    | .chain first second =>
      matchThen fold fuel first spot fun after =>
        matchThen fold fuel second after next
    | .either first second =>
      (matchThen fold fuel first spot next).or
        (matchThen fold fuel second spot next)
    | .repeated least most? inner =>
      let more : Option Spot :=
        if most? = some 0 then none
        else
          matchThen fold fuel inner spot fun after =>
            if after.rest.length = spot.rest.length && least = 0 then none
            else
              matchThen fold fuel
                (.repeated (least - 1) (most?.map fun n => n - 1) inner)
                after next
      if least = 0 then more.or (next spot) else more

/- What was found: the text before, the match, and the groups. -/
structure Match where
  before : List Char
  text : List Char
  after : List Char
  groups : List (Nat × List Char)

/- The first match in a text. -/
def findFrom (fold : Char → Char) (pattern : Regex) :
    Bool → List Char → List Char → Option Match
  | fresh, before, cs =>
    let spot : Spot := ⟨fresh, cs, []⟩
    match matchThen fold (pattern.size + cs.length + 2) pattern spot some with
    | some after =>
      some ⟨before.reverse, passed spot after, after.rest, after.groups⟩
    | none =>
      match cs with
      | [] => none
      | c :: rest => findFrom fold pattern false (c :: before) rest
termination_by _ _ cs => cs.length

/- The first match in a line. -/
def find?
    (fold : Char → Char)
    (pattern : Regex)
    (line : List Char) : Option Match :=
  findFrom fold pattern true [] line

end Regex

end PluginStudio
