import PluginStudio.Path

/-
  Ranges of bytes that clients ask for.

  Key definitions include:
    * `PluginStudio.Http.Range.Part`
    * `PluginStudio.Http.Range.read?`
    * `PluginStudio.Http.Range.place?`
    * `PluginStudio.Http.Range.resolve?`
-/

------------------------------------------------------------
-- Reading
------------------------------------------------------------

namespace PluginStudio

namespace Http

namespace Range

/- A part of a body: between two bytes, from one, or the last. -/
inductive Part where
  | between (first last : Nat)
  | onward (first : Nat)
  | ending (size : Nat)
deriving DecidableEq, Repr

/- Is the character white space? -/
def isSpace (c : Char) : Bool :=
  c = ' ' || ('\t' ≤ c && c ≤ '\r')

/- A number of 64 bits, written without a leading zero. -/
def number? (cs : List Char) : Option Nat :=
  if cs.isEmpty || !cs.all Char.isDigit then
    none
  else if cs.head? = some '0' && cs.length ≠ 1 then
    none
  else
    let n := cs.foldl (fun n c => n * 10 + (c.toNat - 48)) 0
    if n < 18446744073709551616 then some n else none

/- One part, in which a single dash stands. -/
def part? (cs : List Char) : Option Part :=
  match Path.splitOn '-' cs with
  | [first, last] =>
    if first.isEmpty then
      match number? last with
      | some 0 => none
      | some size => some (.ending size)
      | none => none
    else
      match number? first with
      | none => none
      | some n =>
        if last.isEmpty then
          some (.onward n)
        else
          (number? last).map fun m => .between n m
  | _ => none

/- A text without the one blank that may stand in front. -/
def trimmed? (cs : List Char) : Option (List Char) :=
  if (cs.getLast?).any isSpace || 1 < (cs.filter isSpace).length then
    none
  else
    some (cs.dropWhile isSpace)

/- All parts of a list, if each can be read. -/
def parts? : List (List Char) → Option (List Part)
  | [] => some []
  | cs :: more => do
    let trimmed ← trimmed? cs
    let part ← part? trimmed
    let parts ← parts? more
    return part :: parts

/- The parts that a header asks for. -/
def read? (value : String) : Option (List Part) :=
  let unit := "bytes=".toList
  if unit.isPrefixOf value.toList then
    let rest := value.toList.drop unit.length
    if (rest.head?).any isSpace then none
    else parts? (Path.splitOn ',' rest)
  else
    none

end Range

end Http

end PluginStudio

------------------------------------------------------------
-- Resolving
------------------------------------------------------------

namespace PluginStudio

namespace Http

namespace Range

/- The first and the last byte of a part of a body. -/
def place?
    (size : Nat) :
    Part → Option (Nat × Nat)
  | .between first last => some (first, min last (size - 1))
  | .onward first => some (first, size - 1)
  | .ending count => if size < count then none else some (size - count, size - 1)

/- All places of a list, if each exists. -/
def places?
    (size : Nat) :
    List Part → Option (List (Nat × Nat))
  | [] => some []
  | part :: parts => do
    let place ← place? size part
    let places ← places? size parts
    return place :: places

/- Do two places share a byte? -/
def overlaps (a b : Nat × Nat) : Bool :=
  a.1 ≤ b.2 && b.1 ≤ a.2

/- Does no place share a byte with another? -/
def disjoint : List (Nat × Nat) → Bool
  | [] => true
  | place :: places =>
    places.all (fun other => !overlaps place other) && disjoint places

/- The places that a header asks for in a body of a size. -/
def resolve?
    (size : Nat)
    (value : String) : Option (List (Nat × Nat)) := do
  let parts ← read? value
  let places ← places? size parts
  if places.all (fun place => place.1 ≤ place.2) && disjoint places then
    return places
  else
    none

end Range

end Http

end PluginStudio
