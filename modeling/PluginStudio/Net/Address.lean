import PluginStudio.Path

/-
  Addresses that a server listens on.

  Key definitions include:
    * `PluginStudio.Net.Ip`
    * `PluginStudio.Net.Ip.read?`
    * `PluginStudio.Net.Ip.text`
    * `PluginStudio.Net.Address`
    * `PluginStudio.Net.Address.text`
-/

------------------------------------------------------------
-- Host Addresses
------------------------------------------------------------

namespace PluginStudio

namespace Net

/- A host's address: four bytes, or eight groups of two. -/
inductive Ip where
  | v4 (a b c d : Nat)
  | v6 (groups : List Nat)
deriving DecidableEq, Repr

namespace Ip

/- The host itself. -/
def localhost : Ip :=
  .v4 127 0 0 1

/- A byte in decimal digits, without a zero in front. -/
def byte? (cs : List Char) : Option Nat :=
  let n := cs.foldl (fun n c => n * 10 + (c.toNat - 48)) 0
  if cs.isEmpty || 3 < cs.length || !cs.all Char.isDigit then none
  else if cs.head? = some '0' && cs.length ≠ 1 then none
  else if 255 < n then none
  else some n

/- Four bytes between dots. -/
def bytes? (cs : List Char) : Option (Nat × Nat × Nat × Nat) :=
  match (Path.splitOn '.' cs).map byte? with
  | [some a, some b, some c, some d] => some (a, b, c, d)
  | _ => none

/- The value of a digit, or sixteen. -/
def hexDigit (c : Char) : Nat :=
  if c.isDigit then c.toNat - 48
  else if 'a' ≤ c && c ≤ 'f' then c.toNat - 87
  else if 'A' ≤ c && c ≤ 'F' then c.toNat - 55
  else 16

/- A group of at most four hexadecimal digits. -/
def group? (cs : List Char) : Option Nat :=
  if cs.isEmpty || 4 < cs.length || !(cs.all fun c => hexDigit c < 16) then
    none
  else
    some (cs.foldl (fun n c => n * 16 + hexDigit c) 0)

/- Groups between colons.  The last may be written as bytes. -/
def groups? : List (List Char) → Option (List Nat)
  | [] => some []
  | [part] =>
    match group? part, bytes? part with
    | some n, _ => some [n]
    | none, some (a, b, c, d) => some [a * 256 + b, c * 256 + d]
    | none, none => none
  | part :: parts => do
    let n ← group? part
    let more ← groups? parts
    return n :: more

/- Groups of one side of a gap, of which there may be none. -/
def side? (cs : List Char) : Option (List Nat) :=
  if cs.isEmpty then some [] else groups? (Path.splitOn ':' cs)

/- The two sides of the first gap of a text. -/
def gap? : List Char → List Char → Option (List Char × List Char)
  | _, [] => none
  | acc, ':' :: ':' :: rest => some (acc.reverse, rest)
  | acc, c :: cs => gap? (c :: acc) cs

/- Eight groups, with zeros for a gap. -/
def readGroups? (cs : List Char) : Option (List Nat) :=
  match gap? [] cs with
  | none =>
    match groups? (Path.splitOn ':' cs) with
    | some groups => if groups.length = 8 then some groups else none
    | none => none
  | some (front, back) => do
    let first ← side? front
    let last ← side? back
    if '.' ∈ front || 7 < first.length + last.length then
      none
    else
      return first ++
        List.replicate (8 - first.length - last.length) 0 ++ last

/- The address that a text writes. -/
def read? (text : String) : Option Ip :=
  match bytes? text.toList with
  | some (a, b, c, d) => some (.v4 a b c d)
  | none => (readGroups? text.toList).map .v6

/- Number of zeros in front of a list. -/
def zeros (groups : List Nat) : Nat :=
  (groups.takeWhile fun n => n = 0).length

/- Start and size of the first longest run of zeros. -/
def longestRun : List Nat → Nat → Nat × Nat
  | [], i => (i, 0)
  | n :: groups, i =>
    let here := zeros (n :: groups)
    let later := longestRun groups (i + 1)
    if later.2 ≤ here then (i, here) else later

/- A group in hexadecimal digits. -/
def groupText (n : Nat) : String :=
  String.ofList (Nat.toDigits 16 n)

/- Groups with colons between them. -/
def groupsText (groups : List Nat) : String :=
  String.intercalate ":" (groups.map groupText)

/- Four bytes with dots between them. -/
def bytesText (a b c d : Nat) : String :=
  String.intercalate "." ([a, b, c, d].map toString)

/- The address as a text. -/
def text : Ip → String
  | v4 a b c d => bytesText a b c d
  | v6 [0, 0, 0, 0, 0, 65535, m, n] =>
    "::ffff:" ++ bytesText (m / 256) (m % 256) (n / 256) (n % 256)
  | v6 groups =>
    let (start, size) := longestRun groups 0
    if 1 < size then
      groupsText (groups.take start) ++ "::" ++
        groupsText (groups.drop (start + size))
    else
      groupsText groups

end Ip

end Net

end PluginStudio

------------------------------------------------------------
-- Ports
------------------------------------------------------------

namespace PluginStudio

namespace Net

/- A host's address and a port. -/
structure Address where
  ip : Ip
  port : Nat
deriving DecidableEq, Repr

namespace Address

/- The address as a text. -/
def text (address : Address) : String :=
  let host :=
    match address.ip with
    | .v4 _ _ _ _ => address.ip.text
    | .v6 _ => "[" ++ address.ip.text ++ "]"
  host ++ ":" ++ toString address.port

/- Where a browser finds the server. -/
def url (address : Address) : String :=
  "http://" ++ address.text

end Address

end Net

end PluginStudio
