import PluginStudio.Text.Utf8

/-
  Bytes written as a percent sign and two digits.

  Key definitions include:
    * `PluginStudio.Percent.encode`
    * `PluginStudio.Percent.decode`
-/

------------------------------------------------------------
-- Writing
------------------------------------------------------------

namespace PluginStudio

namespace Percent

/- The upper-case hexadecimal digit of a number below 16. -/
def digit (n : Nat) : Char :=
  if n < 10 then
    Char.ofNat ('0'.toNat + n)
  else
    Char.ofNat ('A'.toNat + (n - 10))

/- A byte that is not written as itself. -/
def escaped (b : UInt8) : List Char :=
  ['%', digit (b.toNat / 16), digit (b.toNat % 16)]

/- A byte, as itself where that is allowed. -/
def encodeByte
    (plain : Char → Bool)
    (b : UInt8) : List Char :=
  let c := Char.ofNat b.toNat
  if b < 0x80 && plain c then [c] else escaped b

/- The bytes of a text, as themselves where that is allowed. -/
def encode
    (plain : Char → Bool)
    (s : String) : List Char :=
  (Utf8.encode s).flatMap (encodeByte plain)

end Percent

end PluginStudio

------------------------------------------------------------
-- Reading
------------------------------------------------------------

namespace PluginStudio

namespace Percent

/- The value of a hexadecimal digit. -/
def digit? (b : UInt8) : Option Nat :=
  if '0'.toUInt8 ≤ b ∧ b ≤ '9'.toUInt8 then
    some (b.toNat - '0'.toNat)
  else if 'a'.toUInt8 ≤ b ∧ b ≤ 'f'.toUInt8 then
    some (b.toNat - 'a'.toNat + 10)
  else if 'A'.toUInt8 ≤ b ∧ b ≤ 'F'.toUInt8 then
    some (b.toNat - 'A'.toNat + 10)
  else
    none

/- The byte of two hexadecimal digits. -/
def byte? (a b : UInt8) : Option UInt8 := do
  let x ← digit? a
  let y ← digit? b
  some (UInt8.ofNat (x * 16 + y))

/-
  The bytes that a text stands for.  A percent sign without
  two digits is itself.
-/
def decode : Bytes → Bytes
  | [] => []
  | [a] => [a]
  | [a, b] => [a, b]
  | p :: a :: b :: rest =>
    if p = '%'.toUInt8 then
      match byte? a b with
      | some x => x :: decode rest
      | none => p :: decode (a :: b :: rest)
    else
      p :: decode (a :: b :: rest)

end Percent

end PluginStudio
