import PluginStudio.Json.Fault

/-
  Scanning numbers.

  Key definitions include:
    * `PluginStudio.Json.Numeral.scaled?`
    * `PluginStudio.Json.Numeral.scan`
    * `PluginStudio.Json.Numeral.skip`

  Both scanners start after a minus sign.  No number is ever
  wanted in a build request, so `scan` gives the number only
  for the message that refuses it, and `skip` checks no more
  than its form.
-/

------------------------------------------------------------
-- Values
------------------------------------------------------------

namespace PluginStudio

namespace Json

namespace Numeral

/- Is the byte a decimal digit? -/
def isDigit (b : UInt8) : Bool :=
  '0'.toUInt8 ≤ b && b ≤ '9'.toUInt8

/- The value of a decimal digit. -/
def digitValue (b : UInt8) : Nat :=
  b.toNat - '0'.toNat

/- Does the byte announce a power of ten? -/
def isPowerMark (b : UInt8) : Bool :=
  b = 'e'.toUInt8 || b = 'E'.toUInt8

/- The largest digits kept of a number. -/
def largest : Nat := 18446744073709551615

/- The largest power of ten that is counted. -/
def largestPower : Nat := 2147483647

/- A power of ten in the precision of the result. -/
def tenToThe? (n : Nat) : Option Binary64 :=
  Binary64.ofNat? (Nat.pow 10 n)

/-
  A number divided by `10 ^ 308`, as many times as given.  It
  does not stay above zero for long.
-/
def lowered?
    (x : Binary64) :
    Nat → Option Binary64
  | 0 => some x
  | times + 1 =>
    if x.isZero then
      some x
    else
      match tenToThe? 308 with
      | none => none
      | some p =>
        match x.div? p with
        | none => none
        | some y => lowered? y times

/- A number divided by a power of ten, in parts if need be. -/
def divided?
    (x : Binary64)
    (power : Nat) : Option Binary64 := do
  let parts := (power - 1) / 308
  let y ← lowered? x parts
  let p ← tenToThe? (power - 308 * parts)
  y.div? p

/-
  A number times a power of ten, or none beyond the largest
  number.
-/
def scaled?
    (x : Binary64)
    (power : Int) : Option Binary64 :=
  if power < 0 then
    divided? x power.natAbs
  else if power ≤ 308 then
    (tenToThe? power.toNat).bind fun p => x.mul? p
  else if x.isZero then
    some x
  else
    none

/- Digits kept of a number, and the power of ten they stand at. -/
structure Digits where
  value : Nat
  power : Int

namespace Digits

/-
  One more digit before the point.  A digit that no longer
  fits counts into the power, and so do all after it.
-/
def addWhole
    (d : Digits)
    (b : UInt8) : Digits :=
  let value := d.value * 10 + digitValue b
  if d.power = 0 ∧ value ≤ largest then
    ⟨value, 0⟩
  else
    ⟨d.value, d.power + 1⟩

/-
  Digits after the point.  From the first that does not fit
  they are all dropped.
-/
def addFraction
    (d : Digits) :
    Bytes → Digits
  | [] => d
  | b :: rest =>
    let value := d.value * 10 + digitValue b
    if value ≤ largest then
      addFraction ⟨value, d.power - 1⟩ rest
    else
      d

/- The number, as a fault of its own where it is too large. -/
def toReal
    (d : Digits)
    (negative : Bool)
    (power : Int)
    (rest : Bytes) : Scan Found :=
  match (Binary64.ofNat? d.value).bind fun x => scaled? x power with
  | some x => .ok (.real negative x, rest)
  | none => .error (.here .numberOutOfRange rest)

end Digits

end Numeral

end Json

end PluginStudio

------------------------------------------------------------
-- Scanning
------------------------------------------------------------

namespace PluginStudio

namespace Json

namespace Numeral

/- Digits of a power, and the number they scale. -/
def powerDigits
    (negative : Bool)
    (d : Digits)
    (negativePower : Bool)
    (power : Nat) :
    Bytes → Scan Found
  | [] =>
    d.toReal negative
      (if negativePower then d.power - power else d.power + power) []
  | b :: rest =>
    if isDigit b then
      let power := power * 10 + digitValue b
      if power ≤ largestPower then
        powerDigits negative d negativePower power rest
      else if d.value ≠ 0 ∧ !negativePower then
        .error (.here .numberOutOfRange rest)
      else
        .ok (.real negative .zero, rest.dropWhile isDigit)
    else
      d.toReal negative
        (if negativePower then d.power - power else d.power + power)
        (b :: rest)

/- A power of ten after its mark and sign. -/
def unsignedPower
    (negative : Bool)
    (d : Digits)
    (negativePower : Bool) :
    Bytes → Scan Found
  | [] => .error (.here .endInValue [])
  | b :: rest =>
    if isDigit b then
      powerDigits negative d negativePower (digitValue b) rest
    else
      .error (.here .invalidNumber rest)

/- A power of ten after its mark. -/
def powerPart
    (negative : Bool)
    (d : Digits)
    (bytes : Bytes) : Scan Found :=
  match bytes with
  | b :: rest =>
    if b = '+'.toUInt8 then
      unsignedPower negative d false rest
    else if b = '-'.toUInt8 then
      unsignedPower negative d true rest
    else
      unsignedPower negative d false bytes
  | [] => unsignedPower negative d false []

/- A power of ten if its mark follows. -/
def powerOrEnd
    (negative : Bool)
    (d : Digits)
    (bytes : Bytes) : Scan Found :=
  match bytes with
  | b :: rest =>
    if isPowerMark b then
      powerPart negative d rest
    else
      d.toReal negative d.power bytes
  | [] => d.toReal negative d.power []

/- The digits after a point, of which there is one at least. -/
def fractionPart
    (negative : Bool)
    (d : Digits)
    (bytes : Bytes) : Scan Found :=
  match bytes with
  | [] => .error (.next .endInValue [])
  | b :: _ =>
    if isDigit b then
      powerOrEnd negative
        (d.addFraction (bytes.takeWhile isDigit))
        (bytes.dropWhile isDigit)
    else
      .error (.next .invalidNumber bytes)

/- A number without point and power. -/
def whole
    (negative : Bool)
    (d : Digits)
    (rest : Bytes) : Scan Found :=
  if d.power ≠ 0 then
    d.toReal negative d.power rest
  else if !negative then
    .ok (.integer d.value, rest)
  else if d.value = 0 ∨ 9223372036854775808 < d.value then
    d.toReal true 0 rest
  else
    .ok (.integer (-d.value), rest)

/- What follows the digits before the point. -/
def afterWhole
    (negative : Bool)
    (d : Digits)
    (bytes : Bytes) : Scan Found :=
  match bytes with
  | b :: rest =>
    if b = '.'.toUInt8 then
      fractionPart negative d rest
    else if isPowerMark b then
      powerPart negative d rest
    else
      whole negative d bytes
  | [] => whole negative d []

/- A number, of which the sign was read. -/
def scan
    (negative : Bool) :
    Bytes → Scan Found
  | [] => .error (.here .endInValue [])
  | b :: rest =>
    if b = '0'.toUInt8 then
      if rest.head?.any isDigit then
        .error (.next .invalidNumber rest)
      else
        afterWhole negative ⟨0, 0⟩ rest
    else if isDigit b then
      afterWhole negative
        ((rest.takeWhile isDigit).foldl Digits.addWhole
          ⟨digitValue b, 0⟩)
        (rest.dropWhile isDigit)
    else
      .error (.here .invalidNumber rest)

end Numeral

end Json

end PluginStudio

------------------------------------------------------------
-- Passing Over
------------------------------------------------------------

namespace PluginStudio

namespace Json

namespace Numeral

/- Pass over a power of ten after its mark and sign. -/
def skipUnsignedPower : Bytes → Scan Unit
  | [] => .error (.here .invalidNumber [])
  | b :: rest =>
    if isDigit b then
      .ok ((), rest.dropWhile isDigit)
    else
      .error (.here .invalidNumber rest)

/- Pass over a power of ten after its mark. -/
def skipPower (bytes : Bytes) : Scan Unit :=
  match bytes with
  | b :: rest =>
    if b = '+'.toUInt8 ∨ b = '-'.toUInt8 then
      skipUnsignedPower rest
    else
      skipUnsignedPower bytes
  | [] => skipUnsignedPower []

/- Pass over a power of ten if its mark follows. -/
def skipPowerOrEnd (bytes : Bytes) : Scan Unit :=
  match bytes with
  | b :: rest =>
    if isPowerMark b then skipPower rest else .ok ((), bytes)
  | [] => .ok ((), [])

/- Pass over the digits after a point. -/
def skipFraction (bytes : Bytes) : Scan Unit :=
  if bytes.head?.any isDigit then
    skipPowerOrEnd (bytes.dropWhile isDigit)
  else
    .error (.next .invalidNumber bytes)

/- Pass over what follows the digits before the point. -/
def skipAfterWhole (bytes : Bytes) : Scan Unit :=
  match bytes with
  | b :: rest =>
    if b = '.'.toUInt8 then
      skipFraction rest
    else
      skipPowerOrEnd bytes
  | [] => .ok ((), [])

/- Pass over a number, of which the sign was read. -/
def skip : Bytes → Scan Unit
  | [] => .error (.here .invalidNumber [])
  | b :: rest =>
    if b = '0'.toUInt8 then
      if rest.head?.any isDigit then
        .error (.next .invalidNumber rest)
      else
        skipAfterWhole rest
    else if isDigit b then
      skipAfterWhole (rest.dropWhile isDigit)
    else
      .error (.here .invalidNumber rest)

/- Dropping bytes leaves no more of them. -/
theorem dropWhile_length_le
    (p : UInt8 → Bool)
    (bytes : Bytes) :
    (bytes.dropWhile p).length ≤ bytes.length :=
  (List.dropWhile_sublist p).length_le

/- A power passed over is followed by no more bytes. -/
theorem skipUnsignedPower_length_le
    {bytes rest : Bytes}
    {u : Unit}
    (h : skipUnsignedPower bytes = .ok (u, rest)) :
    rest.length ≤ bytes.length := by
  unfold skipUnsignedPower at h
  grind [dropWhile_length_le]

/- A signed power passed over is followed by no more bytes. -/
theorem skipPower_length_le
    {bytes rest : Bytes}
    {u : Unit}
    (h : skipPower bytes = .ok (u, rest)) :
    rest.length ≤ bytes.length := by
  unfold skipPower at h
  grind [→ skipUnsignedPower_length_le]

/- A power that may be missing leaves no more bytes unread. -/
theorem skipPowerOrEnd_length_le
    {bytes rest : Bytes}
    {u : Unit}
    (h : skipPowerOrEnd bytes = .ok (u, rest)) :
    rest.length ≤ bytes.length := by
  unfold skipPowerOrEnd at h
  grind [→ skipPower_length_le]

/- A fraction passed over is followed by no more bytes. -/
theorem skipFraction_length_le
    {bytes rest : Bytes}
    {u : Unit}
    (h : skipFraction bytes = .ok (u, rest)) :
    rest.length ≤ bytes.length := by
  unfold skipFraction at h
  grind [→ skipPowerOrEnd_length_le, dropWhile_length_le]

/- What follows the whole part leaves no more bytes unread. -/
theorem skipAfterWhole_length_le
    {bytes rest : Bytes}
    {u : Unit}
    (h : skipAfterWhole bytes = .ok (u, rest)) :
    rest.length ≤ bytes.length := by
  unfold skipAfterWhole at h
  grind [→ skipFraction_length_le, → skipPowerOrEnd_length_le]

/- A number passed over is followed by fewer bytes. -/
theorem skip_length_lt
    {bytes rest : Bytes}
    {u : Unit}
    (h : skip bytes = .ok (u, rest)) :
    rest.length < bytes.length := by
  unfold skip at h
  grind [→ skipAfterWhole_length_le, dropWhile_length_le]

end Numeral

end Json

end PluginStudio
