import PluginStudio.Number.Binary64

/-
  The shortest decimal that reads back as a given number.

  Key definitions include:
    * `PluginStudio.Decimal`
    * `PluginStudio.Binary64.ReadsBack`
    * `PluginStudio.Binary64.shortest`
    * `PluginStudio.Binary64.text`

  A decimal reads back as a number if it lies between the
  midpoints to the number's two neighbours.  For one digit,
  two digits, and so on, the two decimals next to the number
  are tried, and the nearer of those that read back is taken.
-/

------------------------------------------------------------
-- Decimals
------------------------------------------------------------

namespace PluginStudio

/- The number `digits * 10 ^ exponent`. -/
structure Decimal where
  digits : Nat
  exponent : Int
deriving DecidableEq, Repr

namespace Decimal

/- Numerator of the decimal as a quotient. -/
def num (x : Decimal) : Nat :=
  x.digits * Nat.pow 10 x.exponent.toNat

/- Denominator of the decimal as a quotient. -/
def den (x : Decimal) : Nat :=
  Nat.pow 10 (-x.exponent).toNat

/- The decimal digits of a natural number. -/
def digitText (n : Nat) : List Char :=
  Nat.toDigits 10 n

end Decimal

end PluginStudio

------------------------------------------------------------
-- Decimals That Read Back
------------------------------------------------------------

namespace PluginStudio

namespace Binary64

/- The midpoint to the neighbour above, in quarters of a unit. -/
def upperQuarters (x : Binary64) : Nat :=
  4 * x.mantissa + 2

/- The midpoint to the neighbour below, in quarters of a unit. -/
def lowerQuarters (x : Binary64) : Nat :=
  if x.mantissa = Nat.pow 2 52 ∧ leastExponent < x.exponent then
    4 * x.mantissa - 1
  else
    4 * x.mantissa - 2

/-
  Does the decimal round to the number?  A midpoint itself
  rounds to the even mantissa.
-/
def ReadsBack
    (x : Binary64)
    (d : Decimal) : Prop :=
  let value := d.num * 4 * x.den
  let unit := d.den * Nat.pow 2 x.exponent.toNat
  let low := x.lowerQuarters * unit
  let high := x.upperQuarters * unit
  if x.mantissa % 2 = 0 then
    low ≤ value ∧ value ≤ high
  else
    low < value ∧ value < high

instance
    (x : Binary64)
    (d : Decimal) :
    Decidable (x.ReadsBack d) := by
  unfold ReadsBack
  infer_instance

/- The number counted in units of `10 ^ e`, rounded down. -/
def decimalFloor
    (x : Binary64)
    (e : Int) : Nat :=
  (x.num * Nat.pow 10 (-e).toNat) / (x.den * Nat.pow 10 e.toNat)

/- The least power of ten above the number, as an exponent. -/
def decimalExponent (x : Binary64) : Int :=
  if x.den ≤ x.num then
    ((Nat.toDigits 10 (x.num / x.den)).length : Int)
  else
    let scaled := (x.num * Nat.pow 10 400) / x.den
    ((Nat.toDigits 10 scaled).length : Int) - 400

/- Twice the distance of the number from a decimal, scaled. -/
def distance
    (x : Binary64)
    (d : Decimal) : Nat :=
  let a := x.num * d.den
  let b := d.num * x.den
  if a ≤ b then b - a else a - b

/-
  The better of the two decimals with a given exponent next to
  the number, among those that read back.
-/
def nearest?
    (x : Binary64)
    (e : Int) : Option Decimal :=
  let below : Decimal := ⟨x.decimalFloor e, e⟩
  let above : Decimal := ⟨x.decimalFloor e + 1, e⟩
  match decide (x.ReadsBack below), decide (x.ReadsBack above) with
  | false, false => none
  | true, false => some below
  | false, true => some above
  | true, true =>
    let p := x.distance below
    let q := x.distance above
    if p < q then some below
    else if q < p then some above
    else if below.digits % 2 = 0 then some below
    else some above

/- The first decimal that reads back, with `count` digits or more. -/
def shortestFrom
    (x : Binary64) :
    Nat → Nat → Decimal
  | _, 0 => ⟨0, 0⟩
  | count, more + 1 =>
    match x.nearest? (x.decimalExponent - count) with
    | some d => d
    | none => shortestFrom x (count + 1) more

/- The shortest decimal that reads back. -/
def shortest (x : Binary64) : Decimal :=
  shortestFrom x 1 17

end Binary64

end PluginStudio

------------------------------------------------------------
-- Written Form
------------------------------------------------------------

namespace PluginStudio

namespace Binary64

/-
  Digits with a point after the first `point` of them.  A
  whole number keeps one zero after its point.
-/
def positional
    (digits : List Char)
    (point : Int) : List Char :=
  if point ≤ 0 then
    '0' :: '.' :: List.replicate (-point).toNat '0' ++ digits
  else if digits.length ≤ point.toNat then
    digits ++ List.replicate (point.toNat - digits.length) '0' ++
      ['.', '0']
  else
    digits.take point.toNat ++ '.' :: digits.drop point.toNat

/- One digit, a point and the others, and a power of ten. -/
def scientific
    (digits : List Char)
    (power : Int) : List Char :=
  let fraction :=
    match digits with
    | [] => []
    | [d] => [d]
    | d :: ds => d :: '.' :: ds
  let sign := if power < 0 then '-' else '+'
  fraction ++ 'e' :: sign :: Decimal.digitText power.natAbs

/- Digits without the zeros at their end. -/
def significant (digits : List Char) : List Char :=
  (digits.reverse.dropWhile fun c => c = '0').reverse

/-
  The shortest decimal, with a plain point from 0.00001 up to
  16 digits before it and as a power of ten otherwise.
-/
def text (x : Binary64) : String :=
  if x.isZero then
    "0.0"
  else
    let d := x.shortest
    let digits := Decimal.digitText d.digits
    let point : Int := digits.length + d.exponent
    if -4 ≤ point ∧ point ≤ 16 then
      String.ofList (positional (significant digits) point)
    else
      String.ofList (scientific (significant digits) (point - 1))

end Binary64

end PluginStudio
