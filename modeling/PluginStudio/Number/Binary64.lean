/-
  Non-negative numbers of 53 significant bits, the precision
  in which sizes and JSON numbers are held.

  Key definitions include:
    * `PluginStudio.Rounding.halfEven`
    * `PluginStudio.Binary64`
    * `PluginStudio.Binary64.ofRatio?`
    * `PluginStudio.Binary64.add?`
    * `PluginStudio.Binary64.mul?`
    * `PluginStudio.Binary64.div?`

  Every operation is exact arithmetic on quotients of natural
  numbers, followed by one rounding to the nearest number of
  the format, ties going to the even one.
-/

------------------------------------------------------------
-- Rounding A Quotient
------------------------------------------------------------

namespace PluginStudio

namespace Rounding

/- The natural number nearest to `n / d`, a half to the even one. -/
def halfEven (n d : Nat) : Nat :=
  let q := n / d
  let r := n % d
  if 2 * r < d then q
  else if d < 2 * r then q + 1
  else if q % 2 = 0 then q
  else q + 1

end Rounding

end PluginStudio

------------------------------------------------------------
-- Numbers Of 53 Bits
------------------------------------------------------------

namespace PluginStudio

/-
  The number `mantissa * 2 ^ exponent`.  The mantissa has 53
  bits, or fewer at the least exponent.
-/
structure Binary64 where
  mantissa : Nat
  exponent : Int
deriving DecidableEq, Repr

namespace Binary64

/- Exponent of the smallest numbers. -/
def leastExponent : Int := -1074

/- Exponent of the largest numbers. -/
def greatestExponent : Int := 971

/- Zero. -/
def zero : Binary64 := ⟨0, leastExponent⟩

/- Is the number zero? -/
def isZero (x : Binary64) : Bool :=
  x.mantissa = 0

/- Numerator of the number as a quotient. -/
def num (x : Binary64) : Nat :=
  x.mantissa * Nat.pow 2 x.exponent.toNat

/- Denominator of the number as a quotient. -/
def den (x : Binary64) : Nat :=
  Nat.pow 2 (-x.exponent).toNat

/- The quotient `n / d` in units of `2 ^ e`, rounded. -/
def unitsAt
    (n d : Nat)
    (e : Int) : Nat :=
  Rounding.halfEven (n * Nat.pow 2 (-e).toNat) (d * Nat.pow 2 e.toNat)

/-
  The exponent at which `n / d` has 53 bits before the point,
  or the least exponent.
-/
def exponentOf (n d : Nat) : Int :=
  let guess : Int := (Nat.log2 n : Int) - (Nat.log2 d : Int) - 52
  let e :=
    if n * Nat.pow 2 (-guess).toNat
        < d * Nat.pow 2 guess.toNat * Nat.pow 2 52 then
      guess - 1
    else
      guess
  max e leastExponent

/-
  The number nearest to `n / d`, or none beyond the largest
  number.
-/
def ofRatio?
    (n d : Nat) : Option Binary64 :=
  if n = 0 then
    some zero
  else
    let e := exponentOf n d
    let m := unitsAt n d e
    let x : Binary64 :=
      if m = Nat.pow 2 53 then ⟨Nat.pow 2 52, e + 1⟩ else ⟨m, e⟩
    if greatestExponent < x.exponent then none else some x

/- The number nearest to a natural number. -/
def ofNat? (n : Nat) : Option Binary64 :=
  ofRatio? n 1

/- The number nearest to the sum. -/
def add?
    (x y : Binary64) : Option Binary64 :=
  ofRatio? (x.num * y.den + y.num * x.den) (x.den * y.den)

/- The number nearest to the product. -/
def mul?
    (x y : Binary64) : Option Binary64 :=
  ofRatio? (x.num * y.num) (x.den * y.den)

/- The number nearest to the quotient. -/
def div?
    (x y : Binary64) : Option Binary64 :=
  ofRatio? (x.num * y.den) (x.den * y.num)

/- Is one number less than another? -/
def less (x y : Binary64) : Bool :=
  x.num * y.den < y.num * x.den

end Binary64

end PluginStudio
