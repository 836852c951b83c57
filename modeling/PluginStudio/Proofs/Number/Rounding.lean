import Mathlib.Algebra.Order.Group.Nat
import Mathlib.Tactic.SplitIfs
import PluginStudio.Number.Binary64

/-
  Rounding keeps the order of numbers.

  Key definitions include:
    * `PluginStudio.Binary64.grain`
    * `PluginStudio.Binary64.nearest`

  Main declarations:
    * `Rounding.halfEven_near`
    * `Rounding.halfEven_mono`
    * `Binary64.nearest_mono`
    * `Binary64.ofNat?_eq_nearest`

  A rounded quotient is within half a unit of the quotient, and
  this alone makes rounding monotone.  The number of 53 bits next
  to a natural number is a quotient by a power of two, rounded; the
  power changes where the numbers get another bit, and there both
  sides are exact.
-/

------------------------------------------------------------
-- Rounded Quotients
------------------------------------------------------------

namespace PluginStudio

namespace Rounding

section Positive

variable {n m d : Nat} (hPos : 0 < d)

include hPos

/- Twice the error is at most the unit. -/
theorem halfEven_near :
    2 * (d * halfEven n d) ≤ 2 * n + d ∧
      2 * n ≤ 2 * (d * halfEven n d) + d := by
  have hParts := Nat.div_add_mod n d
  have hLess := Nat.mod_lt n hPos
  simp only [halfEven]
  split_ifs
  · omega
  · rw [Nat.mul_add, Nat.mul_one]
    omega
  · omega
  · rw [Nat.mul_add, Nat.mul_one]
    omega

/-
  A larger number is not rounded to a smaller one.  Both errors would
  have to be half a unit each, and then the numbers are the same.
-/
theorem halfEven_mono
    (hLe : n ≤ m) :
    halfEven n d ≤ halfEven m d := by
  by_contra hNot
  have hStep :
      d * (halfEven m d + 1) ≤ d * halfEven n d :=
    Nat.mul_le_mul_left d (Nat.not_le.mp hNot)
  rw [Nat.mul_add, Nat.mul_one] at hStep
  have hBelow := (halfEven_near (n := n) hPos).1
  have hAbove := (halfEven_near (n := m) hPos).2
  have hSame : n = m := by omega
  exact hNot (hSame ▸ Nat.le_refl _)

/- A multiple of the unit is kept. -/
theorem halfEven_mul
    (q : Nat) :
    halfEven (d * q) d = q := by
  simp only [halfEven, Nat.mul_div_cancel_left q hPos,
    Nat.mul_mod_right]
  rw [if_pos (by omega)]

theorem halfEven_le
    {q : Nat}
    (hLe : n ≤ d * q) :
    halfEven n d ≤ q := by
  rw [← halfEven_mul hPos q]
  exact halfEven_mono hPos hLe

theorem le_halfEven
    {q : Nat}
    (hLe : d * q ≤ n) :
    q ≤ halfEven n d := by
  rw [← halfEven_mul hPos q]
  exact halfEven_mono hPos hLe

end Positive

theorem halfEven_one (n : Nat) : halfEven n 1 = n := by
  have hKept := halfEven_mul Nat.one_pos n
  rwa [Nat.one_mul] at hKept

/- A common factor of the two parts of a quotient does not count. -/
theorem halfEven_mul_mul
    {k : Nat}
    (hPos : 0 < k)
    (n d : Nat) :
    halfEven (k * n) (k * d) = halfEven n d := by
  have hLess :
      ∀ a b, 2 * (k * a) < k * b ↔ 2 * a < b := by
    intro a b
    rw [Nat.mul_left_comm, Nat.mul_lt_mul_left hPos]
  have hMore :
      ∀ a b, k * b < 2 * (k * a) ↔ b < 2 * a := by
    intro a b
    rw [Nat.mul_left_comm, Nat.mul_lt_mul_left hPos]
  simp only [halfEven, Nat.mul_div_mul_left n d hPos,
    Nat.mul_mod_mul_left, hLess, hMore]

end Rounding

end PluginStudio

------------------------------------------------------------
-- Numbers Of 53 Bits
------------------------------------------------------------

namespace PluginStudio

namespace Binary64

/- The distance of the numbers of 53 bits at a natural number. -/
def grain (n : Nat) : Nat :=
  2 ^ (Nat.log2 n - 52)

/- The number of 53 bits next to a natural number. -/
def nearest (n : Nat) : Nat :=
  grain n * Rounding.halfEven n (grain n)

theorem grain_pos (n : Nat) : 0 < grain n :=
  Nat.two_pow_pos _

theorem nearest_le
    {n q : Nat}
    (hLe : n ≤ grain n * q) :
    nearest n ≤ grain n * q :=
  Nat.mul_le_mul_left _ (Rounding.halfEven_le (grain_pos n) hLe)

theorem le_nearest
    {n q : Nat}
    (hLe : grain n * q ≤ n) :
    grain n * q ≤ nearest n :=
  Nat.mul_le_mul_left _ (Rounding.le_halfEven (grain_pos n) hLe)

/- Numbers of at most 53 bits are kept. -/
theorem nearest_of_lt
    {n : Nat}
    (hLt : n < 2 ^ 53) :
    nearest n = n := by
  have hGrain : grain n = 1 := by
    by_cases hZero : n = 0
    · subst hZero
      rfl
    · have hBits : Nat.log2 n < 53 := (Nat.log2_lt hZero).mpr hLt
      rw [grain, Nat.sub_eq_zero_of_le (by omega), Nat.pow_zero]
  rw [nearest, hGrain, Rounding.halfEven_one, Nat.one_mul]

/- A power of two is a multiple of a smaller one. -/
theorem pow_eq_grain_mul
    (n : Nat)
    {k : Nat}
    (hLe : Nat.log2 n - 52 ≤ k) :
    2 ^ k = grain n * 2 ^ (k - (Nat.log2 n - 52)) := by
  rw [grain, ← Nat.pow_add, Nat.add_sub_cancel' hLe]

theorem nearest_le_pow (n : Nat) :
    nearest n ≤ 2 ^ (Nat.log2 n + 1) := by
  have hPow := pow_eq_grain_mul n (k := Nat.log2 n + 1) (by omega)
  rw [hPow]
  exact nearest_le (hPow ▸ Nat.le_of_lt Nat.lt_log2_self)

theorem pow_le_nearest
    {n : Nat}
    (hPos : n ≠ 0) :
    2 ^ Nat.log2 n ≤ nearest n := by
  have hPow := pow_eq_grain_mul n (k := Nat.log2 n) (by omega)
  rw [hPow]
  exact le_nearest (hPow ▸ Nat.log2_self_le hPos)

/-
  A larger number is not brought to a smaller one.  Numbers of as
  many bits have the same grain; between others lies a power of two.
-/
theorem nearest_mono
    {n m : Nat}
    (hLe : n ≤ m) :
    nearest n ≤ nearest m := by
  by_cases hZero : n = 0
  · subst hZero
    exact Nat.zero_le _
  have hPos : m ≠ 0 := by omega
  by_cases hBits : Nat.log2 n = Nat.log2 m
  · have hGrain : grain n = grain m := by rw [grain, grain, hBits]
    rw [nearest, nearest, hGrain]
    exact Nat.mul_le_mul_left _
      (Rounding.halfEven_mono (grain_pos m) hLe)
  · have hMore : Nat.log2 n < Nat.log2 m := by
      apply Nat.lt_of_le_of_ne _ hBits
      exact (Nat.le_log2 hPos).mpr
        (Nat.le_trans (Nat.log2_self_le hZero) hLe)
    calc
      nearest n ≤ 2 ^ (Nat.log2 n + 1) := nearest_le_pow n
      _ ≤ 2 ^ Nat.log2 m := Nat.pow_le_pow_right (by decide) hMore
      _ ≤ nearest m := pow_le_nearest hPos

/- The leading bit tells the exponent. -/
theorem exponentOf_one
    {n : Nat}
    (hPos : n ≠ 0) :
    exponentOf n 1 = (Nat.log2 n : Int) - 52 := by
  have hLow := Nat.log2_self_le hPos
  have hOne : Nat.log2 1 = 0 := by decide
  have hGuess :
      ¬ n * Nat.pow 2 (-((Nat.log2 n : Int) - 52)).toNat <
        1 * Nat.pow 2 ((Nat.log2 n : Int) - 52).toNat * Nat.pow 2 52 := by
    rw [Nat.not_lt, Nat.one_mul, Nat.pow_eq, Nat.pow_eq, Nat.pow_eq,
      ← Nat.pow_add]
    calc
      2 ^ (((Nat.log2 n : Int) - 52).toNat + 52)
          = 2 ^ (Nat.log2 n + (-((Nat.log2 n : Int) - 52)).toNat) := by
        congr 1
        omega
      _ = 2 ^ Nat.log2 n * 2 ^ (-((Nat.log2 n : Int) - 52)).toNat :=
        Nat.pow_add _ _ _
      _ ≤ _ := Nat.mul_le_mul_right _ hLow
  simp only [exponentOf, hOne, Int.natCast_zero, Int.sub_zero,
    if_neg hGuess]
  rw [leastExponent]
  omega

section Units

variable {n : Nat}

/- Numbers of fewer than 53 bits are moved to the left. -/
theorem unitsAt_of_lt
    (hFew : Nat.log2 n < 52) :
    unitsAt n 1 ((Nat.log2 n : Int) - 52) = 2 ^ (52 - Nat.log2 n) * n := by
  have hLeft : (-((Nat.log2 n : Int) - 52)).toNat = 52 - Nat.log2 n := by
    omega
  have hRight : ((Nat.log2 n : Int) - 52).toNat = 0 := by omega
  rw [unitsAt, hLeft, hRight, Nat.pow_eq, Nat.pow_eq, Nat.pow_zero,
    Nat.one_mul, Nat.mul_comm n, Rounding.halfEven_one]

/- Numbers of 53 bits or more are counted by their grain. -/
theorem unitsAt_of_le
    (hMany : 52 ≤ Nat.log2 n) :
    unitsAt n 1 ((Nat.log2 n : Int) - 52) =
      Rounding.halfEven n (grain n) := by
  have hLeft : (-((Nat.log2 n : Int) - 52)).toNat = 0 := by omega
  have hRight :
      ((Nat.log2 n : Int) - 52).toNat = Nat.log2 n - 52 := by
    omega
  rw [unitsAt, hLeft, hRight, Nat.pow_eq, Nat.pow_eq, Nat.pow_zero,
    Nat.mul_one, Nat.one_mul, grain]

/- Moved to the left they still have 53 bits at most. -/
theorem ofNat?_of_lt
    (hPos : n ≠ 0)
    (hFew : Nat.log2 n < 52) :
    ofNat? n =
      some ⟨2 ^ (52 - Nat.log2 n) * n, (Nat.log2 n : Int) - 52⟩ := by
  have hNot : 2 ^ (52 - Nat.log2 n) * n ≠ Nat.pow 2 53 := by
    apply Nat.ne_of_lt
    calc
      2 ^ (52 - Nat.log2 n) * n
          < 2 ^ (52 - Nat.log2 n) * 2 ^ (Nat.log2 n + 1) :=
        Nat.mul_lt_mul_of_pos_left Nat.lt_log2_self (Nat.two_pow_pos _)
      _ = 2 ^ 53 := by
        rw [← Nat.pow_add]
        congr 1
        omega
  have hFinite : ¬ greatestExponent < (Nat.log2 n : Int) - 52 := by
    rw [greatestExponent]
    omega
  simp only [ofNat?, ofRatio?, if_neg hPos, exponentOf_one hPos,
    unitsAt_of_lt hFew, if_neg hNot, if_neg hFinite]

/- The others may be rounded up to one bit more. -/
theorem ofNat?_of_le
    (hPos : n ≠ 0)
    (hMany : 52 ≤ Nat.log2 n)
    (hBits : Nat.log2 n < 1023) :
    ofNat? n =
      some
        (if Rounding.halfEven n (grain n) = Nat.pow 2 53 then
          ⟨Nat.pow 2 52, (Nat.log2 n : Int) - 52 + 1⟩
        else
          ⟨Rounding.halfEven n (grain n), (Nat.log2 n : Int) - 52⟩) := by
  simp only [ofNat?, ofRatio?, if_neg hPos, exponentOf_one hPos,
    unitsAt_of_le hMany]
  rw [if_neg]
  rw [greatestExponent]
  split_ifs
  · dsimp only
    omega
  · dsimp only
    omega

end Units

theorem den_pos (x : Binary64) : 0 < x.den :=
  Nat.two_pow_pos _

/- Numbers without bits after the point. -/
theorem num_natCast
    (mantissa k : Nat) :
    (⟨mantissa, k⟩ : Binary64).num = 2 ^ k * mantissa := by
  rw [num, Int.toNat_natCast, Nat.pow_eq, Nat.mul_comm]

theorem den_natCast
    (mantissa k : Nat) :
    (⟨mantissa, k⟩ : Binary64).den = 1 := by
  have hNone : (-(k : Int)).toNat = 0 := by omega
  rw [den, hNone, Nat.pow_eq, Nat.pow_zero]

/- A natural number is brought to the one of 53 bits next to it. -/
theorem ofNat?_eq_nearest
    {n : Nat}
    (hBits : Nat.log2 n < 1023) :
    ∃ x, ofNat? n = some x ∧ x.num = x.den * nearest n := by
  by_cases hZero : n = 0
  · subst hZero
    refine ⟨zero, rfl, ?_⟩
    rw [nearest_of_lt (by decide), num, zero, Nat.zero_mul, Nat.mul_zero]
  by_cases hFew : Nat.log2 n < 52
  · refine ⟨_, ofNat?_of_lt hZero hFew, ?_⟩
    have hLow : n < 2 ^ 53 :=
      (Nat.log2_lt hZero).mp (Nat.lt_of_lt_of_le hFew (by decide))
    have hLeft : (-((Nat.log2 n : Int) - 52)).toNat = 52 - Nat.log2 n := by
      omega
    have hRight : ((Nat.log2 n : Int) - 52).toNat = 0 := by omega
    rw [num, den, hLeft, hRight, nearest_of_lt hLow]
    exact Nat.mul_one _
  · refine ⟨_, ofNat?_of_le hZero (Nat.not_lt.mp hFew) hBits, ?_⟩
    have hSame : (Nat.log2 n : Int) - 52 = (Nat.log2 n - 52 : Nat) := by
      omega
    rw [hSame, nearest]
    split_ifs with hCarry
    · rw [← Int.natCast_succ, num_natCast, den_natCast, hCarry, grain,
        Nat.pow_succ]
      simp only [Nat.pow_eq]
      omega
    · rw [num_natCast, den_natCast, grain, Nat.one_mul]

end Binary64

end PluginStudio
