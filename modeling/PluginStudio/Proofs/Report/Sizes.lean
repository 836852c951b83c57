import Mathlib.Algebra.Order.Ring.Rat
import Mathlib.Tactic.Linarith
import Mathlib.Tactic.Ring
import PluginStudio.Proofs.Files.Paths
import PluginStudio.Proofs.Number.Rounding
import PluginStudio.Report.Amount

/-
  Sizes that are shown are in order, and near the truth.

  Key definitions include:
    * `PluginStudio.Amount.Figure`
    * `PluginStudio.Amount.read?`
    * `PluginStudio.Amount.figure`

  Main declarations:
    * `Amount.read?_size`
    * `Amount.shown_mono`
    * `Amount.figure_near`
    * `Amount.size_ordered_accurate`

  A size is read back as a number of a unit.  Where the unit
  changes, the larger unit is itself a figure of both units, so
  that no figure passes it from either side.
-/

------------------------------------------------------------
-- Reading Sizes
------------------------------------------------------------

namespace PluginStudio

namespace Amount

/- A number with its unit. -/
structure Figure where
  number : ℚ
  unit : Nat

/- How many bytes a figure stands for. -/
def Figure.value (figure : Figure) : ℚ :=
  figure.number * figure.unit

/- The value of one or more digits. -/
def whole? (cs : List Char) : Option Nat :=
  if cs ≠ [] ∧ cs.all Char.isDigit then
    some (Nat.ofDigitChars 10 cs 0)
  else
    none

/- The value of digits with or without a point among them. -/
def decimal? (cs : List Char) : Option ℚ :=
  match Path.splitOn '.' cs with
  | [whole] => (whole? whole).map fun n : Nat => (n : ℚ)
  | [whole, fraction] => do
    let n ← whole? whole
    let m ← whole? fraction
    some (n + m / 10 ^ fraction.length)
  | _ => none

/- The number of bytes in a unit. -/
def unit? (cs : List Char) : Option Nat :=
  if cs = "B".toList then some 1
  else if cs = "KB".toList then some 1024
  else if cs = "MB".toList then some (1024 * 1024)
  else none

/- A number and a unit with a blank between them. -/
def read? (text : String) : Option Figure :=
  match Path.splitOn ' ' text.toList with
  | [number, unit] => do
    let n ← decimal? number
    let u ← unit? unit
    some ⟨n, u⟩
  | _ => none

theorem isDigit_of_mem_toString
    {n : Nat}
    {c : Char}
    (hMem : c ∈ (toString n).toList) :
    c.isDigit = true := by
  rw [Nat.toString_eq_ofList_toDigits, String.toList_ofList] at hMem
  exact Nat.isDigit_of_mem_toDigits (by decide) (by decide) hMem

/- Digits hold neither a point nor a blank. -/
theorem notMem_toString
    {c : Char}
    (hOther : c.isDigit = false)
    (n : Nat) :
    c ∉ (toString n).toList := by
  intro hMem
  rw [isDigit_of_mem_toString hMem] at hOther
  contradiction

theorem whole?_toString (n : Nat) :
    whole? (toString n).toList = some n := by
  have hDigits : (toString n).toList.all Char.isDigit = true :=
    List.all_eq_true.mpr fun _ => isDigit_of_mem_toString
  have hSome : (toString n).toList ≠ [] := by
    rw [Nat.toString_eq_ofList_toDigits, String.toList_ofList]
    exact Nat.toDigits_ne_nil
  rw [whole?, if_pos ⟨hSome, hDigits⟩, Nat.toString_eq_ofList_toDigits,
    String.toList_ofList, Nat.ofDigitChars_ten_toDigits]

/- A whole number is read back. -/
theorem decimal?_toString (n : Nat) :
    decimal? (toString n).toList = some (n : ℚ) := by
  rw [decimal?, Path.splitOn_of_notMem (notMem_toString (by decide) n)]
  simp only [whole?_toString, Option.map_some]

theorem toList_decimalText (n : Nat) :
    (decimalText n).toList =
      (toString (n / 10)).toList ++ '.' :: (toString (n % 10)).toList := by
  rw [decimalText, String.toList_append, String.toList_append,
    List.append_assoc]
  rfl

/- One digit follows the point. -/
theorem length_toString_mod (n : Nat) :
    (toString (n % 10)).toList.length = 1 := by
  rw [Nat.toString_eq_ofList_toDigits, String.toList_ofList,
    Nat.toDigits_of_lt_base (Nat.mod_lt n (by decide))]
  rfl

/- So are tenths. -/
theorem decimal?_decimalText (n : Nat) :
    decimal? (decimalText n).toList = some ((n : ℚ) / 10) := by
  have hParts : (n : ℚ) = 10 * (n / 10 : Nat) + (n % 10 : Nat) := by
    exact_mod_cast (Nat.div_add_mod n 10).symm
  rw [decimal?, toList_decimalText, Path.splitOn_append_sep,
    Path.splitOn_of_notMem (notMem_toString (by decide) _),
    Path.splitOn_of_notMem (notMem_toString (by decide) _)]
  simp only [List.cons_append, List.nil_append, whole?_toString,
    length_toString_mod, Option.bind_eq_bind, Option.bind_some,
    Option.some.injEq]
  rw [hParts]
  ring

/- A number and its unit are read apart. -/
theorem read?_of_blank
    {text : String}
    {number unit : List Char}
    (hText : text.toList = number ++ ' ' :: unit)
    (hNumber : ' ' ∉ number)
    (hUnit : ' ' ∉ unit)
    {n : ℚ}
    {u : Nat}
    (hDecimal : decimal? number = some n)
    (hBytes : unit? unit = some u) :
    read? text = some ⟨n, u⟩ := by
  rw [read?, hText, Path.splitOn_append_sep,
    Path.splitOn_of_notMem hNumber, Path.splitOn_of_notMem hUnit]
  simp only [List.cons_append, List.nil_append, hDecimal, hBytes,
    Option.bind_eq_bind, Option.bind_some]

/- Tenths hold no blank. -/
theorem notMem_decimalText (n : Nat) :
    ' ' ∉ (decimalText n).toList := by
  rw [toList_decimalText, List.mem_append, List.mem_cons]
  rintro (hWhole | hPoint | hTenth)
  · exact notMem_toString (by decide) _ hWhole
  · exact absurd hPoint (by decide)
  · exact notMem_toString (by decide) _ hTenth

end Amount

end PluginStudio

------------------------------------------------------------
-- Figures That Are Shown
------------------------------------------------------------

namespace PluginStudio

namespace Amount

/- The largest unit that a number of bytes fills. -/
def unitOf (bytes : Nat) : Nat :=
  if megabyte ≤ bytes then megabyte
  else if kilobyte ≤ bytes then kilobyte
  else 1

/- A number of bytes in tenths of its unit. -/
def shown (bytes : Nat) : Nat :=
  Rounding.halfEven (10 * Binary64.nearest bytes) (unitOf bytes)

/- What is shown of a number of bytes. -/
def figure (bytes : Nat) : Figure where
  number := shown bytes / 10
  unit := unitOf bytes

theorem unitOf_bounds (bytes : Nat) :
    0 < unitOf bytes ∧ unitOf bytes < 2 ^ 53 := by
  rw [unitOf]
  split_ifs
  · decide
  · decide
  · decide

/- Bytes of any number that is finite with 53 bits, in tenths. -/
theorem tenths_eq
    {bytes : Nat}
    (hBits : Nat.log2 bytes < 1023)
    (unit : Nat) :
    tenths bytes unit =
      Rounding.halfEven (10 * Binary64.nearest bytes) unit := by
  obtain ⟨x, hFinite, hNum⟩ := Binary64.ofNat?_eq_nearest hBits
  simp only [tenths, hFinite, hNum]
  rw [Nat.mul_left_comm, Rounding.halfEven_mul_mul x.den_pos]

/- Bytes alone are shown as they are. -/
theorem shown_of_lt
    {bytes : Nat}
    (hLt : bytes < kilobyte) :
    unitOf bytes = 1 ∧ shown bytes = 10 * bytes := by
  have hUnit : unitOf bytes = 1 := by
    rw [unitOf, if_neg, if_neg (Nat.not_le.mpr hLt)]
    exact fun hMega => absurd (Nat.le_trans (by decide) hMega)
      (Nat.not_le.mpr hLt)
  refine ⟨hUnit, ?_⟩
  rw [shown, hUnit,
    Binary64.nearest_of_lt (Nat.lt_trans hLt (by decide)),
    Rounding.halfEven_one]

/- A size that is shown is read back as its figure. -/
theorem read?_size
    {bytes : Nat}
    (hBits : Nat.log2 bytes < 1023) :
    read? (size bytes) = some (figure bytes) := by
  by_cases hMega : megabyte ≤ bytes
  · have hUnit : unitOf bytes = megabyte := if_pos hMega
    rw [size, if_pos hMega, tenths_eq hBits, figure, shown, hUnit]
    exact read?_of_blank (String.toList_append ..)
      (notMem_decimalText _) (by decide) (decimal?_decimalText _) rfl
  by_cases hKilo : kilobyte ≤ bytes
  · have hUnit : unitOf bytes = kilobyte := by
      rw [unitOf, if_neg hMega, if_pos hKilo]
    rw [size, if_neg hMega, if_pos hKilo, tenths_eq hBits, figure,
      shown, hUnit]
    exact read?_of_blank (String.toList_append ..)
      (notMem_decimalText _) (by decide) (decimal?_decimalText _) rfl
  · obtain ⟨hUnit, hShown⟩ := shown_of_lt (Nat.not_le.mp hKilo)
    have hNumber : ((10 * bytes : Nat) : ℚ) / 10 = bytes := by
      push_cast
      ring
    rw [size, if_neg hMega, if_neg hKilo, figure, hShown, hUnit,
      hNumber]
    exact read?_of_blank (String.toList_append ..)
      (notMem_toString (by decide) _) (by decide) (decimal?_toString _)
      rfl

/- A number shown in a larger unit than another fills that unit. -/
theorem unitOf_cases
    {a b : Nat}
    (hLe : a ≤ b) :
    unitOf a = unitOf b ∨
      (a < unitOf b ∧ unitOf b ≤ b ∧ unitOf a ∣ unitOf b) := by
  have hUnits : kilobyte ≤ megabyte := by decide
  simp only [unitOf]
  split_ifs
  · exact .inl rfl
  · omega
  · omega
  · exact .inr ⟨by omega, by omega, by decide⟩
  · exact .inl rfl
  · omega
  · exact .inr ⟨by omega, by omega, by decide⟩
  · exact .inr ⟨by omega, by omega, by decide⟩
  · exact .inl rfl

/-
  More bytes are never shown as less.  Between figures of different
  units lies the larger unit.
-/
theorem shown_mono
    {a b : Nat}
    (hLe : a ≤ b) :
    unitOf a * shown a ≤ unitOf b * shown b := by
  rcases unitOf_cases hLe with hSame | ⟨hBelow, hAbove, q, hMul⟩
  · rw [shown, shown, hSame]
    apply Nat.mul_le_mul_left
    apply Rounding.halfEven_mono (unitOf_bounds b).1
    exact Nat.mul_le_mul_left 10 (Binary64.nearest_mono hLe)
  · have hUnit := Binary64.nearest_of_lt (unitOf_bounds b).2
    have hFirst : Binary64.nearest a ≤ unitOf b :=
      hUnit ▸ Binary64.nearest_mono (Nat.le_of_lt hBelow)
    have hSecond : unitOf b ≤ Binary64.nearest b :=
      hUnit ▸ Binary64.nearest_mono hAbove
    calc
      unitOf a * shown a ≤ unitOf a * (10 * q) := by
        apply Nat.mul_le_mul_left
        apply Rounding.halfEven_le (unitOf_bounds a).1
        rw [Nat.mul_left_comm, ← hMul]
        exact Nat.mul_le_mul_left 10 hFirst
      _ = unitOf b * 10 := by rw [hMul, Nat.mul_assoc, Nat.mul_comm q]
      _ ≤ unitOf b * shown b := by
        apply Nat.mul_le_mul_left
        apply Rounding.le_halfEven (unitOf_bounds b).1
        rw [Nat.mul_comm]
        exact Nat.mul_le_mul_left 10 hSecond

/- The larger unit is reached from below, and not passed. -/
example :
    size 1048575 = "1024.0 KB" ∧ size 1048576 = "1.0 MB" := by
  decide

theorem value_figure (bytes : Nat) :
    (figure bytes).value = (unitOf bytes * shown bytes : Nat) / 10 := by
  rw [figure, Figure.value]
  push_cast
  ring

theorem figure_mono
    {a b : Nat}
    (hLe : a ≤ b) :
    (figure a).value ≤ (figure b).value := by
  have hShown :
      ((unitOf a * shown a : Nat) : ℚ) ≤ (unitOf b * shown b : Nat) := by
    exact_mod_cast shown_mono hLe
  rw [value_figure, value_figure]
  linarith

/- A figure of a number that has 53 bits is rounded only once. -/
theorem figure_near
    {bytes : Nat}
    (hLt : bytes < 2 ^ 53) :
    |(figure bytes).value - bytes| ≤ (unitOf bytes : ℚ) / 20 := by
  obtain ⟨hAbove, hBelow⟩ :=
    Rounding.halfEven_near (n := 10 * bytes) (unitOf_bounds bytes).1
  have hShown :
      shown bytes = Rounding.halfEven (10 * bytes) (unitOf bytes) := by
    rw [shown, Binary64.nearest_of_lt hLt]
  rw [← hShown] at hAbove hBelow
  rw [value_figure, abs_le]
  generalize unitOf bytes * shown bytes = n at hAbove hBelow ⊢
  have hUp : (2 * n : ℚ) ≤ 2 * (10 * bytes) + unitOf bytes := by
    exact_mod_cast hAbove
  have hDown : (2 * (10 * bytes) : ℚ) ≤ 2 * n + unitOf bytes := by
    exact_mod_cast hBelow
  constructor
  · linarith
  · linarith

theorem log2_toNat_lt (bytes : UInt64) :
    Nat.log2 bytes.toNat < 1023 := by
  by_cases hZero : bytes.toNat = 0
  · rw [hZero]
    decide
  · have hBits : Nat.log2 bytes.toNat < 64 :=
      (Nat.log2_lt hZero).mpr bytes.toNat_lt
    omega

/-
  Of two sizes the one that is not larger is not shown as the larger
  one, whichever units they are shown in.  A size of at most 53 bits
  is shown in the largest unit that it fills, within a twentieth of
  this unit.
-/
theorem size_ordered_accurate :
    (∀ a b : UInt64, a ≤ b →
      ∃ f g,
        read? (size a.toNat) = some f ∧
          read? (size b.toNat) = some g ∧
          f.value ≤ g.value) ∧
      ∀ a : UInt64, a.toNat < 2 ^ 53 →
        ∃ f,
          read? (size a.toNat) = some f ∧
            f.unit = unitOf a.toNat ∧
            |f.value - a.toNat| ≤ (f.unit : ℚ) / 20 := by
  constructor
  · intro a b hLe
    exact ⟨figure a.toNat, figure b.toNat,
      read?_size (log2_toNat_lt a), read?_size (log2_toNat_lt b),
      figure_mono (UInt64.le_iff_toNat_le.mp hLe)⟩
  · intro a hLt
    exact ⟨figure a.toNat, read?_size (log2_toNat_lt a), rfl,
      figure_near hLt⟩

/- Where megabytes begin, and where numbers of 53 bits end. -/
theorem size_ordered_accurate_of_limits :
    ((1048575 : UInt64) ≤ 1048576 ∧
      ∃ f g,
        read? (size 1048575) = some f ∧
          read? (size 1048576) = some g ∧
          f.value ≤ g.value) ∧
      ((9007199254740991 : UInt64) ≤ 9007199254740993 ∧
        ∃ f g,
          read? (size 9007199254740991) = some f ∧
            read? (size 9007199254740993) = some g ∧
            f.value ≤ g.value) ∧
      (9007199254740991 : UInt64).toNat < 2 ^ 53 ∧
      ∃ f,
        read? (size 9007199254740991) = some f ∧
          f.unit = megabyte ∧
          |f.value - 9007199254740991| ≤ (f.unit : ℚ) / 20 :=
  ⟨⟨by decide, size_ordered_accurate.1 1048575 1048576 (by decide)⟩,
    ⟨by decide,
      size_ordered_accurate.1 9007199254740991 9007199254740993
        (by decide)⟩,
    by decide,
    size_ordered_accurate.2 9007199254740991 (by decide)⟩

end Amount

end PluginStudio
