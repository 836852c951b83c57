import Mathlib.Data.List.Basic
import PluginStudio.Path

/-
  Texts and the bytes that they are written with.

  Main declarations:
    * `Utf8.uncons?_encodeChar`
    * `Utf8.legible_flatMap_encodeChar`
    * `Utf8.decode?_encode`
    * `Octets.legible_ofString`
    * `Octets.mem_ofString_iff`

  What is written can be read again, and a character of one byte
  stands in the bytes of a text only where it stands in the text.
-/

------------------------------------------------------------
-- Characters
------------------------------------------------------------

namespace PluginStudio

namespace Utf8

theorem toNat_byte
    {n : Nat}
    (hByte : n < 256) :
    (byte n).toNat = n := by
  simp [byte, Nat.mod_eq_of_lt hByte]

theorem byte_lt_iff
    {n : Nat}
    (hByte : n < 256)
    (b : UInt8) :
    byte n < b ↔ n < b.toNat := by
  rw [UInt8.lt_iff_toNat_lt, toNat_byte hByte]

/- An ASCII character is its own byte. -/
theorem encodeChar_of_lt
    {c : Char}
    (hOne : c.toNat < 0x80) :
    encodeChar c = [byte c.toNat] := by
  simp only [encodeChar, hOne, if_true]

theorem bits?_continuation
    (n : Nat) :
    bits? (continuation n) = some (n % 0x40) := by
  have hBits : n % 0x40 < 0x40 := Nat.mod_lt _ (by decide)
  have hLow : 0x80 ≤ continuation n := by
    rw [UInt8.le_iff_toNat_le, continuation,
      toNat_byte (by omega)]
    exact Nat.le_add_right _ _
  have hHigh : continuation n < 0xC0 := by
    rw [continuation, byte_lt_iff (by omega)]
    change 0x80 + n % 0x40 < 0xC0
    omega
  rw [bits?, if_pos ⟨hLow, hHigh⟩, continuation,
    toNat_byte (by omega)]
  simp

theorem scalar?_toNat
    {least : Nat}
    (c : Char)
    (hLeast : least ≤ c.toNat) :
    scalar? least c.toNat = some c := by
  have hValid : c.toNat.isValidChar := c.valid
  rw [scalar?, if_pos ⟨hLeast, hValid⟩, Char.ofNat_toNat]

/- The largest number of a character. -/
theorem toNat_lt_char (c : Char) : c.toNat < 0x110000 := by
  rcases c.valid with hLow | ⟨-, hHigh⟩
  · change c.val.toNat < 0x110000
    omega
  · exact hHigh

section Lead

variable {a : UInt8} (n m k : Nat) (rest : Bytes)

private theorem not_lt_byte
    {bound : UInt8}
    (hLow : bound.toNat ≤ a.toNat) :
    ¬ a < bound := by
  rw [UInt8.lt_iff_toNat_lt]
  omega

/- The first byte tells how many others belong to a character. -/
theorem uncons?_two
    (hLow : 0xC0 ≤ a.toNat)
    (hHigh : a.toNat < 0xE0) :
    uncons? (a :: continuation n :: rest) =
      (scalar? 0x80 ((a.toNat - 0xC0) * 0x40 + n % 0x40)).bind
        fun c => some (c, rest) := by
  have hOne : ¬ a < 0x80 := not_lt_byte (Nat.le_trans (by decide) hLow)
  have hTwo : ¬ a < 0xC0 := not_lt_byte hLow
  have hLead : a < 0xE0 := UInt8.lt_iff_toNat_lt.mpr hHigh
  rw [uncons?, if_neg hOne, if_neg hTwo, if_pos hLead]
  simp only [bits?_continuation]
  rfl

theorem uncons?_three
    (hLow : 0xE0 ≤ a.toNat)
    (hHigh : a.toNat < 0xF0) :
    uncons? (a :: continuation n :: continuation m :: rest) =
      (scalar? 0x800
          (((a.toNat - 0xE0) * 0x40 + n % 0x40) * 0x40 +
            m % 0x40)).bind
        fun c => some (c, rest) := by
  have hOne : ¬ a < 0x80 := not_lt_byte (Nat.le_trans (by decide) hLow)
  have hTwo : ¬ a < 0xC0 := not_lt_byte (Nat.le_trans (by decide) hLow)
  have hThree : ¬ a < 0xE0 := not_lt_byte hLow
  have hLead : a < 0xF0 := UInt8.lt_iff_toNat_lt.mpr hHigh
  rw [uncons?, if_neg hOne, if_neg hTwo, if_neg hThree,
    if_pos hLead]
  simp only [bits?_continuation]
  rfl

theorem uncons?_four
    (hLow : 0xF0 ≤ a.toNat) :
    uncons?
        (a :: continuation n :: continuation m :: continuation k ::
          rest) =
      (scalar? 0x10000
          ((((a.toNat - 0xF0) * 0x40 + n % 0x40) * 0x40 +
            m % 0x40) * 0x40 + k % 0x40)).bind
        fun c => some (c, rest) := by
  have hOne : ¬ a < 0x80 := not_lt_byte (Nat.le_trans (by decide) hLow)
  have hTwo : ¬ a < 0xC0 := not_lt_byte (Nat.le_trans (by decide) hLow)
  have hThree : ¬ a < 0xE0 :=
    not_lt_byte (Nat.le_trans (by decide) hLow)
  have hFour : ¬ a < 0xF0 := not_lt_byte hLow
  rw [uncons?, if_neg hOne, if_neg hTwo, if_neg hThree,
    if_neg hFour]
  simp only [bits?_continuation]
  rfl

end Lead

/- A character is read back from its bytes. -/
theorem uncons?_encodeChar
    (c : Char)
    (rest : Bytes) :
    uncons? (encodeChar c ++ rest) = some (c, rest) := by
  have hTop := toNat_lt_char c
  simp only [encodeChar]
  by_cases hOne : c.toNat < 0x80
  · have hByte : byte c.toNat < 0x80 :=
      (byte_lt_iff (by omega) _).mpr hOne
    simp [hOne, uncons?, hByte, toNat_byte (n := c.toNat) (by omega)]
  rw [if_neg hOne]
  by_cases hTwo : c.toNat < 0x800
  · have hLead := toNat_byte (n := 0xC0 + c.toNat / 0x40) (by omega)
    have hValue :
        (0xC0 + c.toNat / 0x40 - 0xC0) * 0x40 + c.toNat % 0x40 =
          c.toNat := by
      omega
    rw [if_pos hTwo, List.cons_append, List.cons_append,
      List.nil_append, uncons?_two _ _ (by omega) (by omega), hLead,
      hValue, scalar?_toNat c (by omega)]
    rfl
  rw [if_neg hTwo]
  by_cases hThree : c.toNat < 0x10000
  · have hLead := toNat_byte (n := 0xE0 + c.toNat / 0x1000) (by omega)
    have hValue :
        ((0xE0 + c.toNat / 0x1000 - 0xE0) * 0x40 +
            c.toNat / 0x40 % 0x40) * 0x40 + c.toNat % 0x40 =
          c.toNat := by
      omega
    rw [if_pos hThree]
    simp only [List.cons_append, List.nil_append]
    rw [uncons?_three _ _ _ (by omega) (by omega), hLead, hValue,
      scalar?_toNat c (by omega)]
    rfl
  · have hLead := toNat_byte (n := 0xF0 + c.toNat / 0x40000) (by omega)
    have hValue :
        (((0xF0 + c.toNat / 0x40000 - 0xF0) * 0x40 +
            c.toNat / 0x1000 % 0x40) * 0x40 +
            c.toNat / 0x40 % 0x40) * 0x40 + c.toNat % 0x40 =
          c.toNat := by
      omega
    rw [if_neg hThree]
    simp only [List.cons_append, List.nil_append]
    rw [uncons?_four _ _ _ _ (by omega), hLead, hValue,
      scalar?_toNat c (by omega)]
    rfl

/- What is shown of the bytes of a text is the text. -/
theorem legible_flatMap_encodeChar
    (cs : List Char) :
    legible (cs.flatMap encodeChar) = cs := by
  induction cs with
  | nil =>
      rw [legible]
      rfl
  | cons c cs ih =>
      rw [List.flatMap_cons, legible]
      split
      · rename_i d rest hRead
        rw [uncons?_encodeChar, Option.some.injEq,
          Prod.mk.injEq] at hRead
        rw [← hRead.1, ← hRead.2, ih]
      · rename_i hRead
        rw [uncons?_encodeChar] at hRead
        contradiction

/- The bytes of a text are well-formed throughout. -/
theorem splitFrom_flatMap_encodeChar
    (read cs : List Char) :
    splitFrom read (cs.flatMap encodeChar) =
      (read.reverse ++ cs, []) := by
  induction cs generalizing read with
  | nil =>
      rw [splitFrom, List.append_nil]
      rfl
  | cons c cs ih =>
      rw [List.flatMap_cons, splitFrom]
      split
      · rename_i hRead
        rw [uncons?_encodeChar] at hRead
        contradiction
      · rename_i d rest hRead
        rw [uncons?_encodeChar, Option.some.injEq,
          Prod.mk.injEq] at hRead
        rw [← hRead.1, ← hRead.2, ih]
        simp

/- A text is read back from its bytes. -/
theorem decode?_encode (s : String) :
    decode? (encode s) = some s := by
  rw [decode?, split, encode, splitFrom_flatMap_encodeChar]
  simp

end Utf8

end PluginStudio

------------------------------------------------------------
-- Texts That Hold Bytes
------------------------------------------------------------

namespace PluginStudio

namespace Octets

theorem toNat_ofNat_byte (b : UInt8) :
    (Char.ofNat b.toNat).toNat = b.toNat := by
  have hValid : b.toNat.isValidChar := by
    have := b.toNat_lt
    left
    omega
  rw [Char.ofNat, dif_pos hValid]
  rfl

/- The text that holds bytes holds no others. -/
@[simp] theorem bytes_text (bytes : Bytes) :
    Octets.bytes (text bytes) = bytes := by
  rw [Octets.bytes, text, String.toList_ofList, List.map_map]
  conv_rhs => rw [← List.map_id bytes]
  apply List.map_congr_left
  intro b _
  simp [toNat_ofNat_byte]

/- The bytes of a string show the string. -/
@[simp] theorem legible_ofString (s : String) :
    legible (ofString s) = s := by
  rw [legible, ofString, bytes_text, Utf8.encode,
    Utf8.legible_flatMap_encodeChar, String.ofList_toList]

theorem ofString_injective
    {s t : String}
    (hEq : ofString s = ofString t) :
    s = t := by
  rw [← legible_ofString s, hEq, legible_ofString]

/- A byte of a character that takes several is none by itself. -/
theorem le_of_mem_encodeChar
    {c : Char}
    (hMany : 0x80 ≤ c.toNat)
    {b : UInt8}
    (hByte : b ∈ Utf8.encodeChar c) :
    0x80 ≤ b.toNat := by
  have hTop := Utf8.toNat_lt_char c
  have hRest : ∀ n, 0x80 ≤ (Utf8.continuation n).toNat := by
    intro n
    rw [Utf8.continuation, Utf8.toNat_byte (by omega)]
    omega
  simp only [Utf8.encodeChar] at hByte
  rw [if_neg (by omega)] at hByte
  split_ifs at hByte <;>
    simp only [List.mem_cons, List.not_mem_nil, or_false] at hByte
  · rcases hByte with rfl | rfl
    · rw [Utf8.toNat_byte (by omega)]
      omega
    · exact hRest _
  · rcases hByte with rfl | rfl | rfl
    · rw [Utf8.toNat_byte (by omega)]
      omega
    · exact hRest _
    · exact hRest _
  · rcases hByte with rfl | rfl | rfl | rfl
    · rw [Utf8.toNat_byte (by omega)]
      omega
    · exact hRest _
    · exact hRest _
    · exact hRest _

/- A byte that is a character stands for no other. -/
theorem exists_mem_encodeChar_iff
    {c : Char}
    (hOne : c.toNat < 0x80)
    (d : Char) :
    (∃ b ∈ Utf8.encodeChar d, Char.ofNat b.toNat = c) ↔ d = c := by
  constructor
  · rintro ⟨b, hByte, rfl⟩
    rw [toNat_ofNat_byte] at hOne
    by_cases hMany : 0x80 ≤ d.toNat
    · have := le_of_mem_encodeChar hMany hByte
      omega
    · simp only [Utf8.encodeChar, Nat.not_le.mp hMany, if_true,
        List.mem_singleton] at hByte
      rw [hByte, Utf8.toNat_byte (by omega), Char.ofNat_toNat]
  · rintro rfl
    refine ⟨Utf8.byte d.toNat, ?_, ?_⟩
    · simp [Utf8.encodeChar, hOne]
    · rw [Utf8.toNat_byte (by omega), Char.ofNat_toNat]

/- A character of one byte is in a text if its byte is. -/
theorem mem_ofString_iff
    {c : Char}
    (hOne : c.toNat < 0x80)
    (s : String) :
    c ∈ (ofString s).toList ↔ c ∈ s.toList := by
  simp only [ofString, text, Utf8.encode, String.toList_ofList,
    List.mem_map, List.mem_flatMap]
  constructor
  · rintro ⟨b, ⟨d, hMem, hByte⟩, hEq⟩
    rwa [← (exists_mem_encodeChar_iff hOne d).mp ⟨b, hByte, hEq⟩]
  · intro hMem
    obtain ⟨b, hByte, hEq⟩ :=
      (exists_mem_encodeChar_iff hOne c).mpr rfl
    exact ⟨b, ⟨c, hMem, hByte⟩, hEq⟩

end Octets

end PluginStudio
