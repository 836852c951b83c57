import PluginStudio.Proofs.Text.Utf8

/-
  The bytes that are texts.

  Main declarations:
    * `Utf8.eq_encodeChar_append`
    * `Utf8.decode?_eq_some_iff`
    * `Utf8.isValidUTF8_iff`
    * `Utf8.decode?_cons_of_lt`
    * `Utf8.exists_mem_of_mem_legible`

  Bytes are read as a text only if they are how that text is
  written, so that no two byte sequences are the same text.
-/

------------------------------------------------------------
-- What Is Read Was Written
------------------------------------------------------------

namespace PluginStudio

namespace Utf8

theorem bits?_eq_some
    {b : UInt8}
    {x : Nat}
    (hBits : bits? b = some x) :
    x < 0x40 ∧ b = byte (0x80 + x) := by
  rw [bits?] at hBits
  split_ifs at hBits with hRange
  obtain ⟨hLow, hHigh⟩ := hRange
  rw [UInt8.le_iff_toNat_le] at hLow
  rw [UInt8.lt_iff_toNat_lt] at hHigh
  have hValue := Option.some.inj hBits
  change 0x80 ≤ b.toNat at hLow
  change b.toNat < 0xC0 at hHigh
  refine ⟨by omega, ?_⟩
  rw [← hValue, Nat.add_sub_cancel' hLow, byte, UInt8.ofNat_toNat]

theorem scalar?_eq_some
    {least n : Nat}
    {c : Char}
    (hScalar : scalar? least n = some c) :
    least ≤ n ∧ c.toNat = n := by
  rw [scalar?] at hScalar
  split_ifs at hScalar with hRange
  refine ⟨hRange.1, ?_⟩
  rw [← Option.some.inj hScalar, Char.ofNat, dif_pos hRange.2]
  rfl

/- A byte, given by what it adds to a base. -/
theorem byte_add
    {a : UInt8}
    {base n : Nat}
    (hBase : base ≤ a.toNat)
    (hBits : a.toNat - base = n) :
    byte (base + n) = a := by
  rw [← hBits, Nat.add_sub_cancel' hBase, byte, UInt8.ofNat_toNat]

section Lead

variable {a : UInt8} {c : Char} {x y z : Nat}

/- A character is written with the bits that it is read from. -/
theorem encodeChar_two
    (hLow : 0xC0 ≤ a.toNat)
    (hHigh : a.toNat < 0xE0)
    (hX : x < 0x40)
    (hLeast : 0x80 ≤ c.toNat)
    (hValue : c.toNat = (a.toNat - 0xC0) * 0x40 + x) :
    encodeChar c = [a, byte (0x80 + x)] := by
  have hLead := byte_add hLow (n := c.toNat / 0x40) (by omega)
  have hLast : c.toNat % 0x40 = x := by omega
  simp only [encodeChar, continuation]
  rw [if_neg (by omega), if_pos (by omega), hLead, hLast]

theorem encodeChar_three
    (hLow : 0xE0 ≤ a.toNat)
    (hHigh : a.toNat < 0xF0)
    (hX : x < 0x40)
    (hY : y < 0x40)
    (hLeast : 0x800 ≤ c.toNat)
    (hValue :
      c.toNat = ((a.toNat - 0xE0) * 0x40 + x) * 0x40 + y) :
    encodeChar c = [a, byte (0x80 + x), byte (0x80 + y)] := by
  have hLead := byte_add hLow (n := c.toNat / 0x1000) (by omega)
  have hMiddle : c.toNat / 0x40 % 0x40 = x := by omega
  have hLast : c.toNat % 0x40 = y := by omega
  simp only [encodeChar, continuation]
  rw [if_neg (by omega), if_neg (by omega), if_pos (by omega), hLead,
    hMiddle, hLast]

theorem encodeChar_four
    (hLow : 0xF0 ≤ a.toNat)
    (hX : x < 0x40)
    (hY : y < 0x40)
    (hZ : z < 0x40)
    (hLeast : 0x10000 ≤ c.toNat)
    (hValue :
      c.toNat =
        (((a.toNat - 0xF0) * 0x40 + x) * 0x40 + y) * 0x40 + z) :
    encodeChar c =
      [a, byte (0x80 + x), byte (0x80 + y), byte (0x80 + z)] := by
  have hLead := byte_add hLow (n := c.toNat / 0x40000) (by omega)
  have hSecond : c.toNat / 0x1000 % 0x40 = x := by omega
  have hThird : c.toNat / 0x40 % 0x40 = y := by omega
  have hLast : c.toNat % 0x40 = z := by omega
  simp only [encodeChar, continuation]
  rw [if_neg (by omega), if_neg (by omega), if_neg (by omega), hLead,
    hSecond, hThird, hLast]

end Lead

theorem le_toNat_of_not_lt
    {a bound : UInt8}
    (hLow : ¬ a < bound) :
    bound.toNat ≤ a.toNat :=
  Nat.not_lt.mp fun hLt => hLow (UInt8.lt_iff_toNat_lt.mpr hLt)

/-
  The character that is read is written as the bytes read.  The
  cases are the four lengths of a character; the least number that
  `scalar?` takes and the size of the first byte leave only one
  length for the way back.
-/
theorem eq_encodeChar_append
    {bytes rest : Bytes}
    {c : Char}
    (hRead : uncons? bytes = some (c, rest)) :
    bytes = encodeChar c ++ rest := by
  unfold uncons? at hRead
  split at hRead
  · contradiction
  rename_i a bytes
  split_ifs at hRead with hOne hLone hTwo hThree
  · obtain ⟨rfl, rfl⟩ := Prod.mk.inj (Option.some.inj hRead)
    have hSelf := Octets.toNat_ofNat_byte a
    have hAscii : (Char.ofNat a.toNat).toNat < 0x80 := by
      rw [hSelf]
      exact UInt8.lt_iff_toNat_lt.mp hOne
    rw [encodeChar_of_lt hAscii, hSelf, byte, UInt8.ofNat_toNat,
      List.singleton_append]
  · split at hRead
    · simp only [Option.bind_eq_bind, Option.bind_eq_some_iff] at hRead
      obtain ⟨x, hBits, d, hScalar, hRest⟩ := hRead
      obtain ⟨rfl, rfl⟩ := Prod.mk.inj (Option.some.inj hRest)
      obtain ⟨hX, rfl⟩ := bits?_eq_some hBits
      obtain ⟨hLeast, hValue⟩ := scalar?_eq_some hScalar
      rw [encodeChar_two (le_toNat_of_not_lt hLone)
        (UInt8.lt_iff_toNat_lt.mp hTwo) hX (hValue ▸ hLeast) hValue]
      rfl
    · contradiction
  · split at hRead
    · simp only [Option.bind_eq_bind, Option.bind_eq_some_iff] at hRead
      obtain ⟨x, hBits, y, hBits', d, hScalar, hRest⟩ := hRead
      obtain ⟨rfl, rfl⟩ := Prod.mk.inj (Option.some.inj hRest)
      obtain ⟨hX, rfl⟩ := bits?_eq_some hBits
      obtain ⟨hY, rfl⟩ := bits?_eq_some hBits'
      obtain ⟨hLeast, hValue⟩ := scalar?_eq_some hScalar
      rw [encodeChar_three (le_toNat_of_not_lt hTwo)
        (UInt8.lt_iff_toNat_lt.mp hThree) hX hY (hValue ▸ hLeast) hValue]
      rfl
    · contradiction
  · split at hRead
    · simp only [Option.bind_eq_bind, Option.bind_eq_some_iff] at hRead
      obtain ⟨x, hBits, y, hBits', z, hBits'', d, hScalar, hRest⟩ := hRead
      obtain ⟨rfl, rfl⟩ := Prod.mk.inj (Option.some.inj hRest)
      obtain ⟨hX, rfl⟩ := bits?_eq_some hBits
      obtain ⟨hY, rfl⟩ := bits?_eq_some hBits'
      obtain ⟨hZ, rfl⟩ := bits?_eq_some hBits''
      obtain ⟨hLeast, hValue⟩ := scalar?_eq_some hScalar
      rw [encodeChar_four (le_toNat_of_not_lt hThree) hX hY hZ
        (hValue ▸ hLeast) hValue]
      rfl
    · contradiction

/- All that is read, with what is left, is what was given. -/
theorem eq_flatMap_encodeChar_append
    (read : List Char)
    (bytes : Bytes) :
    (splitFrom read bytes).1.flatMap encodeChar ++
        (splitFrom read bytes).2 =
      read.reverse.flatMap encodeChar ++ bytes := by
  fun_induction splitFrom read bytes with
  | case1 read bytes hNone => rfl
  | case2 read bytes c rest hRead ih =>
      rw [ih, eq_encodeChar_append hRead, List.reverse_cons,
        List.flatMap_append, List.flatMap_singleton, List.append_assoc]

/- Bytes are read as a text exactly if they are how it is written. -/
theorem decode?_eq_some_iff
    {bytes : Bytes}
    {s : String} :
    decode? bytes = some s ↔ encode s = bytes := by
  constructor
  · intro hDecode
    have hAll := eq_flatMap_encodeChar_append [] bytes
    rw [decode?, split] at hDecode
    generalize splitFrom [] bytes = found at hAll hDecode
    obtain ⟨chars, left⟩ := found
    cases left with
    | nil =>
        rw [← Option.some.inj hDecode, encode, String.toList_ofList]
        simpa using hAll
    | cons b left => contradiction
  · rintro rfl
    exact decode?_encode s

end Utf8

end PluginStudio

------------------------------------------------------------
-- The Usual Notion
------------------------------------------------------------

namespace PluginStudio

namespace Utf8

theorem byte_eq_ofNat
    {base n : Nat}
    (bound : Nat)
    (hLt : n < bound) :
    byte (base + n) = UInt8.ofNat (n % bound + base) := by
  rw [byte, Nat.mod_eq_of_lt hLt, Nat.add_comm]

theorem continuation_eq_ofNat (n : Nat) :
    continuation n = UInt8.ofNat (n % 0x40 + 0x80) := by
  rw [continuation, byte, Nat.add_comm]

/- Characters are written with the bytes that strings hold. -/
theorem encodeChar_eq_utf8EncodeChar (c : Char) :
    encodeChar c = String.utf8EncodeChar c := by
  have hTop := toNat_lt_char c
  have hValue : c.val.toNat = c.toNat := rfl
  simp only [encodeChar, String.utf8EncodeChar, hValue,
    continuation_eq_ofNat, Nat.lt_succ_iff]
  split_ifs with hOne hTwo hThree
  · rfl
  · rw [byte_eq_ofNat 0x20 (by omega)]
  · rw [byte_eq_ofNat 0x10 (by omega)]
  · rw [byte_eq_ofNat 8 (by omega)]

theorem toByteArray_flatMap_encodeChar (cs : List Char) :
    (cs.flatMap encodeChar).toByteArray = cs.utf8Encode := by
  rw [List.utf8Encode, funext encodeChar_eq_utf8EncodeChar]

/- Bytes are valid exactly if a text is written with them. -/
theorem isValidUTF8_iff (bytes : Bytes) :
    bytes.toByteArray.IsValidUTF8 ↔ ∃ s, encode s = bytes := by
  constructor
  · rintro ⟨cs, hBytes⟩
    refine ⟨String.ofList cs, ?_⟩
    rw [← toByteArray_flatMap_encodeChar, List.toByteArray_inj] at hBytes
    rw [encode, String.toList_ofList, hBytes]
  · rintro ⟨s, rfl⟩
    exact ⟨s.toList, toByteArray_flatMap_encodeChar s.toList⟩

end Utf8

end PluginStudio

------------------------------------------------------------
-- ASCII In Front
------------------------------------------------------------

namespace PluginStudio

namespace Utf8

theorem uncons?_cons_of_lt
    {b : UInt8}
    (hAscii : b < 0x80)
    (bytes : Bytes) :
    uncons? (b :: bytes) = some (Char.ofNat b.toNat, bytes) := by
  simp only [uncons?, hAscii, if_true]

/- An ASCII byte belongs to no other character. -/
theorem decode?_cons_of_lt
    {b : UInt8}
    (hAscii : b < 0x80)
    (bytes : Bytes) :
    decode? (b :: bytes) =
      (decode? bytes).map
        fun s => String.ofList (Char.ofNat b.toNat :: s.toList) := by
  ext s
  rw [Option.map_eq_some_iff, decode?_eq_some_iff]
  constructor
  · intro hBytes
    have hRead := uncons?_cons_of_lt hAscii bytes
    rw [← hBytes, encode] at hRead
    cases hChars : s.toList with
    | nil =>
        rw [hChars] at hRead
        contradiction
    | cons c cs =>
        rw [hChars, List.flatMap_cons, uncons?_encodeChar,
          Option.some.injEq, Prod.mk.injEq] at hRead
        refine ⟨String.ofList cs, ?_, ?_⟩
        · rw [decode?_eq_some_iff, encode, String.toList_ofList]
          exact hRead.2
        · rw [String.toList_ofList, ← hRead.1, ← hChars,
            String.ofList_toList]
  · rintro ⟨t, hDecode, rfl⟩
    have hSelf := Octets.toNat_ofNat_byte b
    have hOne : (Char.ofNat b.toNat).toNat < 0x80 := by
      rw [hSelf]
      exact UInt8.lt_iff_toNat_lt.mp hAscii
    rw [decode?_eq_some_iff] at hDecode
    rw [encode, String.toList_ofList, List.flatMap_cons,
      encodeChar_of_lt hOne, hSelf, byte, UInt8.ofNat_toNat, ← encode,
      hDecode, List.singleton_append]

/- A character of one byte is shown only where its byte is. -/
theorem exists_mem_of_mem_legible
    {c : Char}
    (hOne : c.toNat < 0x80)
    {bytes : Bytes}
    (hMem : c ∈ legible bytes) :
    ∃ b ∈ bytes, Char.ofNat b.toNat = c := by
  fun_induction legible bytes with
  | case1 bytes d rest hRead ih =>
      rw [eq_encodeChar_append hRead]
      rcases List.mem_cons.mp hMem with rfl | hRest
      · rcases (Octets.exists_mem_encodeChar_iff hOne c).mpr rfl with
          ⟨b, hByte, hSame⟩
        exact ⟨b, List.mem_append_left _ hByte, hSame⟩
      · rcases ih hRest with ⟨b, hByte, hSame⟩
        exact ⟨b, List.mem_append_right _ hByte, hSame⟩
  | case2 => contradiction
  | case3 a rest hRead ih =>
      rcases List.mem_cons.mp hMem with rfl | hRest
      · -- The mark for bytes of no character takes several itself.
        contradiction
      · rcases ih hRest with ⟨b, hByte, hSame⟩
        exact ⟨b, List.mem_cons_of_mem _ (List.mem_of_mem_drop hByte),
          hSame⟩

end Utf8

end PluginStudio
