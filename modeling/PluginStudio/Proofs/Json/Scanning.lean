import Mathlib.Data.List.TakeWhile
import PluginStudio.Proofs.Json.Grammar
import PluginStudio.Proofs.Text.Utf8

/-
  How scanners take what is written.

  Key definitions include:
    * `PluginStudio.Json.Numeral.Stops`

  Main declarations:
    * `Json.skipBlanks_token`
    * `Json.Text.scan_spelled`
    * `Json.Text.WellFormed.scan_ok_iff`
    * `Json.Text.skip_quoted`
    * `Json.Numeral.skip_written`
    * `Json.Skipping.run_value`

  A text that is spelled is read as what it spells.  One that is
  well-formed may be refused, but where it is not, exactly the
  bytes after its closing quote are left.  Values of any kind and
  depth are passed over to their end.
-/

------------------------------------------------------------
-- Blanks
------------------------------------------------------------

namespace PluginStudio

namespace Json

theorem isBlank_iff (b : UInt8) :
    isBlank b = true ↔ b ∈ ([0x20, 0x09, 0x0A, 0x0D] : Bytes) := by
  simp only [isBlank, Bool.or_eq_true, decide_eq_true_eq,
    List.mem_cons, List.not_mem_nil, or_false, or_assoc]
  rfl

theorem skipBlanks_append
    {blanks : Bytes}
    (hBlanks : Blanks blanks)
    (bytes : Bytes) :
    skipBlanks (blanks ++ bytes) = skipBlanks bytes := by
  apply List.dropWhile_append_of_pos
  intro b hMem
  exact (isBlank_iff b).mpr (hBlanks b hMem)

theorem skipBlanks_cons
    {b : UInt8}
    (hToken : isBlank b = false)
    (rest : Bytes) :
    skipBlanks (b :: rest) = b :: rest := by
  rw [skipBlanks, List.dropWhile_cons_of_neg (by simp [hToken])]

/- Blanks lead to the token after them. -/
theorem skipBlanks_token
    {blanks : Bytes}
    (hBlanks : Blanks blanks)
    {b : UInt8}
    (hToken : isBlank b = false)
    (rest : Bytes) :
    skipBlanks (blanks ++ b :: rest) = b :: rest := by
  rw [skipBlanks_append hBlanks, skipBlanks_cons hToken]

/- Blanks, and they only, lead to the end. -/
theorem skipBlanks_eq_nil_iff (bytes : Bytes) :
    skipBlanks bytes = [] ↔ Blanks bytes := by
  rw [skipBlanks, List.dropWhile_eq_nil_iff]
  constructor
  · intro hAll b hMem
    exact (isBlank_iff b).mp (hAll b hMem)
  · intro hAll b hMem
    exact (isBlank_iff b).mpr (hAll b hMem)

/- A colon after a name, with blanks on both sides. -/
theorem colon_of_blanks
    {blanks : Bytes}
    (hBlanks : Blanks blanks)
    (rest : Bytes) :
    colon (blanks ++ ':'.toUInt8 :: rest) = .ok ((), rest) := by
  rw [colon, skipBlanks_token hBlanks (by decide)]
  rfl

end Json

end PluginStudio

------------------------------------------------------------
-- Escapes
------------------------------------------------------------

namespace PluginStudio

namespace Json

namespace Text

theorem HexDigit.hexDigit?_eq
    {b : UInt8}
    {n : Nat}
    (hDigit : HexDigit b n) :
    hexDigit? b = some n := by
  have hAll :
      ∀ m < 16,
        hexDigit? (Nat.digitChar m).toUInt8 = some m ∧
          hexDigit? (Nat.digitChar m).toUpper.toUInt8 = some m := by
    decide
  rcases hDigit.written with rfl | rfl
  · exact (hAll n hDigit.small).1
  · exact (hAll n hDigit.small).2

theorem HexQuad.hexQuad_append
    {digits : Bytes}
    {n : Nat}
    (hDigits : HexQuad digits n)
    (rest : Bytes) :
    hexQuad (digits ++ rest) = .ok (n, rest) := by
  cases hDigits with
  | mk hA hB hC hD =>
      simp [hexQuad, hexValue?, hA.hexDigit?_eq, hB.hexDigit?_eq,
        hC.hexDigit?_eq, hD.hexDigit?_eq]

theorem letter?_of_mem
    {pair : Char × Char}
    (hPair : pair ∈ escapes) :
    pair.1.toUInt8 ≠ 'u'.toUInt8 ∧
      letter? pair.1.toUInt8 = some pair.2 := by
  have hAll :
      ∀ pair ∈ escapes,
        pair.1.toUInt8 ≠ 'u'.toUInt8 ∧
          letter? pair.1.toUInt8 = some pair.2 := by
    decide
  exact hAll pair hPair

theorem escape_letter
    {pair : Char × Char}
    (hPair : pair ∈ escapes)
    (rest : Bytes) :
    escape (pair.1.toUInt8 :: rest) = .ok (pair.2, rest) := by
  rcases letter?_of_mem hPair with ⟨hOther, hLetter⟩
  rw [escape, if_neg hOther, hLetter]

/- No character is half of a surrogate pair. -/
theorem not_surrogate (c : Char) :
    isLow c.toNat = false ∧ isHigh c.toNat = false := by
  have hValid : c.toNat.isValidChar := c.valid
  rw [Nat.isValidChar] at hValid
  simp only [isLow, isHigh, Bool.and_eq_false_iff,
    decide_eq_false_iff_not]
  omega

theorem escape_numbered
    {c : Char}
    {digits : Bytes}
    (hDigits : HexQuad digits c.toNat)
    (rest : Bytes) :
    escape ('u'.toUInt8 :: (digits ++ rest)) = .ok (c, rest) := by
  rcases not_surrogate c with ⟨hLow, hHigh⟩
  rw [escape, if_pos rfl, numbered, hDigits.hexQuad_append]
  simp [hLow, hHigh]

/- The halves of a pair are of their kinds and make its character. -/
theorem halves_of_char
    {c : Char}
    (hFar : 0x10000 ≤ c.toNat) :
    let high := 0xD800 + (c.toNat - 0x10000) / 0x400
    let low := 0xDC00 + (c.toNat - 0x10000) % 0x400
    isLow high = false ∧ isHigh high = true ∧ isLow low = true ∧
      pairChar high low = c := by
  have hTop := Utf8.toNat_lt_char c
  refine ⟨?_, ?_, ?_, ?_⟩
  · simp only [isLow, Bool.and_eq_false_iff, decide_eq_false_iff_not]
    omega
  · simp only [isHigh, Bool.and_eq_true, decide_eq_true_eq]
    omega
  · simp only [isLow, Bool.and_eq_true, decide_eq_true_eq]
    omega
  · have hValue :
        0x10000 +
            (0xD800 + (c.toNat - 0x10000) / 0x400 - 0xD800) * 0x400 +
              (0xDC00 + (c.toNat - 0x10000) % 0x400 - 0xDC00) =
          c.toNat := by
      omega
    rw [pairChar, hValue, Char.ofNat_toNat]

theorem escape_paired
    {c : Char}
    {high low : Bytes}
    (hFar : 0x10000 ≤ c.toNat)
    (hHigh : HexQuad high (0xD800 + (c.toNat - 0x10000) / 0x400))
    (hLow : HexQuad low (0xDC00 + (c.toNat - 0x10000) % 0x400))
    (rest : Bytes) :
    escape
        ('u'.toUInt8 ::
          (high ++
            '\\'.toUInt8 :: 'u'.toUInt8 :: (low ++ rest))) =
      .ok (c, rest) := by
  rcases halves_of_char hFar with ⟨hNotLow, hIsHigh, hIsLow, hPair⟩
  rw [escape, if_pos rfl, numbered, hHigh.hexQuad_append]
  simp only [hNotLow, hIsHigh, Bool.false_eq_true, if_false, if_true]
  rw [lowHalf]
  simp [hLow.hexQuad_append, hIsLow, hPair]

end Text

end Json

end PluginStudio

------------------------------------------------------------
-- Texts
------------------------------------------------------------

namespace PluginStudio

namespace Json

namespace Text

/- Bytes of characters that stand for themselves. -/
def Literal (bytes : Bytes) : Prop :=
  ∀ b ∈ bytes,
    b ≠ '"'.toUInt8 ∧ b ≠ '\\'.toUInt8 ∧ ¬ b < 0x20

theorem Plain.literal
    {c : Char}
    (hPlain : Plain c) :
    Literal (Utf8.encodeChar c) := by
  intro b hMem
  by_cases hMany : 0x80 ≤ c.toNat
  · have hHigh := Octets.le_of_mem_encodeChar hMany hMem
    rw [UInt8.lt_iff_toNat_lt]
    refine ⟨?_, ?_, ?_⟩
    · rintro rfl
      exact absurd hHigh (by decide)
    · rintro rfl
      exact absurd hHigh (by decide)
    · change ¬ b.toNat < 0x20
      omega
  · have hOne : c.toNat < 0x80 := by omega
    simp only [Utf8.encodeChar, hOne, if_true,
      List.mem_singleton] at hMem
    have hByte := Utf8.toNat_byte (n := c.toNat) (by omega)
    have hNe :
        ∀ d : Char, d.toNat < 0x80 → c ≠ d → b ≠ d.toUInt8 := by
      intro d hSmall hNe hEq
      have hNat : d.toUInt8.toNat = d.toNat := by
        change d.toNat % 256 = d.toNat
        omega
      apply hNe
      rw [← Char.toNat_inj, ← hByte, ← hMem, hEq, hNat]
    refine ⟨hNe _ (by decide) hPlain.not_quote,
      hNe _ (by decide) hPlain.not_backslash, ?_⟩
    rw [hMem, UInt8.lt_iff_toNat_lt, hByte]
    have := hPlain.printed
    change ¬ c.toNat < 0x20
    omega

theorem contentFrom_literal
    {bytes : Bytes}
    (hLiteral : Literal bytes)
    (read rest : Bytes) :
    contentFrom read (bytes ++ rest) =
      contentFrom (bytes.reverse ++ read) rest := by
  induction bytes generalizing read with
  | nil => rfl
  | cons b bytes ih =>
      rcases hLiteral b (by simp) with ⟨hQuote, hBackslash, hControl⟩
      rw [List.cons_append, contentFrom, if_neg hQuote,
        if_neg hBackslash, if_neg hControl, ih]
      · simp
      · intro b' hMem
        exact hLiteral b' (by simp [hMem])

theorem contentFrom_escape
    {bytes rest : Bytes}
    {c : Char}
    (hEscape : escape bytes = .ok (c, rest))
    (read : Bytes) :
    contentFrom read ('\\'.toUInt8 :: bytes) =
      contentFrom ((Utf8.encodeChar c).reverse ++ read) rest := by
  rw [contentFrom, if_neg (by decide), if_pos rfl]
  split
  · rename_i fault hFault
    rw [hEscape] at hFault
    contradiction
  · rename_i d rest' hOther
    rw [hEscape, Except.ok.injEq, Prod.mk.injEq] at hOther
    rw [hOther.1, hOther.2]

/- However a character is written, it is the character that is read. -/
theorem SpelledChar.contentFrom_append
    {c : Char}
    {bytes : Bytes}
    (hChar : SpelledChar c bytes)
    (read rest : Bytes) :
    contentFrom read (bytes ++ rest) =
      contentFrom ((Utf8.encodeChar c).reverse ++ read) rest := by
  cases hChar with
  | plain hPlain => exact contentFrom_literal hPlain.literal read rest
  | letter hPair =>
      exact contentFrom_escape (escape_letter hPair rest) read
  | numbered hDigits =>
      exact contentFrom_escape (escape_numbered hDigits rest) read
  | paired hFar hHigh hLow =>
      have hEscape := escape_paired hFar hHigh hLow rest
      simpa using contentFrom_escape hEscape read

theorem Spelling.contentFrom_append
    {cs : List Char}
    {bytes : Bytes}
    (hSpelling : Spelling cs bytes)
    (read rest : Bytes) :
    contentFrom read (bytes ++ '"'.toUInt8 :: rest) =
      .ok (read.reverse ++ cs.flatMap Utf8.encodeChar, rest) := by
  induction hSpelling generalizing read with
  | nil =>
      rw [List.nil_append, contentFrom, if_pos rfl]
      simp
  | cons hChar _ ih =>
      rw [List.append_assoc, hChar.contentFrom_append, ih]
      simp

/- A text is read from each of its spellings. -/
theorem scan_spelled
    {s : String}
    {bytes : Bytes}
    (hSpelled : Spelled s bytes)
    (rest : Bytes) :
    scan (bytes ++ '"'.toUInt8 :: rest) = .ok (s, rest) := by
  rw [scan, content, Spelling.contentFrom_append hSpelled]
  simp only [List.reverse_nil, List.nil_append]
  rw [← Utf8.encode, Utf8.decode?_encode]

/- No bytes spell two texts. -/
theorem Spelled.unique
    {s t : String}
    {bytes : Bytes}
    (hLeft : Spelled s bytes)
    (hRight : Spelled t bytes) :
    s = t := by
  have hScan := scan_spelled hLeft []
  rw [scan_spelled hRight [], Except.ok.injEq,
    Prod.mk.injEq] at hScan
  exact hScan.1.symm

/- Four digits are less than the first character that needs a pair. -/
theorem HexQuad.lt
    {digits : Bytes}
    {n : Nat}
    (hDigits : HexQuad digits n) :
    n < 0x10000 := by
  cases hDigits with
  | mk hA hB hC hD =>
      have := hA.small
      have := hB.small
      have := hC.small
      have := hD.small
      omega

/- A number that is no surrogate is that of a character. -/
theorem toNat_ofNat_of_not_surrogate
    {n : Nat}
    (hSmall : n < 0x10000)
    (hLow : isLow n = false)
    (hHigh : isHigh n = false) :
    (Char.ofNat n).toNat = n := by
  simp only [isLow, isHigh, Bool.and_eq_false_iff,
    decide_eq_false_iff_not] at hLow hHigh
  have hValid : n.isValidChar := by
    rw [Nat.isValidChar]
    omega
  rw [Char.ofNat, dif_pos hValid]
  rfl

/- The character of a pair, and its halves again. -/
theorem toNat_pairChar
    {high low : Nat}
    (hHigh : isHigh high = true)
    (hLow : isLow low = true) :
    (pairChar high low).toNat =
      0x10000 + (high - 0xD800) * 0x400 + (low - 0xDC00) := by
  simp only [isLow, isHigh, Bool.and_eq_true,
    decide_eq_true_eq] at hLow hHigh
  have hValid :
      (0x10000 + (high - 0xD800) * 0x400 +
        (low - 0xDC00)).isValidChar := by
    rw [Nat.isValidChar]
    omega
  rw [pairChar, Char.ofNat, dif_pos hValid]
  rfl

theorem SpelledChar.of_pair
    {digits digits' : Bytes}
    {high low : Nat}
    (hDigits : HexQuad digits high)
    (hDigits' : HexQuad digits' low)
    (hHigh : isHigh high = true)
    (hLow : isLow low = true) :
    SpelledChar (pairChar high low)
      ('\\'.toUInt8 :: 'u'.toUInt8 ::
        (digits ++ '\\'.toUInt8 :: 'u'.toUInt8 :: digits')) := by
  have hNat := toNat_pairChar hHigh hLow
  simp only [isLow, isHigh, Bool.and_eq_true,
    decide_eq_true_eq] at hLow hHigh
  have hFirst :
      0xD800 + ((pairChar high low).toNat - 0x10000) / 0x400 =
        high := by
    omega
  have hSecond :
      0xDC00 + ((pairChar high low).toNat - 0x10000) % 0x400 =
        low := by
    omega
  apply SpelledChar.paired
  · omega
  · rw [hFirst]
    exact hDigits
  · rw [hSecond]
    exact hDigits'

/- Only the escape of the other half can follow the first half. -/
theorem lowHalf_ok
    {n : Nat}
    {c : Char}
    {bytes rest : Bytes}
    (hHalf : lowHalf n bytes = .ok (c, rest)) :
    ∃ digits low,
      bytes = '\\'.toUInt8 :: 'u'.toUInt8 :: digits ∧
        hexQuad digits = .ok (low, rest) ∧
          isLow low = true ∧ c = pairChar n low := by
  unfold lowHalf at hHalf
  split at hHalf
  · contradiction
  · split_ifs at hHalf
  · rename_i b b' digits
    split_ifs at hHalf with hFirst hSecond
    rw [not_not] at hFirst hSecond
    split at hHalf
    · contradiction
    · rename_i low rest' hQuad
      split_ifs at hHalf with hLow
      rw [Except.ok.injEq, Prod.mk.injEq] at hHalf
      rw [hFirst, hSecond, ← hHalf.2]
      exact ⟨digits, low, rfl, hQuad, hLow, hHalf.1.symm⟩

/- The escape of a number is that of a character, or half of a pair. -/
theorem escape_digits_ok
    {digits rest rest' : Bytes}
    {n : Nat}
    {c : Char}
    (hDigits : HexQuad digits n)
    (hEscape :
      escape ('u'.toUInt8 :: (digits ++ rest)) = .ok (c, rest')) :
    n = c.toNat ∧ rest' = rest ∨
      isHigh n = true ∧
        ∃ digits' low,
          rest = '\\'.toUInt8 :: 'u'.toUInt8 :: digits' ∧
            hexQuad digits' = .ok (low, rest') ∧
              isLow low = true ∧ c = pairChar n low := by
  rw [escape, if_pos rfl, numbered, hDigits.hexQuad_append] at hEscape
  simp only at hEscape
  split_ifs at hEscape with hLow hHigh
  · exact Or.inr ⟨hHigh, lowHalf_ok hEscape⟩
  · rw [Except.ok.injEq, Prod.mk.injEq] at hEscape
    rw [Bool.not_eq_true] at hLow hHigh
    rw [← hEscape.1, ← hEscape.2,
      toNat_ofNat_of_not_surrogate hDigits.lt hLow hHigh]
    exact Or.inl ⟨rfl, rfl⟩

/- A piece is read by itself, or together with the next one. -/
theorem Piece.contentFrom_ok
    {piece rest : Bytes}
    (hPiece : Piece piece)
    {read raw rest' : Bytes}
    (hRead : contentFrom read (piece ++ rest) = .ok (raw, rest')) :
    (∃ c,
        SpelledChar c piece ∧
          contentFrom ((Utf8.encodeChar c).reverse ++ read) rest =
            .ok (raw, rest')) ∨
      ∃ digits n digits' low after,
        HexQuad digits n ∧ isHigh n = true ∧
          piece = '\\'.toUInt8 :: 'u'.toUInt8 :: digits ∧
          rest = '\\'.toUInt8 :: 'u'.toUInt8 :: digits' ∧
            hexQuad digits' = .ok (low, after) ∧
              isLow low = true ∧
                contentFrom
                    ((Utf8.encodeChar (pairChar n low)).reverse ++
                      read) after =
                  .ok (raw, rest') := by
  cases hPiece with
  | plain hPlain =>
      rw [contentFrom_literal hPlain.literal] at hRead
      exact Or.inl ⟨_, .plain hPlain, hRead⟩
  | letter hPair =>
      have hEscape := escape_letter hPair rest
      rw [List.cons_append, List.cons_append, List.nil_append,
        contentFrom_escape hEscape] at hRead
      exact Or.inl ⟨_, .letter hPair, hRead⟩
  | @numbered digits n hDigits =>
      rw [List.cons_append, List.cons_append] at hRead
      cases hEscape : escape ('u'.toUInt8 :: (digits ++ rest)) with
      | error fault =>
          rw [contentFrom, if_neg (by decide), if_pos rfl] at hRead
          split at hRead
          · contradiction
          · rename_i hOther
            rw [hEscape] at hOther
            contradiction
      | ok result =>
          rcases result with ⟨c, after⟩
          rw [contentFrom_escape hEscape] at hRead
          rcases escape_digits_ok hDigits hEscape with
            ⟨rfl, rfl⟩ |
              ⟨hHigh, digits', low, hRest, hQuad, hLow, hChar⟩
          · exact Or.inl ⟨c, .numbered hDigits, hRead⟩
          · rw [hChar] at hRead
            exact Or.inr ⟨digits, n, digits', low, after, hDigits,
              hHigh, rfl, hRest, hQuad, hLow, hRead⟩

/- The escape of a number can only be a piece of its own. -/
theorem Piece.numbered_of_append_eq
    {piece rest digits : Bytes}
    (hPiece : Piece piece)
    (hEq :
      piece ++ rest = '\\'.toUInt8 :: 'u'.toUInt8 :: digits) :
    ∃ digits' n,
      HexQuad digits' n ∧
        piece = '\\'.toUInt8 :: 'u'.toUInt8 :: digits' ∧
          digits = digits' ++ rest := by
  cases hPiece with
  | @plain c hPlain =>
      cases hBytes : Utf8.encodeChar c with
      | nil =>
          have hRead := Utf8.uncons?_encodeChar c []
          rw [hBytes] at hRead
          contradiction
      | cons b bytes =>
          have hLiteral := hPlain.literal b (by rw [hBytes]; simp)
          rw [hBytes, List.cons_append, List.cons.injEq] at hEq
          exact absurd hEq.1 hLiteral.2.1
  | letter hPair =>
      simp only [List.cons_append, List.cons.injEq] at hEq
      exact absurd hEq.2.1 (letter?_of_mem hPair).1
  | @numbered digits' n hDigits =>
      simp only [List.cons_append, List.cons.injEq, true_and] at hEq
      exact ⟨digits', n, hDigits, rfl, hEq.symm⟩

/- If the bytes are read up to a quote, they spell what is read. -/
def Reads
    (rest bytes : Bytes) : Prop :=
  ∀ read raw rest',
    contentFrom read (bytes ++ '"'.toUInt8 :: rest) =
        .ok (raw, rest') →
      rest' = rest ∧
        ∃ cs,
          Spelling cs bytes ∧
            raw = read.reverse ++ cs.flatMap Utf8.encodeChar

theorem reads_nil (rest : Bytes) : Reads rest [] := by
  intro read raw rest' hRead
  rw [List.nil_append, contentFrom, if_pos rfl] at hRead
  cases hRead
  exact ⟨rfl, [], .nil, by simp⟩

/- One character more is read. -/
theorem Reads.of_char
    {rest bytes bytes' read raw rest' : Bytes}
    {c : Char}
    (hReads : Reads rest bytes)
    (hChar : SpelledChar c bytes')
    (hRead :
      contentFrom ((Utf8.encodeChar c).reverse ++ read)
          (bytes ++ '"'.toUInt8 :: rest) =
        .ok (raw, rest')) :
    rest' = rest ∧
      ∃ cs,
        Spelling cs (bytes' ++ bytes) ∧
          raw = read.reverse ++ cs.flatMap Utf8.encodeChar := by
  rcases hReads _ _ _ hRead with ⟨hRest, cs, hSpelling, hRaw⟩
  refine ⟨hRest, c :: cs, .cons hChar hSpelling, ?_⟩
  rw [hRaw]
  simp

/-
  A well-formed text is read if it spells one.  Since two pieces
  can be read at once, the induction also carries the text with
  one more piece in front of it.
-/
theorem WellFormed.reads
    {bytes : Bytes}
    (hBytes : WellFormed bytes)
    (rest : Bytes) :
    Reads rest bytes ∧
      ∀ piece, Piece piece → Reads rest (piece ++ bytes) := by
  induction hBytes with
  | nil =>
      refine ⟨reads_nil rest, ?_⟩
      intro piece hPiece read raw rest' hRead
      rw [List.append_assoc] at hRead
      rcases hPiece.contentFrom_ok hRead with
        ⟨c, hChar, hRest⟩ | ⟨_, _, _, _, _, _, _, _, hEq, -⟩
      · exact (reads_nil rest).of_char hChar hRest
      · rw [List.nil_append, List.cons.injEq] at hEq
        exact absurd hEq.1 (by decide)
  | @cons piece' bytes hPiece' _ ih =>
      rcases ih with ⟨hReads, hMore⟩
      refine ⟨hMore piece' hPiece', ?_⟩
      intro piece hPiece read raw rest' hRead
      rw [List.append_assoc] at hRead
      rcases hPiece.contentFrom_ok hRead with
        ⟨c, hChar, hRest⟩ |
          ⟨digits, n, digits', low, after, hDigits, hHigh, rfl, hEq,
            hQuad, hLow, hRest⟩
      · exact (hMore piece' hPiece').of_char hChar hRest
      · rw [List.append_assoc] at hEq
        rcases hPiece'.numbered_of_append_eq hEq with
          ⟨digits'', n', hDigits', rfl, rfl⟩
        rw [hDigits'.hexQuad_append, Except.ok.injEq,
          Prod.mk.injEq] at hQuad
        rcases hQuad with ⟨rfl, rfl⟩
        have hPair := SpelledChar.of_pair hDigits hDigits' hHigh hLow
        simpa using hReads.of_char hPair hRest

/-
  Of a well-formed text exactly what it spells is read, if it
  spells anything, and what follows its closing quote is left.
-/
theorem WellFormed.scan_ok_iff
    {bytes : Bytes}
    (hBytes : WellFormed bytes)
    {rest rest' : Bytes}
    {s : String} :
    scan (bytes ++ '"'.toUInt8 :: rest) = .ok (s, rest') ↔
      Spelled s bytes ∧ rest' = rest := by
  constructor
  · intro hScan
    unfold scan content at hScan
    split at hScan
    · contradiction
    · rename_i raw after hRead
      rcases (hBytes.reads rest).1 _ _ _ hRead with
        ⟨rfl, cs, hSpelling, rfl⟩
      have hDecode := Utf8.decode?_encode (String.ofList cs)
      rw [Utf8.encode, String.toList_ofList] at hDecode
      rw [List.reverse_nil, List.nil_append, hDecode] at hScan
      cases hScan
      refine ⟨?_, rfl⟩
      rw [Spelled, String.toList_ofList]
      exact hSpelling
  · rintro ⟨hSpelled, rfl⟩
    exact scan_spelled hSpelled _

theorem skip_literal
    {bytes : Bytes}
    (hLiteral : Literal bytes)
    (rest : Bytes) :
    skip (bytes ++ rest) = skip rest := by
  induction bytes with
  | nil => rfl
  | cons b bytes ih =>
      rcases hLiteral b (by simp) with ⟨hQuote, hBackslash, hControl⟩
      rw [List.cons_append, skip, if_neg hQuote, if_neg hBackslash,
        if_neg hControl, ih]
      intro b' hMem
      exact hLiteral b' (by simp [hMem])

theorem skip_escape
    {bytes rest : Bytes}
    (hEscape : skipEscape bytes = .ok ((), rest)) :
    skip ('\\'.toUInt8 :: bytes) = skip rest := by
  rw [skip, if_neg (by decide), if_pos rfl]
  split
  · rename_i fault hFault
    rw [hEscape] at hFault
    contradiction
  · rename_i rest' hOther
    rw [hEscape, Except.ok.injEq, Prod.mk.injEq] at hOther
    rw [hOther.2]

theorem Piece.skip_append
    {piece : Bytes}
    (hPiece : Piece piece)
    (rest : Bytes) :
    skip (piece ++ rest) = skip rest := by
  cases hPiece with
  | plain hPlain => exact skip_literal hPlain.literal rest
  | letter hPair =>
      rcases letter?_of_mem hPair with ⟨hOther, hLetter⟩
      rw [List.cons_append, List.cons_append, List.nil_append]
      apply skip_escape
      rw [skipEscape, if_neg hOther, hLetter]
  | numbered hDigits =>
      rw [List.cons_append, List.cons_append]
      apply skip_escape
      rw [skipEscape, if_pos rfl, hDigits.hexQuad_append]

/- A well-formed text is passed over, whatever it spells. -/
theorem skip_quoted
    {bytes : Bytes}
    (hBytes : WellFormed bytes)
    (rest : Bytes) :
    skip (bytes ++ '"'.toUInt8 :: rest) = .ok ((), rest) := by
  induction hBytes with
  | nil =>
      rw [List.nil_append, skip, if_pos rfl]
  | cons hPiece _ ih =>
      rw [List.append_assoc, hPiece.skip_append, ih]

end Text

end Json

end PluginStudio

------------------------------------------------------------
-- Numbers
------------------------------------------------------------

namespace PluginStudio

namespace Json

namespace Numeral

theorem isDigit_iff (b : UInt8) :
    isDigit b = true ↔ 0x30 ≤ b ∧ b ≤ 0x39 := by
  simp only [isDigit, Bool.and_eq_true, decide_eq_true_eq]
  rfl

/- A number that ends here does not go on with the bytes. -/
def Stops (bytes : Bytes) : Prop :=
  ∀ b ∈ bytes.head?,
    isDigit b = false ∧ b ≠ '.'.toUInt8 ∧ isPowerMark b = false

theorem dropWhile_digits
    {digits rest : Bytes}
    (hDigits : AllDigits digits)
    (hRest : ∀ b ∈ rest.head?, isDigit b = false) :
    (digits ++ rest).dropWhile isDigit = rest := by
  rw [List.dropWhile_append_of_pos]
  · cases rest with
    | nil => rfl
    | cons b rest =>
        rw [List.dropWhile_cons_of_neg]
        simp [hRest b (by simp)]
  · intro b hMem
    exact (isDigit_iff b).mpr (hDigits b hMem)

/- What comes after the digits of a number is no digit. -/
theorem Power.head
    {power rest : Bytes}
    (hPower : Power power)
    (hStops : Stops rest) :
    ∀ b ∈ (power ++ rest).head?,
      isDigit b = false ∧ b ≠ '.'.toUInt8 := by
  cases hPower with
  | absent =>
      intro b hHead
      rcases hStops b hHead with ⟨hDigit, hPoint, -⟩
      exact ⟨hDigit, hPoint⟩
  | present hMark _ _ =>
      intro b hHead
      rw [List.cons_append, List.head?_cons, Option.mem_some] at hHead
      rcases hMark with rfl | rfl
      · rw [← hHead]
        decide
      · rw [← hHead]
        decide

theorem Fraction.head
    {fraction rest : Bytes}
    (hFraction : Fraction fraction)
    (hRest : ∀ b ∈ rest.head?, isDigit b = false) :
    ∀ b ∈ (fraction ++ rest).head?, isDigit b = false := by
  cases hFraction with
  | absent => exact hRest
  | present _ =>
      intro b hHead
      rw [List.cons_append, List.head?_cons, Option.mem_some] at hHead
      rw [← hHead]
      decide

theorem skipUnsignedPower_digits
    {b : UInt8}
    {digits rest : Bytes}
    (hDigits : AllDigits (b :: digits))
    (hStops : Stops rest) :
    skipUnsignedPower (b :: (digits ++ rest)) = .ok ((), rest) := by
  have hFirst : isDigit b = true :=
    (isDigit_iff b).mpr (hDigits b (by simp))
  have hMore : AllDigits digits := fun d hMem =>
    hDigits d (by simp [hMem])
  rw [skipUnsignedPower, if_pos hFirst, dropWhile_digits hMore]
  exact fun d hHead => (hStops d hHead).1

theorem Power.skipPowerOrEnd_append
    {power rest : Bytes}
    (hPower : Power power)
    (hStops : Stops rest) :
    skipPowerOrEnd (power ++ rest) = .ok ((), rest) := by
  cases hPower with
  | absent =>
      cases rest with
      | nil => rfl
      | cons b rest =>
          rcases hStops b (by simp) with ⟨-, -, hMark⟩
          rw [List.nil_append, skipPowerOrEnd]
          simp [hMark]
  | @present mark b sign digits hMark hSign hDigits =>
      have hPowerMark : isPowerMark mark = true := by
        rcases hMark with rfl | rfl <;> decide
      have hRest := skipUnsignedPower_digits hDigits hStops
      rw [List.cons_append, List.append_assoc, List.cons_append,
        skipPowerOrEnd, if_pos hPowerMark]
      rcases hSign with rfl | rfl | rfl
      · have hNone : ¬ (b = '+'.toUInt8 ∨ b = '-'.toUInt8) := by
          have hDigit := hDigits b (by simp)
          rintro (rfl | rfl)
          · exact absurd hDigit (by decide)
          · exact absurd hDigit (by decide)
        rw [List.nil_append, skipPower, if_neg hNone, hRest]
      · exact hRest
      · exact hRest

theorem skipAfterWhole_append
    {fraction power rest : Bytes}
    (hFraction : Fraction fraction)
    (hPower : Power power)
    (hStops : Stops rest) :
    skipAfterWhole (fraction ++ (power ++ rest)) =
      .ok ((), rest) := by
  have hHead := hPower.head hStops
  have hSkip := hPower.skipPowerOrEnd_append hStops
  cases hFraction with
  | absent =>
      rw [List.nil_append]
      cases hEq : power ++ rest with
      | nil =>
          rw [hEq] at hSkip
          exact hSkip
      | cons b tail =>
          rw [hEq] at hHead hSkip
          rw [skipAfterWhole, if_neg (hHead b (by simp)).2, hSkip]
  | @present b digits hDigits =>
      have hDigit : isDigit b = true :=
        (isDigit_iff b).mpr (hDigits b (by simp))
      have hDrop :=
        dropWhile_digits hDigits (fun d hMem => (hHead d hMem).1)
      rw [List.cons_append, skipAfterWhole, if_pos rfl, skipFraction,
        if_pos (by simp [hDigit]), hDrop, hSkip]

/- A number is passed over up to what it does not go on with. -/
theorem skip_written
    {whole fraction power rest : Bytes}
    (hWhole : Whole whole)
    (hFraction : Fraction fraction)
    (hPower : Power power)
    (hStops : Stops rest) :
    skip (whole ++ (fraction ++ (power ++ rest))) =
      .ok ((), rest) := by
  have hAfter := skipAfterWhole_append hFraction hPower hStops
  have hHead :=
    hFraction.head (fun b hMem => (hPower.head hStops b hMem).1)
  cases hWhole with
  | zero =>
      rw [List.cons_append, List.nil_append, skip,
        if_pos (by decide), if_neg, hAfter]
      cases hEq : fraction ++ (power ++ rest) with
      | nil => simp
      | cons b tail =>
          rw [hEq] at hHead
          simp [hHead b (by simp)]
  | @other b digits hFirst hDigits =>
      have hNonzero : ¬ b = '0'.toUInt8 := by
        rintro rfl
        exact absurd hFirst.1 (by decide)
      have hDigit : isDigit b = true := by
        rw [isDigit_iff]
        exact ⟨UInt8.le_trans (by decide) hFirst.1, hFirst.2⟩
      rw [List.cons_append, skip, if_neg hNonzero, if_pos hDigit,
        dropWhile_digits hDigits hHead, hAfter]

/- Blanks and separators end a number. -/
theorem Stops.of_blanks
    {blanks rest : Bytes}
    (hBlanks : Blanks blanks)
    (hRest : Stops rest) :
    Stops (blanks ++ rest) := by
  cases blanks with
  | nil => exact hRest
  | cons b blanks =>
      intro b' hHead
      have hBlank := hBlanks b (by simp)
      rw [List.cons_append, List.head?_cons, Option.mem_some] at hHead
      rw [← hHead]
      have hAll :
          ∀ b ∈ ([0x20, 0x09, 0x0A, 0x0D] : Bytes),
            isDigit b = false ∧ b ≠ '.'.toUInt8 ∧
              isPowerMark b = false := by
        simp only [List.forall_mem_cons, List.not_mem_nil,
          false_implies, implies_true, and_true]
        decide
      exact hAll b hBlank

end Numeral

end Json

end PluginStudio

------------------------------------------------------------
-- Values
------------------------------------------------------------

namespace PluginStudio

namespace Json

/- A byte that may stand at the beginning of a value. -/
structure Starts (b : UInt8) : Prop where
  not_blank : isBlank b = false
  not_comma : b ≠ ','.toUInt8
  not_close : ∀ frame : Frame, b ≠ frame.close

instance (b : UInt8) : Decidable (Starts b) :=
  decidable_of_iff
    (isBlank b = false ∧ b ≠ ','.toUInt8 ∧
      b ≠ Frame.list.close ∧ b ≠ Frame.object.close)
    ⟨fun h => ⟨h.1, h.2.1, fun frame => by
        cases frame
        · exact h.2.2.1
        · exact h.2.2.2⟩,
      fun h => ⟨h.not_blank, h.not_comma, h.not_close _,
        h.not_close _⟩⟩

theorem starts_of_digit
    {b : UInt8}
    (hDigit : 0x30 ≤ b ∧ b ≤ 0x39) :
    Starts b := by
  have hAll :
      ∀ n < 256,
        0x30 ≤ UInt8.ofNat n ∧ UInt8.ofNat n ≤ 0x39 →
          Starts (UInt8.ofNat n) := by
    decide +kernel
  have hByte := hAll b.toNat b.toNat_lt
  rw [UInt8.ofNat_toNat] at hByte
  exact hByte hDigit

/- The first byte of a number, which tells that it is one. -/
theorem Numeral.Written.head
    {bytes : Bytes}
    (hNumber : Numeral.Written bytes) :
    ∃ b rest, bytes = b :: rest ∧ Starts b ∧ b ≠ '"'.toUInt8 := by
  cases hNumber with
  | mk hSign hWhole hFraction hPower =>
      rcases hSign with rfl | rfl
      · cases hWhole with
        | zero => exact ⟨0x30, _, rfl, by decide, by decide⟩
        | @other b rest hFirst hRest =>
            have hLow : 0x30 ≤ b := UInt8.le_trans (by decide) hFirst.1
            refine ⟨b, _, rfl, starts_of_digit ⟨hLow, hFirst.2⟩, ?_⟩
            rintro rfl
            exact absurd hFirst.1 (by decide)
      · exact ⟨'-'.toUInt8, _, rfl, by decide, by decide⟩

/- A value is not empty, and its first byte tells whether it is a text. -/
theorem Value.head
    {bytes : Bytes}
    (hValue : Value bytes) :
    ∃ b rest,
      bytes = b :: rest ∧ Starts b ∧
        (b = '"'.toUInt8 →
          ∃ text, Text.WellFormed text ∧ bytes = Text.quoted text) := by
  cases hValue with
  | word hWord =>
      simp only [List.mem_cons, List.not_mem_nil, or_false] at hWord
      rcases hWord with rfl | rfl | rfl
      · exact ⟨'n'.toUInt8, _, rfl, by decide,
          fun hQuote => absurd hQuote (by decide)⟩
      · exact ⟨'t'.toUInt8, _, rfl, by decide,
          fun hQuote => absurd hQuote (by decide)⟩
      · exact ⟨'f'.toUInt8, _, rfl, by decide,
          fun hQuote => absurd hQuote (by decide)⟩
  | number hNumber =>
      rcases hNumber.head with ⟨b, rest, hEq, hStarts, hQuote⟩
      exact ⟨b, rest, hEq, hStarts, fun h => absurd h hQuote⟩
  | text hText =>
      exact ⟨'"'.toUInt8, _, rfl, by decide, fun _ => ⟨_, hText, rfl⟩⟩
  | compound frame =>
      cases frame with
      | list =>
          exact ⟨'['.toUInt8, _, rfl, by decide,
            fun hQuote => absurd hQuote (by decide)⟩
      | object =>
          exact ⟨'{'.toUInt8, _, rfl, by decide,
            fun hQuote => absurd hQuote (by decide)⟩

theorem stops_close
    (frame : Frame)
    (rest : Bytes) :
    Numeral.Stops (frame.close :: rest) := by
  intro b hHead
  rw [List.head?_cons, Option.mem_some] at hHead
  rw [← hHead]
  cases frame with
  | list => decide
  | object => decide

theorem stops_texts
    (frame : Frame)
    (items : List Item)
    {rest : Bytes}
    (hRest : Numeral.Stops rest) :
    Numeral.Stops (Item.texts frame false items ++ rest) := by
  cases items with
  | nil => exact hRest
  | cons item items =>
      intro b hHead
      rw [Item.texts, List.cons_append, List.head?_cons,
        Option.mem_some] at hHead
      rw [← hHead]
      decide

/- What follows a value among items ends a number. -/
theorem stops_after
    (frame : Frame)
    {item : Item}
    (hFramed : item.Framed)
    (items : List Item)
    (rest : Bytes) :
    Numeral.Stops
      (item.after ++
        (Item.texts frame false items ++ frame.close :: rest)) :=
  .of_blanks hFramed.after
    (stops_texts frame items (stops_close frame rest))

/- Passing over a name and its colon leads to the value. -/
theorem skipLabel_label
    (frame : Frame)
    {item : Item}
    (hFramed : item.Framed)
    (rest : Bytes) :
    ∃ gap,
      Blanks gap ∧
        frame.skipLabel (item.label frame ++ rest) =
          .ok ((), gap ++ rest) := by
  cases frame with
  | list => exact ⟨item.before, hFramed.before, rfl⟩
  | object =>
      refine ⟨item.gap, hFramed.gap, ?_⟩
      rw [Frame.skipLabel, Item.label, Text.quoted, skipKey]
      simp only [List.append_assoc, List.cons_append, List.nil_append]
      rw [skipBlanks_token hFramed.before (by decide)]
      simp only [if_true]
      rw [Text.skip_quoted hFramed.name]
      exact colon_of_blanks hFramed.between _

namespace Skipping

/- Reading on goes by the next step. -/
theorem run_value_eq
    (frames : List Frame)
    (bytes : Bytes) :
    run (.value frames) bytes =
      match valueStep frames bytes with
      | .error fault => .error fault
      | .ok (state, rest) => run state rest := by
  rw [run]
  split
  · rename_i hStep
    rw [hStep]
  · rename_i hStep
    rw [hStep]

theorem run_separator_eq
    (frame : Frame)
    (frames : List Frame)
    (bytes : Bytes) :
    run (.separator (frame :: frames)) bytes =
      match separatorStep frame frames bytes with
      | .error fault => .error fault
      | .ok (state, rest) => run state rest := by
  rw [run]
  split
  · rename_i hStep
    rw [hStep]
  · rename_i hStep
    rw [hStep]

theorem run_value_blanks
    (frames : List Frame)
    {blanks : Bytes}
    (hBlanks : Blanks blanks)
    (bytes : Bytes) :
    run (.value frames) (blanks ++ bytes) =
      run (.value frames) bytes := by
  rw [run_value_eq, run_value_eq, valueStep, valueStep,
    skipBlanks_append hBlanks]

/- The rest of the items, from after a value to the closing byte. -/
theorem run_items
    (frame : Frame)
    (frames : List Frame)
    (rest : Bytes)
    {items : List Item}
    (hFramed : ∀ item ∈ items, item.Framed)
    (hRun :
      ∀ item ∈ items, ∀ rest, Numeral.Stops rest →
        run (.value (frame :: frames)) (item.value ++ rest) =
          run (.separator (frame :: frames)) rest)
    {blanks : Bytes}
    (hBlanks : Blanks blanks) :
    run (.separator (frame :: frames))
        (blanks ++
          (Item.texts frame false items ++ frame.close :: rest)) =
      run (.separator frames) rest := by
  induction items generalizing blanks with
  | nil =>
      have hStep :
          separatorStep frame frames (blanks ++ frame.close :: rest) =
            .ok (.separator frames, rest) := by
        cases frame with
        | list =>
            rw [separatorStep, skipBlanks_token hBlanks (by decide)]
            rfl
        | object =>
            rw [separatorStep, skipBlanks_token hBlanks (by decide)]
            rfl
      rw [Item.texts, List.nil_append, run_separator_eq, hStep]
  | cons item items ih =>
      rw [List.forall_mem_cons] at hFramed hRun
      have hStops := stops_after frame hFramed.1 items rest
      rcases skipLabel_label frame hFramed.1
          (item.value ++
            (item.after ++
              (Item.texts frame false items ++
                frame.close :: rest))) with
        ⟨gap, hGap, hLabel⟩
      rw [Item.texts, Item.text, List.cons_append, run_separator_eq,
        separatorStep, skipBlanks_token hBlanks (by decide)]
      simp only [List.append_assoc, if_true]
      rw [hLabel]
      simp only
      rw [run_value_blanks _ hGap, hRun.1 _ hStops,
        ih hFramed.2 hRun.2 hFramed.1.after]

/- A list or an object is opened up to its first value. -/
theorem opened_item
    (frame : Frame)
    (frames : List Frame)
    {blanks : Bytes}
    (hBlanks : Blanks blanks)
    {item : Item}
    (hFramed : item.Framed)
    (hValue : Value item.value)
    (rest : Bytes) :
    ∃ gap,
      Blanks gap ∧
        opened frame frames
            (blanks ++ (item.label frame ++ (item.value ++ rest))) =
          .ok (.value (frame :: frames),
            gap ++ (item.value ++ rest)) := by
  cases frame with
  | list =>
      rcases hValue.head with ⟨b, tail, hEq, hStarts, -⟩
      refine ⟨[], blanks_nil, ?_⟩
      rw [Item.label, opened, skipBlanks_append hBlanks, hEq,
        List.cons_append,
        skipBlanks_token hFramed.before hStarts.not_blank]
      simp only
      rw [if_neg (hStarts.not_close .list)]
      rfl
  | object =>
      rcases skipLabel_label .object hFramed
          (item.value ++ rest) with
        ⟨gap, hGap, hLabel⟩
      refine ⟨gap, hGap, ?_⟩
      have hBefore := hFramed.before
      rw [Frame.skipLabel, Item.label, Text.quoted, skipKey] at hLabel
      rw [Item.label, Text.quoted, opened, skipBlanks_append hBlanks]
      simp only [List.append_assoc, List.cons_append,
        List.nil_append] at hLabel ⊢
      rw [skipBlanks_token hBefore (by decide)] at hLabel ⊢
      simp only
      rw [if_neg (by decide), Frame.skipLabel, skipKey]
      rw [skipBlanks_cons (by decide), hLabel]

theorem valueStep_number
    (frames : List Frame)
    {bytes rest : Bytes}
    (hNumber : Numeral.Written bytes)
    (hStops : Numeral.Stops rest) :
    valueStep frames (bytes ++ rest) =
      .ok (.separator frames, rest) := by
  cases hNumber with
  | @mk sign whole fraction power hSign hWhole hFraction hPower =>
      have hSkip :=
        Numeral.skip_written hWhole hFraction hPower hStops
      simp only [List.append_assoc]
      rcases hSign with rfl | rfl
      · -- Without a sign, the first digit is still to be read.
        have hFirst :
            ∃ b tail, whole = b :: tail ∧ 0x30 ≤ b ∧ b ≤ 0x39 := by
          cases hWhole with
          | zero => exact ⟨0x30, [], rfl, by decide, by decide⟩
          | @other b tail hFirst _ =>
              exact ⟨b, tail, rfl,
                UInt8.le_trans (by decide) hFirst.1, hFirst.2⟩
        rcases hFirst with ⟨b, tail, rfl, hDigit⟩
        have hNe :
            ∀ c : UInt8, ¬ (0x30 ≤ c ∧ c ≤ 0x39) → ¬ b = c := by
          rintro c hOther rfl
          exact hOther hDigit
        rw [List.nil_append, List.cons_append, valueStep,
          skipBlanks_cons (starts_of_digit hDigit).not_blank]
        simp only
        rw [if_neg (hNe _ (by decide)), if_neg (hNe _ (by decide)),
          if_neg (hNe _ (by decide)), if_neg (hNe _ (by decide)),
          if_pos ((Numeral.isDigit_iff b).mpr hDigit),
          ← List.cons_append, hSkip]
        rfl
      · rw [List.cons_append, List.nil_append, valueStep,
          skipBlanks_cons (by decide)]
        simp only
        rw [if_neg (by decide), if_neg (by decide),
          if_neg (by decide), if_true, hSkip]
        rfl

theorem valueStep_text
    (frames : List Frame)
    {bytes : Bytes}
    (hText : Text.WellFormed bytes)
    (rest : Bytes) :
    valueStep frames (Text.quoted bytes ++ rest) =
      .ok (.separator frames, rest) := by
  rw [Text.quoted, List.cons_append, List.append_assoc,
    List.cons_append, List.nil_append, valueStep,
    skipBlanks_cons (by decide)]
  simp only
  rw [if_neg (by decide), if_neg (by decide), if_neg (by decide),
    if_neg (by decide), if_neg (by decide), if_true,
    Text.skip_quoted hText]
  rfl

theorem valueStep_opening
    (frame : Frame)
    (frames : List Frame)
    (rest : Bytes) :
    valueStep frames (frame.opening :: rest) =
      opened frame frames rest := by
  cases frame with
  | list => rw [valueStep, skipBlanks_cons (by decide)]; rfl
  | object => rw [valueStep, skipBlanks_cons (by decide)]; rfl

/- A value of any depth is passed over as if it were a scalar. -/
theorem run_value
    {bytes : Bytes}
    (hValue : Value bytes)
    (frames : List Frame)
    {rest : Bytes}
    (hStops : Numeral.Stops rest) :
    run (.value frames) (bytes ++ rest) =
      run (.separator frames) rest := by
  induction hValue generalizing frames rest with
  | word hWord =>
      simp only [List.mem_cons, List.not_mem_nil, or_false] at hWord
      rcases hWord with rfl | rfl | rfl <;>
        rw [run_value_eq] <;> rfl
  | number hNumber =>
      rw [run_value_eq, valueStep_number frames hNumber hStops]
  | text hText => rw [run_value_eq, valueStep_text frames hText]
  | @compound frame blanks items hBlanks hFramed hValues ih =>
      rw [compound, List.cons_append, run_value_eq,
        valueStep_opening]
      simp only [List.append_assoc, List.cons_append, List.nil_append]
      cases items with
      | nil =>
          have hClose :
              opened frame frames (blanks ++ frame.close :: rest) =
                .ok (.separator frames, rest) := by
            cases frame with
            | list =>
                rw [opened, skipBlanks_token hBlanks (by decide)]
                rfl
            | object =>
                rw [opened, skipBlanks_token hBlanks (by decide)]
                rfl
          rw [Item.texts, List.nil_append, hClose]
      | cons item items =>
          rw [List.forall_mem_cons] at hFramed hValues
          have hStops' := stops_after frame hFramed.1 items rest
          rcases opened_item frame frames hBlanks hFramed.1 hValues.1
              (item.after ++
                (Item.texts frame false items ++
                  frame.close :: rest)) with
            ⟨gap, hGap, hOpened⟩
          rw [Item.texts, Item.text]
          simp only [List.append_assoc]
          rw [hOpened]
          simp only
          rw [run_value_blanks _ hGap, ih item (by simp) _ hStops',
            run_items frame frames rest hFramed.2 _ hFramed.1.after]
          intro other hMem rest' hOther
          exact ih other (by simp [hMem]) _ hOther

end Skipping

/- A value is passed over, with what stands in front of it. -/
theorem skip_value
    {blanks bytes rest : Bytes}
    (hBlanks : Blanks blanks)
    (hValue : Value bytes)
    (hStops : Numeral.Stops rest) :
    skip (blanks ++ (bytes ++ rest)) = .ok ((), rest) := by
  rw [skip, Skipping.run_value_blanks _ hBlanks,
    Skipping.run_value hValue _ hStops, Skipping.run]

end Json

end PluginStudio

------------------------------------------------------------
-- Bodies
------------------------------------------------------------

namespace PluginStudio

namespace Json

theorem compound_append
    (frame : Frame)
    (blanks : Bytes)
    (items : List Item)
    (rest : Bytes) :
    compound frame blanks items ++ rest =
      frame.opening ::
        (blanks ++ (Item.texts frame true items ++ frame.close :: rest)) := by
  simp [compound]

/- A body is its opening, and the items after that. -/
theorem Body.skipBlanks_eq
    {frame : Frame}
    {items : List Item}
    {after body : Bytes}
    (hBody : Body frame items after body) :
    ∃ blanks,
      Blanks blanks ∧
        (∀ item ∈ items, item.Framed) ∧
          (∀ item ∈ items, Value item.value) ∧
            skipBlanks body =
              frame.opening ::
                (blanks ++
                  (Item.texts frame true items ++
                    frame.close :: after)) := by
  cases hBody with
  | mk hBefore hCompound =>
      rcases hCompound.written with ⟨blanks, hBlanks, rfl⟩
      refine ⟨blanks, hBlanks, hCompound.framed, hCompound.values, ?_⟩
      have hToken : isBlank frame.opening = false := by
        cases frame <;> decide
      rw [compound_append, skipBlanks_token hBefore hToken]

/- No item says two things. -/
theorem Item.Says.unique
    {item : Item}
    {name name' s s' : String}
    (hLeft : item.Says name s)
    (hRight : item.Says name' s') :
    name = name' ∧ s = s' := by
  rcases hLeft.value with ⟨bytes, hSpelled, hValue⟩
  rcases hRight.value with ⟨bytes', hSpelled', hValue'⟩
  have hEq : bytes = bytes' := by
    rw [hValue, Text.quoted, Text.quoted, List.cons.injEq] at hValue'
    exact List.append_cancel_right hValue'.2
  subst hEq
  exact ⟨hLeft.name.unique hRight.name, hSpelled.unique hSpelled'⟩

end Json

end PluginStudio
