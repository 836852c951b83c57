import PluginStudio.Json.Fault

/-
  Scanning the text between two quotes.

  Key definitions include:
    * `PluginStudio.Json.Text.hexQuad`
    * `PluginStudio.Json.Text.escape`
    * `PluginStudio.Json.Text.scan`
    * `PluginStudio.Json.Text.skip`

  All scanners here start after the opening quote.  `scan`
  gives the text's content, while `skip` only finds its end
  and asks less of it: surrogates need no partner and bytes
  need not be well-formed.
-/

------------------------------------------------------------
-- Escapes
------------------------------------------------------------

namespace PluginStudio

namespace Json

namespace Text

/- The value of a hexadecimal digit. -/
def hexDigit? (b : UInt8) : Option Nat :=
  if '0'.toUInt8 ≤ b ∧ b ≤ '9'.toUInt8 then
    some (b.toNat - '0'.toNat)
  else if 'a'.toUInt8 ≤ b ∧ b ≤ 'f'.toUInt8 then
    some (b.toNat - 'a'.toNat + 10)
  else if 'A'.toUInt8 ≤ b ∧ b ≤ 'F'.toUInt8 then
    some (b.toNat - 'A'.toNat + 10)
  else
    none

/- The value of four hexadecimal digits. -/
def hexValue?
    (a b c d : UInt8) : Option Nat := do
  let w ← hexDigit? a
  let x ← hexDigit? b
  let y ← hexDigit? c
  let z ← hexDigit? d
  some (((w * 16 + x) * 16 + y) * 16 + z)

/- Four hexadecimal digits. -/
def hexQuad : Bytes → Scan Nat
  | a :: b :: c :: d :: rest =>
    match hexValue? a b c d with
    | some n => .ok (n, rest)
    | none => .error (.here .invalidEscape rest)
  | _ => .error (.here .endInText [])

/- Is the number the first half of a surrogate pair? -/
def isHigh (n : Nat) : Bool :=
  0xD800 ≤ n && n ≤ 0xDBFF

/- Is the number the second half of a surrogate pair? -/
def isLow (n : Nat) : Bool :=
  0xDC00 ≤ n && n ≤ 0xDFFF

/- The character of a surrogate pair. -/
def pairChar (high low : Nat) : Char :=
  Char.ofNat
    (0x10000 + (high - 0xD800) * 0x400 + (low - 0xDC00))

/- The second half of a pair, which is an escape of its own. -/
def lowHalf
    (high : Nat) :
    Bytes → Scan Char
  | [] => .error (.here .endInText [])
  | [b] =>
    if b = '\\'.toUInt8 then
      .error (.here .endInText [])
    else
      .error (.here .unfinishedPair [])
  | b :: b' :: rest =>
    if b ≠ '\\'.toUInt8 then
      .error (.here .unfinishedPair (b' :: rest))
    else if b' ≠ 'u'.toUInt8 then
      .error (.here .unfinishedPair rest)
    else
      match hexQuad rest with
      | .error fault => .error fault
      | .ok (low, rest) =>
        if isLow low then
          .ok (pairChar high low, rest)
        else
          .error (.here .loneSurrogate rest)

/- A character by its number, after the letter of the escape. -/
def numbered (rest : Bytes) : Scan Char :=
  match hexQuad rest with
  | .error fault => .error fault
  | .ok (n, rest) =>
    if isLow n then
      .error (.here .loneSurrogate rest)
    else if isHigh n then
      lowHalf n rest
    else
      .ok (Char.ofNat n, rest)

/- The character that a letter after the backslash stands for. -/
def letter? (b : UInt8) : Option Char :=
  if b = '"'.toUInt8 then some '"'
  else if b = '\\'.toUInt8 then some '\\'
  else if b = '/'.toUInt8 then some '/'
  else if b = 'b'.toUInt8 then some '\x08'
  else if b = 'f'.toUInt8 then some '\x0c'
  else if b = 'n'.toUInt8 then some '\n'
  else if b = 'r'.toUInt8 then some '\r'
  else if b = 't'.toUInt8 then some '\t'
  else none

/- The character of an escape, after the backslash. -/
def escape : Bytes → Scan Char
  | [] => .error (.here .endInText [])
  | b :: rest =>
    if b = 'u'.toUInt8 then
      numbered rest
    else
      match letter? b with
      | some c => .ok (c, rest)
      | none => .error (.here .invalidEscape rest)

/- Pass over an escape, after the backslash. -/
def skipEscape : Bytes → Scan Unit
  | [] => .error (.here .endInText [])
  | b :: rest =>
    if b = 'u'.toUInt8 then
      match hexQuad rest with
      | .error fault => .error fault
      | .ok (_, rest) => .ok ((), rest)
    else
      match letter? b with
      | some _ => .ok ((), rest)
      | none => .error (.here .invalidEscape rest)

/- Four digits are bytes of the text. -/
theorem hexQuad_length_le
    {bytes rest : Bytes}
    {n : Nat}
    (h : hexQuad bytes = .ok (n, rest)) :
    rest.length ≤ bytes.length := by
  unfold hexQuad at h
  split at h
  · split at h
    · cases h
      simp
      omega
    · cases h
  · cases h

/- An escape never grows the unread bytes. -/
theorem escape_length_le
    {bytes rest : Bytes}
    {c : Char}
    (h : escape bytes = .ok (c, rest)) :
    rest.length ≤ bytes.length := by
  unfold escape numbered lowHalf at h
  grind [→ hexQuad_length_le]

/- Passing over an escape never grows the unread bytes. -/
theorem skipEscape_length_le
    {bytes rest : Bytes}
    {u : Unit}
    (h : skipEscape bytes = .ok (u, rest)) :
    rest.length ≤ bytes.length := by
  unfold skipEscape at h
  grind [→ hexQuad_length_le]

end Text

end Json

end PluginStudio

------------------------------------------------------------
-- Texts
------------------------------------------------------------

namespace PluginStudio

namespace Json

namespace Text

/-
  The content's bytes up to the closing quote, in front of
  those already read, which stand in reverse.
-/
def contentFrom
    (read : Bytes)
    (bytes : Bytes) : Scan Bytes :=
  match bytes with
  | [] => .error (.here .endInText [])
  | b :: rest =>
    if b = '"'.toUInt8 then
      .ok (read.reverse, rest)
    else if b = '\\'.toUInt8 then
      match _h : escape rest with
      | .error fault => .error fault
      | .ok (c, rest') =>
        contentFrom ((Utf8.encodeChar c).reverse ++ read) rest'
    else if b < 0x20 then
      .error (.here .controlCharacter rest)
    else
      contentFrom (b :: read) rest
termination_by bytes.length
decreasing_by
  · have := escape_length_le _h
    simp only [List.length_cons]
    omega
  · simp

/- The bytes of a text's content. -/
def content (bytes : Bytes) : Scan Bytes :=
  contentFrom [] bytes

/-
  A text.  Content that is not well-formed is a fault as far
  before the closing quote as its bad part is long.
-/
def scan (bytes : Bytes) : Scan String :=
  match content bytes with
  | .error fault => .error fault
  | .ok (raw, rest) =>
    match Utf8.decode? raw with
    | some s => .ok (s, rest)
    | none =>
      .error
        ⟨.invalidCodePoint,
          rest.length + (raw.length - Utf8.validLength raw)⟩

/- Pass over a text whose content nobody asks for. -/
def skip (bytes : Bytes) : Scan Unit :=
  match bytes with
  | [] => .error (.here .endInText [])
  | b :: rest =>
    if b = '"'.toUInt8 then
      .ok ((), rest)
    else if b = '\\'.toUInt8 then
      match _h : skipEscape rest with
      | .error fault => .error fault
      | .ok (_, rest') => skip rest'
    else if b < 0x20 then
      .error (.here .controlCharacter bytes)
    else
      skip rest
termination_by bytes.length
decreasing_by
  · have := skipEscape_length_le _h
    simp only [List.length_cons]
    omega
  · simp

/- A text's content is followed by fewer bytes. -/
theorem contentFrom_length_lt
    {read bytes raw rest : Bytes}
    (h : contentFrom read bytes = .ok (raw, rest)) :
    rest.length < bytes.length := by
  fun_induction contentFrom read bytes with
  | case1 => cases h
  | case2 => cases h; simp
  | case3 => cases h
  | case4 read r c r' he _ ih =>
    have := escape_length_le he
    have := ih h
    simp only [List.length_cons]
    omega
  | case5 => cases h
  | case6 read b r _ _ _ ih =>
    have := ih h
    simp only [List.length_cons]
    omega

/- A text is followed by fewer bytes. -/
theorem scan_length_lt
    {bytes rest : Bytes}
    {s : String}
    (h : scan bytes = .ok (s, rest)) :
    rest.length < bytes.length := by
  unfold scan content at h
  grind [→ contentFrom_length_lt]

/- A text passed over is followed by fewer bytes. -/
theorem skip_length_lt
    {bytes rest : Bytes}
    {u : Unit}
    (h : skip bytes = .ok (u, rest)) :
    rest.length < bytes.length := by
  fun_induction skip bytes with
  | case1 => cases h
  | case2 => cases h; simp
  | case3 => cases h
  | case4 r c r' he _ ih =>
    have := skipEscape_length_le he
    have := ih h
    simp only [List.length_cons]
    omega
  | case5 => cases h
  | case6 b r _ _ _ ih =>
    have := ih h
    simp only [List.length_cons]
    omega

end Text

end Json

end PluginStudio
