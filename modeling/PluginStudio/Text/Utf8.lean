/-
  Texts as bytes.

  Key definitions include:
    * `PluginStudio.Bytes`
    * `PluginStudio.Utf8.encode`
    * `PluginStudio.Utf8.uncons?`
    * `PluginStudio.Utf8.split`
    * `PluginStudio.Utf8.decode?`
    * `PluginStudio.Utf8.legible`

  A character is one to four bytes.  `uncons?` reads one of
  them and refuses overlong forms, surrogates and values past
  the last code point, so that each character has one written
  form.  `split` reads the longest well-formed beginning.
-/

------------------------------------------------------------
-- Bytes
------------------------------------------------------------

namespace PluginStudio

/- A file's content, a message body, a console's output. -/
abbrev Bytes :=
  List UInt8

end PluginStudio

------------------------------------------------------------
-- Writing Characters
------------------------------------------------------------

namespace PluginStudio

namespace Utf8

/- The byte of a number below 256. -/
def byte (n : Nat) : UInt8 :=
  UInt8.ofNat n

/- The continuation byte for the low six bits of a number. -/
def continuation (n : Nat) : UInt8 :=
  byte (0x80 + n % 0x40)

/- The bytes of one character. -/
def encodeChar (c : Char) : Bytes :=
  let n := c.toNat
  if n < 0x80 then
    [byte n]
  else if n < 0x800 then
    [byte (0xC0 + n / 0x40), continuation n]
  else if n < 0x10000 then
    [byte (0xE0 + n / 0x1000), continuation (n / 0x40), continuation n]
  else
    [byte (0xF0 + n / 0x40000), continuation (n / 0x1000),
      continuation (n / 0x40), continuation n]

/- The bytes of a text. -/
def encode (s : String) : Bytes :=
  s.toList.flatMap encodeChar

end Utf8

end PluginStudio

------------------------------------------------------------
-- Reading Characters
------------------------------------------------------------

namespace PluginStudio

namespace Utf8

/- The six bits that a continuation byte carries. -/
def bits? (b : UInt8) : Option Nat :=
  if 0x80 ≤ b ∧ b < 0xC0 then
    some (b.toNat - 0x80)
  else
    none

/- The character of a number, unless it needs fewer bytes. -/
def scalar?
    (least n : Nat) : Option Char :=
  if least ≤ n ∧ n.isValidChar then
    some (Char.ofNat n)
  else
    none

/- The first character and the bytes after it. -/
def uncons? : Bytes → Option (Char × Bytes)
  | [] => none
  | a :: rest =>
    if a < 0x80 then
      some (Char.ofNat a.toNat, rest)
    else if a < 0xC0 then
      none
    else if a < 0xE0 then
      match rest with
      | b :: rest => do
        let x ← bits? b
        let c ← scalar? 0x80 ((a.toNat - 0xC0) * 0x40 + x)
        some (c, rest)
      | _ => none
    else if a < 0xF0 then
      match rest with
      | b :: b' :: rest => do
        let x ← bits? b
        let y ← bits? b'
        let c ← scalar? 0x800
          (((a.toNat - 0xE0) * 0x40 + x) * 0x40 + y)
        some (c, rest)
      | _ => none
    else
      match rest with
      | b :: b' :: b'' :: rest => do
        let x ← bits? b
        let y ← bits? b'
        let z ← bits? b''
        let c ← scalar? 0x10000
          ((((a.toNat - 0xF0) * 0x40 + x) * 0x40 + y) * 0x40 + z)
        some (c, rest)
      | _ => none

/- A character takes at least one byte. -/
theorem length_lt_of_uncons?
    {bytes rest : Bytes}
    {c : Char}
    (h : uncons? bytes = some (c, rest)) :
    rest.length < bytes.length := by
  unfold uncons? at h
  split at h
  · contradiction
  · repeat' split at h
    all_goals simp [Option.bind_eq_some_iff] at h
    all_goals grind

/- Read characters in front of those already read. -/
def splitFrom
    (read : List Char)
    (bytes : Bytes) : List Char × Bytes :=
  match _h : uncons? bytes with
  | none => (read.reverse, bytes)
  | some (c, rest) => splitFrom (c :: read) rest
termination_by bytes.length
decreasing_by exact length_lt_of_uncons? _h

/-
  The characters of the longest well-formed beginning, and
  the bytes after it.
-/
def split (bytes : Bytes) : List Char × Bytes :=
  splitFrom [] bytes

/- The text of bytes that are well-formed throughout. -/
def decode? (bytes : Bytes) : Option String :=
  match split bytes with
  | (chars, []) => some (String.ofList chars)
  | _ => none

/- Can a byte follow the first byte of a character? -/
def mayFollow (a b : UInt8) : Bool :=
  if a = 0xE0 then 0xA0 ≤ b && b < 0xC0
  else if a = 0xED then 0x80 ≤ b && b < 0xA0
  else if a = 0xF0 then 0x90 ≤ b && b < 0xC0
  else if a = 0xF4 then 0x80 ≤ b && b < 0x90
  else if 0xE0 ≤ a && a < 0xF4 then 0x80 ≤ b && b < 0xC0
  else false

/- How many bytes after the first start a character cut short. -/
def brokenTail : Bytes → Nat
  | a :: b :: c :: _ =>
    if !mayFollow a b then 0
    else if 0xF0 ≤ a && (bits? c).isSome then 2
    else 1
  | [a, b] => if mayFollow a b then 1 else 0
  | _ => 0

/- Stands for bytes that are no character. -/
def replacement : Char := '\ufffd'

/-
  All characters.  Each longest beginning of a character that
  is cut short is replaced as a whole, and other bytes one by
  one.
-/
def legible (bytes : Bytes) : List Char :=
  match _h : uncons? bytes with
  | some (c, rest) => c :: legible rest
  | none =>
    match bytes with
    | [] => []
    | a :: rest => replacement :: legible (rest.drop (brokenTail (a :: rest)))
termination_by bytes.length
decreasing_by
  · exact length_lt_of_uncons? _h
  · simp only [List.length_drop, List.length_cons]
    omega

/- How many bytes the longest well-formed beginning has. -/
def validLength (bytes : Bytes) : Nat :=
  bytes.length - (split bytes).2.length

end Utf8

end PluginStudio
