import PluginStudio.Json.Skip

/-
  JSON as it may be written.

  Key definitions include:
    * `PluginStudio.Json.Blanks`
    * `PluginStudio.Json.Text.WellFormed`
    * `PluginStudio.Json.Text.Spelling`
    * `PluginStudio.Json.Numeral.Written`
    * `PluginStudio.Json.Item`
    * `PluginStudio.Json.Item.Tells`
    * `PluginStudio.Json.Item.Says`
    * `PluginStudio.Json.Value`
    * `PluginStudio.Json.Compound`
    * `PluginStudio.Json.Body`

  The grammar is said without any scanner.  A text between quotes
  is well-formed by its bytes alone, and then it may still spell
  nothing, since half of a surrogate pair can stand by itself.
-/

------------------------------------------------------------
-- Blanks
------------------------------------------------------------

namespace PluginStudio

namespace Json

/- Bytes that may stand between tokens. -/
def Blanks (bytes : Bytes) : Prop :=
  ∀ b ∈ bytes, b ∈ ([0x20, 0x09, 0x0A, 0x0D] : Bytes)

instance (bytes : Bytes) : Decidable (Blanks bytes) :=
  List.decidableBAll _ bytes

theorem blanks_nil : Blanks [] := by
  simp [Blanks]

end Json

end PluginStudio

------------------------------------------------------------
-- Texts
------------------------------------------------------------

namespace PluginStudio

namespace Json

namespace Text

/- A hexadecimal digit in either case, and its value. -/
structure HexDigit
    (b : UInt8)
    (n : Nat) : Prop where
  small : n < 16
  written :
    b = (Nat.digitChar n).toUInt8 ∨
      b = (Nat.digitChar n).toUpper.toUInt8

/- Four hexadecimal digits, and their value. -/
inductive HexQuad : Bytes → Nat → Prop where
  | mk
      {a b c d : UInt8} {w x y z : Nat}
      (hA : HexDigit a w)
      (hB : HexDigit b x)
      (hC : HexDigit c y)
      (hD : HexDigit d z) :
      HexQuad [a, b, c, d] (((w * 16 + x) * 16 + y) * 16 + z)

/- The letters of escapes, and the characters they stand for. -/
def escapes : List (Char × Char) :=
  [('"', '"'), ('\\', '\\'), ('/', '/'), ('b', '\x08'),
    ('f', '\x0c'), ('n', '\n'), ('r', '\r'), ('t', '\t')]

/- A character that may stand for itself between quotes. -/
structure Plain (c : Char) : Prop where
  printed : 0x20 ≤ c.toNat
  not_quote : c ≠ '"'
  not_backslash : c ≠ '\\'

instance (c : Char) : Decidable (Plain c) :=
  decidable_of_iff (0x20 ≤ c.toNat ∧ c ≠ '"' ∧ c ≠ '\\')
    ⟨fun h => ⟨h.1, h.2.1, h.2.2⟩,
      fun h => ⟨h.printed, h.not_quote, h.not_backslash⟩⟩

/- The least parts of what may stand between quotes. -/
inductive Piece : Bytes → Prop where
  | plain
      {c : Char}
      (hPlain : Plain c) :
      Piece (Utf8.encodeChar c)
  | letter
      {pair : Char × Char}
      (hPair : pair ∈ escapes) :
      Piece ['\\'.toUInt8, pair.1.toUInt8]
  | numbered
      {digits : Bytes} {n : Nat}
      (hDigits : HexQuad digits n) :
      Piece ('\\'.toUInt8 :: 'u'.toUInt8 :: digits)

/- What may stand between quotes, whether it spells a text or not. -/
inductive WellFormed : Bytes → Prop where
  | nil : WellFormed []
  | cons
      {piece rest : Bytes}
      (hPiece : Piece piece)
      (hRest : WellFormed rest) :
      WellFormed (piece ++ rest)

/- How a character may be written between quotes. -/
inductive SpelledChar : Char → Bytes → Prop where
  | plain
      {c : Char}
      (hPlain : Plain c) :
      SpelledChar c (Utf8.encodeChar c)
  | letter
      {pair : Char × Char}
      (hPair : pair ∈ escapes) :
      SpelledChar pair.2 ['\\'.toUInt8, pair.1.toUInt8]
  | numbered
      {c : Char} {digits : Bytes}
      (hDigits : HexQuad digits c.toNat) :
      SpelledChar c ('\\'.toUInt8 :: 'u'.toUInt8 :: digits)
  | paired
      {c : Char} {high low : Bytes}
      (hFar : 0x10000 ≤ c.toNat)
      (hHigh :
        HexQuad high (0xD800 + (c.toNat - 0x10000) / 0x400))
      (hLow :
        HexQuad low (0xDC00 + (c.toNat - 0x10000) % 0x400)) :
      SpelledChar c
        ('\\'.toUInt8 :: 'u'.toUInt8 ::
          (high ++ '\\'.toUInt8 :: 'u'.toUInt8 :: low))

/- How characters may be written between quotes. -/
inductive Spelling : List Char → Bytes → Prop where
  | nil : Spelling [] []
  | cons
      {c : Char} {cs : List Char} {bytes rest : Bytes}
      (hChar : SpelledChar c bytes)
      (hRest : Spelling cs rest) :
      Spelling (c :: cs) (bytes ++ rest)

/- How a text may be written between quotes. -/
def Spelled
    (s : String)
    (bytes : Bytes) : Prop :=
  Spelling s.toList bytes

/- In quotes. -/
def quoted (bytes : Bytes) : Bytes :=
  '"'.toUInt8 :: (bytes ++ ['"'.toUInt8])

/- Whatever spells a character is well-formed. -/
theorem SpelledChar.wellFormed_append
    {c : Char}
    {bytes rest : Bytes}
    (hChar : SpelledChar c bytes)
    (hRest : WellFormed rest) :
    WellFormed (bytes ++ rest) := by
  cases hChar with
  | plain hPlain => exact .cons (.plain hPlain) hRest
  | letter hPair => exact .cons (.letter hPair) hRest
  | numbered hDigits => exact .cons (.numbered hDigits) hRest
  | @paired _ high low _ hHigh hLow =>
      have hSecond := WellFormed.cons (.numbered hLow) hRest
      have hBoth := WellFormed.cons (.numbered hHigh) hSecond
      simpa using hBoth

/- Whatever spells a text is well-formed. -/
theorem Spelling.wellFormed
    {cs : List Char}
    {bytes : Bytes}
    (hSpelling : Spelling cs bytes) :
    WellFormed bytes := by
  induction hSpelling with
  | nil => exact .nil
  | cons hChar _ ih => exact hChar.wellFormed_append ih

/- Characters that may stand for themselves do. -/
theorem Spelling.of_plain
    {cs : List Char}
    (hPlain : ∀ c ∈ cs, Plain c) :
    Spelling cs (cs.flatMap Utf8.encodeChar) := by
  induction cs with
  | nil => exact .nil
  | cons c cs ih =>
      rw [List.flatMap_cons]
      apply Spelling.cons (.plain (hPlain c (by simp)))
      apply ih
      intro c hMem
      exact hPlain c (by simp [hMem])

theorem spelled_encode
    {s : String}
    (hPlain : s.toList.all fun c => Plain c) :
    Spelled s (Utf8.encode s) := by
  apply Spelling.of_plain
  simpa using hPlain

end Text

end Json

end PluginStudio

------------------------------------------------------------
-- Numbers
------------------------------------------------------------

namespace PluginStudio

namespace Json

namespace Numeral

/- Decimal digits, if any. -/
def AllDigits (bytes : Bytes) : Prop :=
  ∀ b ∈ bytes, 0x30 ≤ b ∧ b ≤ 0x39

/- The digits before the point: no zero stands before others. -/
inductive Whole : Bytes → Prop where
  | zero : Whole [0x30]
  | other
      {b : UInt8} {rest : Bytes}
      (hFirst : 0x31 ≤ b ∧ b ≤ 0x39)
      (hRest : AllDigits rest) :
      Whole (b :: rest)

/- A point with digits after it, if any. -/
inductive Fraction : Bytes → Prop where
  | absent : Fraction []
  | present
      {b : UInt8} {rest : Bytes}
      (hDigits : AllDigits (b :: rest)) :
      Fraction ('.'.toUInt8 :: b :: rest)

/- The power of ten that a number is scaled by, if any. -/
inductive Power : Bytes → Prop where
  | absent : Power []
  | present
      {mark b : UInt8} {sign rest : Bytes}
      (hMark : mark = 'e'.toUInt8 ∨ mark = 'E'.toUInt8)
      (hSign :
        sign = [] ∨ sign = ['+'.toUInt8] ∨ sign = ['-'.toUInt8])
      (hDigits : AllDigits (b :: rest)) :
      Power (mark :: (sign ++ b :: rest))

/- A number. -/
inductive Written : Bytes → Prop where
  | mk
      {sign whole fraction power : Bytes}
      (hSign : sign = [] ∨ sign = ['-'.toUInt8])
      (hWhole : Whole whole)
      (hFraction : Fraction fraction)
      (hPower : Power power) :
      Written (sign ++ (whole ++ (fraction ++ power)))

end Numeral

end Json

end PluginStudio

------------------------------------------------------------
-- Lists And Objects
------------------------------------------------------------

namespace PluginStudio

namespace Json

/- The byte that opens a list or an object. -/
def Frame.opening : Frame → UInt8
  | list => '['.toUInt8
  | object => '{'.toUInt8

/-
  A value in a list or an object, with what is written around it.
  The name, and the blanks on both sides of its colon, are for
  objects only.
-/
structure Item where
  before : Bytes := []
  name : Bytes := []
  between : Bytes := []
  gap : Bytes := []
  value : Bytes
  after : Bytes := []
deriving DecidableEq, Repr

namespace Item

/- What is written in front of the value. -/
def label
    (item : Item) :
    Frame → Bytes
  | .list => item.before
  | .object =>
    item.before ++
      (Text.quoted item.name ++
        (item.between ++ ':'.toUInt8 :: item.gap))

/- The item as a whole. -/
def text
    (frame : Frame)
    (item : Item) : Bytes :=
  item.label frame ++ (item.value ++ item.after)

/- All around the value is as it should be. -/
structure Framed (item : Item) : Prop where
  before : Blanks item.before
  name : Text.WellFormed item.name
  between : Blanks item.between
  gap : Blanks item.gap
  after : Blanks item.after

/- The value of the item is a text. -/
def Tells
    (item : Item)
    (s : String) : Prop :=
  ∃ bytes, Text.Spelled s bytes ∧ item.value = Text.quoted bytes

/- The item gives a text under a name. -/
structure Says
    (item : Item)
    (name s : String) : Prop where
  name : Text.Spelled name item.name
  value : item.Tells s

/- Items, each but the first after a comma. -/
def texts
    (frame : Frame) :
    Bool → List Item → Bytes
  | _, [] => []
  | true, item :: items => item.text frame ++ texts frame false items
  | false, item :: items =>
    ','.toUInt8 :: (item.text frame ++ texts frame false items)

@[simp] theorem texts_nil
    (frame : Frame)
    (first : Bool) :
    texts frame first [] = [] := by
  cases first <;> rfl

end Item

/- A list or an object with some items, and blanks if there are none. -/
def compound
    (frame : Frame)
    (blanks : Bytes)
    (items : List Item) : Bytes :=
  frame.opening ::
    (blanks ++ (Item.texts frame true items ++ [frame.close]))

/- A value of any kind and depth. -/
inductive Value : Bytes → Prop where
  | word
      {letters : String}
      (hWord : letters ∈ ["null", "true", "false"]) :
      Value (Utf8.encode letters)
  | number
      {bytes : Bytes}
      (hNumber : Numeral.Written bytes) :
      Value bytes
  | text
      {bytes : Bytes}
      (hText : Text.WellFormed bytes) :
      Value (Text.quoted bytes)
  | compound
      (frame : Frame)
      {blanks : Bytes} {items : List Item}
      (hBlanks : Blanks blanks)
      (hFramed : ∀ item ∈ items, item.Framed)
      (hValues : ∀ item ∈ items, Value item.value) :
      Value (compound frame blanks items)

/- Bytes that are a list or an object with some items. -/
structure Compound
    (frame : Frame)
    (items : List Item)
    (bytes : Bytes) : Prop where
  written :
    ∃ blanks, Blanks blanks ∧ bytes = compound frame blanks items
  framed : ∀ item ∈ items, item.Framed
  values : ∀ item ∈ items, Value item.value

/- A body that is a list or an object, with anything after it. -/
inductive Body
    (frame : Frame)
    (items : List Item)
    (after : Bytes) :
    Bytes → Prop where
  | mk
      {before bytes : Bytes}
      (hBefore : Blanks before)
      (hCompound : Compound frame items bytes) :
      Body frame items after (before ++ (bytes ++ after))

theorem Body.of_compound
    {frame : Frame}
    {items : List Item}
    {bytes : Bytes}
    (hCompound : Compound frame items bytes) :
    Body frame items [] bytes := by
  have hBody : Body frame items [] ([] ++ (bytes ++ [])) :=
    .mk blanks_nil hCompound
  rw [List.nil_append, List.append_nil] at hBody
  exact hBody

end Json

end PluginStudio
