import Mathlib.Tactic.SplitIfs
import PluginStudio.Json.Printer
import PluginStudio.Proofs.Json.Grammar

/-
  Printed texts and objects are JSON.

  Key definitions include:
    * `PluginStudio.Json.Printer.spell`
    * `PluginStudio.Json.Printer.item`

  Main declarations:
    * `Json.Printer.spelledChar_char`
    * `Json.Printer.spelled_spell`
    * `Json.Printer.encode_object`
    * `Json.Printer.compound_items`

  Whatever the characters of a text are, the printer spells that
  text, and so a printed object says exactly its entries.
-/

------------------------------------------------------------
-- Texts
------------------------------------------------------------

namespace PluginStudio

namespace Json

namespace Printer

/- The bytes of characters. -/
def bytes (cs : List Char) : Bytes :=
  cs.flatMap Utf8.encodeChar

theorem bytes_append
    (cs ds : List Char) :
    bytes (cs ++ ds) = bytes cs ++ bytes ds := by
  simp [bytes]

theorem bytes_digit
    {n : Nat}
    (hSmall : n < 16) :
    Utf8.encodeChar (Nat.digitChar n) =
      [(Nat.digitChar n).toUInt8] := by
  have hAll :
      ∀ n < 16,
        Utf8.encodeChar (Nat.digitChar n) =
          [(Nat.digitChar n).toUInt8] := by
    decide
  exact hAll n hSmall

/- The number of a control character in four digits. -/
theorem spelledChar_numbered
    {c : Char}
    (hControl : c.toNat < 0x20) :
    Text.SpelledChar c (bytes (numbered c)) := by
  have hHigh : c.toNat / 16 < 16 := by omega
  have hLow : c.toNat % 16 < 16 := by omega
  have hZero : Text.HexDigit '0'.toUInt8 0 := ⟨by decide, by decide⟩
  have hDigits :=
    Text.HexQuad.mk hZero hZero ⟨hHigh, Or.inl rfl⟩ ⟨hLow, Or.inl rfl⟩
  have hValue :
      ((0 * 16 + 0) * 16 + c.toNat / 16) * 16 + c.toNat % 16 =
        c.toNat := by
    omega
  rw [hValue] at hDigits
  have hBytes :
      bytes (numbered c) =
        '\\'.toUInt8 :: 'u'.toUInt8 ::
          ['0'.toUInt8, '0'.toUInt8,
            (Nat.digitChar (c.toNat / 16)).toUInt8,
            (Nat.digitChar (c.toNat % 16)).toUInt8] := by
    simp only [bytes, numbered, List.flatMap_cons, List.flatMap_nil,
      bytes_digit hHigh, bytes_digit hLow]
    rfl
  rw [hBytes]
  exact .numbered hDigits

/- Every character is spelled by what is printed for it. -/
theorem spelledChar_char (c : Char) :
    Text.SpelledChar c (bytes (char c)) := by
  unfold char
  split_ifs with hQuote hBackslash hLine hReturn hTab hBack hFeed hControl
  · rw [hQuote]
    exact @Text.SpelledChar.letter ('"', '"') (by decide)
  · rw [hBackslash]
    exact @Text.SpelledChar.letter ('\\', '\\') (by decide)
  · rw [hLine]
    exact @Text.SpelledChar.letter ('n', '\n') (by decide)
  · rw [hReturn]
    exact @Text.SpelledChar.letter ('r', '\r') (by decide)
  · rw [hTab]
    exact @Text.SpelledChar.letter ('t', '\t') (by decide)
  · rw [hBack]
    exact @Text.SpelledChar.letter ('b', '\x08') (by decide)
  · rw [hFeed]
    exact @Text.SpelledChar.letter ('f', '\x0c') (by decide)
  · exact spelledChar_numbered hControl
  · have hBytes : bytes [c] = Utf8.encodeChar c := by
      simp [bytes]
    rw [hBytes]
    exact .plain ⟨Nat.le_of_not_lt hControl, hQuote, hBackslash⟩

/- What is printed between the quotes. -/
def spell (s : String) : Bytes :=
  bytes (s.toList.flatMap char)

theorem spelling_chars (cs : List Char) :
    Text.Spelling cs (bytes (cs.flatMap char)) := by
  induction cs with
  | nil => exact .nil
  | cons c cs ih =>
      rw [List.flatMap_cons, bytes_append]
      exact .cons (spelledChar_char c) ih

theorem spelled_spell (s : String) : Text.Spelled s (spell s) :=
  spelling_chars s.toList

theorem bytes_text (s : String) :
    bytes (text s) = Text.quoted (spell s) := by
  rw [text, bytes_append, Text.quoted, spell]
  rfl

end Printer

end Json

end PluginStudio

------------------------------------------------------------
-- Objects
------------------------------------------------------------

namespace PluginStudio

namespace Json

namespace Printer

/- A printed member as an item of an object. -/
def item (entry : String × String) : Item where
  name := spell entry.1
  value := Text.quoted (spell entry.2)

theorem framed_item (entry : String × String) : (item entry).Framed where
  before := blanks_nil
  name := (spelled_spell entry.1).wellFormed
  between := blanks_nil
  gap := blanks_nil
  after := blanks_nil

theorem says_item (entry : String × String) :
    (item entry).Says entry.1 entry.2 where
  name := spelled_spell entry.1
  value := ⟨spell entry.2, spelled_spell entry.2, rfl⟩

theorem bytes_member (entry : String × String) :
    bytes (member entry) = (item entry).text .object := by
  have hColon :
      ∀ cs, bytes (':' :: cs) = ':'.toUInt8 :: bytes cs :=
    fun _ => rfl
  rw [member, bytes_append, hColon, bytes_text, bytes_text]
  simp [item, Item.text, Item.label]

/- Members with commas between them are items. -/
theorem bytes_members (entries : List (String × String)) :
    bytes (List.intercalate [','] (entries.map member)) =
      Item.texts .object true (entries.map item) := by
  have hComma : bytes [','] = [','.toUInt8] := rfl
  induction entries with
  | nil => rfl
  | cons entry entries ih =>
      cases entries with
      | nil => simp [List.intercalate, Item.texts, bytes_member]
      | cons second entries =>
          rw [List.map_cons, List.map_cons, List.intercalate_cons_cons,
            bytes_append, bytes_append, bytes_member, hComma,
            ← List.map_cons, ih]
          simp [Item.texts]

/- A printed object is an object with its entries as items. -/
theorem encode_object (entries : List (String × String)) :
    Utf8.encode (object entries) =
      compound .object [] (entries.map item) := by
  have hBytes :
      Utf8.encode (object entries) =
        bytes
          (['{'] ++ List.intercalate [','] (entries.map member) ++
            ['}']) := by
    rw [object, Utf8.encode, String.toList_ofList]
    rfl
  rw [hBytes, bytes_append, bytes_append, bytes_members]
  rfl

theorem compound_items
    (frame : Frame)
    (entries : List (String × String)) :
    Compound frame (entries.map item)
      (compound frame [] (entries.map item)) := by
  refine ⟨⟨[], blanks_nil, rfl⟩, ?_, ?_⟩
  · intro item hMem
    rcases List.mem_map.mp hMem with ⟨entry, -, rfl⟩
    exact framed_item entry
  · intro item hMem
    rcases List.mem_map.mp hMem with ⟨entry, -, rfl⟩
    exact .text (spelled_spell entry.2).wellFormed

end Printer

end Json

end PluginStudio
