import Mathlib.Data.List.Forall2
import Mathlib.Tactic.SplitIfs
import PluginStudio.Http.Disposition

/-
  The header that names a plugin's file is well formed.

  Key definitions include:
    * `PluginStudio.Disposition.Printable`
    * `PluginStudio.Disposition.Masks`
    * `PluginStudio.Disposition.AttrChar`
    * `PluginStudio.Disposition.Extended`
    * `PluginStudio.Disposition.written`

  Main declarations:
    * `Disposition.extended_encode`
    * `Disposition.printable_text`
    * `Disposition.value_wellFormed`

  Whatever the characters of a plugin's name are, none of them
  ends the header or the quoted name in it, so its file is always
  named.
-/

------------------------------------------------------------
-- Characters Of A Header
------------------------------------------------------------

namespace PluginStudio

namespace Disposition

/- Is it a space or a visible ASCII character? -/
def Printable (c : Char) : Prop :=
  0x20 ≤ c.toNat ∧ c.toNat ≤ 0x7E

instance (c : Char) : Decidable (Printable c) :=
  inferInstanceAs (Decidable (_ ∧ _))

theorem printable_iff (c : Char) :
    Printable c ↔ ' ' ≤ c ∧ c ≤ '~' := by
  rfl

/-
  A character of the quoted name stands for one of the name that
  is meant.
-/
def Masks (shown meant : Char) : Prop :=
  shown =
    if Printable meant ∧ meant ≠ '"' ∧ meant ≠ '\\' then
      meant
    else
      '_'

theorem masks_iff
    (shown meant : Char) :
    Masks shown meant ↔
      shown = if isQuotable meant then meant else '_' := by
  simp [Masks, isQuotable, printable_iff, and_assoc]

/- Neither the quotes nor an escape can be shown. -/
theorem Masks.notQuote
    {shown meant : Char}
    (hMasks : Masks shown meant) :
    Printable shown ∧ shown ≠ '"' ∧ shown ≠ '\\' := by
  rw [Masks] at hMasks
  split_ifs at hMasks with hMeant
  · exact hMasks ▸ hMeant
  · subst hMasks
    decide

/- The plain form shows every character of a name. -/
theorem masks_plainForm (name : String) :
    List.Forall₂ Masks (plainForm name) name.toList := by
  rw [plainForm, List.forall₂_map_left_iff, List.forall₂_same]
  intro c _
  exact (masks_iff _ c).mpr rfl

theorem mem_plainForm
    {name : String}
    {shown : Char}
    (hMem : shown ∈ plainForm name) :
    ∃ meant, Masks shown meant := by
  rcases List.mem_map.mp hMem with ⟨meant, -, rfl⟩
  exact ⟨meant, (masks_iff _ meant).mpr rfl⟩

end Disposition

end PluginStudio

------------------------------------------------------------
-- Names In Full
------------------------------------------------------------

namespace PluginStudio

namespace Disposition

/- The characters that an extended value may hold as they are. -/
def AttrChar (c : Char) : Prop :=
  ('a' ≤ c ∧ c ≤ 'z') ∨ ('A' ≤ c ∧ c ≤ 'Z') ∨
    ('0' ≤ c ∧ c ≤ '9') ∨ c ∈ "!#$&+-.^_`|~".toList

instance (c : Char) : Decidable (AttrChar c) :=
  inferInstanceAs (Decidable (_ ∨ _))

/- Upper-case hexadecimal digits. -/
def UpperHex (c : Char) : Prop :=
  ('0' ≤ c ∧ c ≤ '9') ∨ ('A' ≤ c ∧ c ≤ 'F')

instance (c : Char) : Decidable (UpperHex c) :=
  inferInstanceAs (Decidable (_ ∨ _))

/- Texts of such characters, and of bytes as two digits. -/
inductive Extended : List Char → Prop where
  | nil : Extended []
  | plain
      {c : Char} {rest : List Char}
      (hPlain : AttrChar c)
      (hRest : Extended rest) :
      Extended (c :: rest)
  | escaped
      {high low : Char} {rest : List Char}
      (hHigh : UpperHex high)
      (hLow : UpperHex low)
      (hRest : Extended rest) :
      Extended ('%' :: high :: low :: rest)

theorem Extended.append
    {cs ds : List Char}
    (hFirst : Extended cs)
    (hNext : Extended ds) :
    Extended (cs ++ ds) := by
  induction hFirst with
  | nil => exact hNext
  | plain hPlain _ ih => exact .plain hPlain ih
  | escaped hHigh hLow _ ih => exact .escaped hHigh hLow ih

theorem isAttrChar_iff (c : Char) :
    isAttrChar c = true ↔ AttrChar c := by
  have hRange :
      ∀ low high : Char,
        (decide (low ≤ c) && decide (c ≤ high)) = true ↔
          low ≤ c ∧ c ≤ high := by
    simp
  have hUpper : c.isUpper = true ↔ 'A' ≤ c ∧ c ≤ 'Z' :=
    decide_eq_true_iff
  have hLower : c.isLower = true ↔ 'a' ≤ c ∧ c ≤ 'z' :=
    hRange 'a' 'z'
  have hDigit : c.isDigit = true ↔ '0' ≤ c ∧ c ≤ '9' :=
    hRange '0' '9'
  have hAlphanum :
      c.isAlphanum = true ↔
        (c.isUpper = true ∨ c.isLower = true) ∨ c.isDigit = true := by
    change ((c.isUpper || c.isLower) || c.isDigit) = true ↔ _
    rw [Bool.or_eq_true, Bool.or_eq_true]
  rw [isAttrChar, AttrChar, Bool.or_eq_true, hAlphanum, hUpper, hLower,
    hDigit, List.contains_iff_mem, or_assoc, or_assoc]
  exact or_left_comm

theorem upperHex_digit
    {n : Nat}
    (hSmall : n < 16) :
    UpperHex (Percent.digit n) := by
  have hAll : ∀ n < 16, UpperHex (Percent.digit n) := by decide
  exact hAll n hSmall

/- One byte, as itself or as two digits. -/
theorem extended_encodeByte (b : UInt8) :
    Extended (Percent.encodeByte isAttrChar b) := by
  have hByte := b.toNat_lt
  rw [Percent.encodeByte]
  split_ifs with hPlain
  · rw [Bool.and_eq_true, isAttrChar_iff] at hPlain
    exact .plain hPlain.2 .nil
  · exact .escaped (upperHex_digit (by omega))
      (upperHex_digit (by omega)) .nil

/- So all bytes of a name can be given. -/
theorem extended_encode (s : String) :
    Extended (Percent.encode isAttrChar s) := by
  rw [Percent.encode]
  induction Utf8.encode s with
  | nil => exact .nil
  | cons b bytes ih =>
      rw [List.flatMap_cons]
      exact (extended_encodeByte b).append ih

end Disposition

end PluginStudio

------------------------------------------------------------
-- The Whole Header
------------------------------------------------------------

namespace PluginStudio

namespace Disposition

theorem printable_of_range
    {low high c : Char}
    (hLow : ' ' ≤ low)
    (hHigh : high ≤ '~')
    (hRange : low ≤ c ∧ c ≤ high) :
    Printable c :=
  (printable_iff c).mpr
    ⟨Char.le_trans hLow hRange.1, Char.le_trans hRange.2 hHigh⟩

/- A text that is given is looked through. -/
theorem printable_of_all
    {cs : List Char}
    (hAll : (cs.all fun c => decide (Printable c)) = true)
    {c : Char}
    (hMem : c ∈ cs) :
    Printable c :=
  of_decide_eq_true (List.all_eq_true.mp hAll c hMem)

theorem AttrChar.printable
    {c : Char}
    (hPlain : AttrChar c) :
    Printable c := by
  rcases hPlain with hRange | hRange | hRange | hMark
  · exact printable_of_range (by decide) (by decide) hRange
  · exact printable_of_range (by decide) (by decide) hRange
  · exact printable_of_range (by decide) (by decide) hRange
  · exact printable_of_all (by decide) hMark

theorem UpperHex.attrChar
    {c : Char}
    (hDigit : UpperHex c) :
    AttrChar c := by
  rcases hDigit with hRange | hRange
  · exact .inr (.inr (.inl hRange))
  · exact .inr (.inl ⟨hRange.1, Char.le_trans hRange.2 (by decide)⟩)

/- Only the sign before two digits is no such character itself. -/
theorem Extended.attrChar_or
    {cs : List Char}
    (hExtended : Extended cs)
    {c : Char}
    (hMem : c ∈ cs) :
    AttrChar c ∨ c = '%' := by
  induction hExtended with
  | nil => simp at hMem
  | plain hPlain _ ih =>
      rcases List.mem_cons.mp hMem with rfl | hMem
      · exact .inl hPlain
      · exact ih hMem
  | escaped hHigh hLow _ ih =>
      simp only [List.mem_cons] at hMem
      rcases hMem with rfl | rfl | rfl | hMem
      · exact .inr rfl
      · exact .inl hHigh.attrChar
      · exact .inl hLow.attrChar
      · exact ih hMem

theorem Extended.printable
    {cs : List Char}
    (hExtended : Extended cs)
    {c : Char}
    (hMem : c ∈ cs) :
    Printable c := by
  rcases hExtended.attrChar_or hMem with hPlain | rfl
  · exact hPlain.printable
  · decide

/- A header with a quoted name, and perhaps with one in full. -/
def written
    (plain : String)
    (full? : Option String) : String :=
  "attachment; filename=\"" ++ plain ++ "\"" ++
    full?.elim "" fun full => "; filename*=UTF-8''" ++ full

/- The name in full, where the quoted one would lose characters. -/
def full? (plugin : String) : Option String :=
  if isAscii (fileName plugin) then
    none
  else
    some (String.ofList (Percent.encode isAttrChar (fileName plugin)))

theorem ofList_extendedPart (plugin : String) :
    String.ofList (extendedPart (fileName plugin)) =
      (full? plugin).elim "" fun full =>
        "; filename*=UTF-8''" ++ full := by
  rw [extendedPart, full?]
  split_ifs
  · rfl
  · rw [Option.elim_some, String.ofList_append, String.ofList_toList]

theorem text_eq_written (plugin : String) :
    text plugin =
      written (String.ofList (plainForm (fileName plugin)))
        (full? plugin) := by
  unfold text written
  rw [← ofList_extendedPart, String.ofList_append,
    String.ofList_append, String.ofList_toList,
    ← List.singleton_append, String.ofList_append]
  simp only [String.append_assoc]

theorem isSome_full?_iff (plugin : String) :
    (full? plugin).isSome = true ↔
      ∃ c ∈ plugin.toList, 0x80 ≤ c.toNat := by
  have hAscii :
      isAscii (fileName plugin) = true ↔
        ∀ c ∈ plugin.toList, c.toNat < 0x80 := by
    simp [isAscii, fileName]
  rw [full?]
  split_ifs with hPlain
  · rw [hAscii] at hPlain
    simpa using hPlain
  · rw [hAscii] at hPlain
    simpa using hPlain

theorem extended_of_mem_full?
    {plugin full : String}
    (hFull : full ∈ full? plugin) :
    Extended full.toList := by
  rw [full?, Option.mem_def] at hFull
  split_ifs at hFull
  rw [← Option.some.inj hFull, String.toList_ofList]
  exact extended_encode _

/- Nothing in the header is a control character. -/
theorem printable_text
    {plugin : String}
    {c : Char}
    (hMem : c ∈ (text plugin).toList) :
    Printable c := by
  rw [text_eq_written] at hMem
  unfold written at hMem
  simp only [String.toList_append, String.toList_ofList,
    List.mem_append] at hMem
  rcases hMem with ((hMem | hMem) | hMem) | hMem
  · exact printable_of_all (by decide +kernel) hMem
  · rcases mem_plainForm hMem with ⟨meant, hMasks⟩
    exact hMasks.notQuote.1
  · exact printable_of_all (by decide) hMem
  · cases hFull : full? plugin with
    | none => simp [hFull] at hMem
    | some full =>
        simp only [hFull, Option.elim_some, String.toList_append,
          List.mem_append] at hMem
        rcases hMem with hMem | hMem
        · exact printable_of_all (by decide +kernel) hMem
        · exact (extended_of_mem_full? hFull).printable hMem

theorem isHeaderText_text (plugin : String) :
    isHeaderText (text plugin) = true := by
  rw [isHeaderText, List.all_eq_true]
  intro c hMem
  have hPrintable := (printable_iff c).mp (printable_text hMem)
  simp [hPrintable]

theorem value_eq_text (plugin : String) :
    value plugin = text plugin := by
  rw [value, if_pos (isHeaderText_text plugin)]

/-
  The header of any plugin can be sent.  It has a quoted name that
  shows each character of the file's name or an underscore in its
  place, and for a name that is not ASCII another that gives all
  of its bytes.
-/
theorem value_wellFormed (plugin : String) :
    isHeaderText (text plugin) = true ∧
      value plugin = text plugin ∧
        (∀ c ∈ (value plugin).toList, Printable c) ∧
          ∃ plain full?,
            value plugin = written plain full? ∧
              ('"' ∉ plain.toList ∧ '\\' ∉ plain.toList) ∧
                List.Forall₂ Masks plain.toList
                    (plugin ++ ".jar").toList ∧
                  (full?.isSome = true ↔
                      ∃ c ∈ plugin.toList, 0x80 ≤ c.toNat) ∧
                    ∀ full ∈ full?, Extended full.toList := by
  have hValue := value_eq_text plugin
  have hQuoted :
      ∀ c ∈ plainForm (fileName plugin), c ≠ '"' ∧ c ≠ '\\' := by
    intro c hMem
    rcases mem_plainForm hMem with ⟨meant, hMasks⟩
    exact hMasks.notQuote.2
  refine ⟨isHeaderText_text plugin, hValue, ?_,
    String.ofList (plainForm (fileName plugin)), full? plugin, ?_, ?_,
    ?_, isSome_full?_iff plugin, fun full => extended_of_mem_full?⟩
  · rw [hValue]
    exact fun c => printable_text
  · rw [hValue, text_eq_written]
  · rw [String.toList_ofList]
    exact ⟨fun hMem => (hQuoted _ hMem).1 rfl,
      fun hMem => (hQuoted _ hMem).2 rfl⟩
  · rw [String.toList_ofList, ← fileName]
    exact masks_plainForm (fileName plugin)

/- A name that would end the header, and another of one letter. -/
example :
    value "a\r\n\"\\b" =
        "attachment; filename=\"a____b.jar\"" ∧
      value "é" =
        "attachment; filename=\"_.jar\"; filename*=UTF-8''%C3%A9.jar" := by
  decide +kernel

end Disposition

end PluginStudio
