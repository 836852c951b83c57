import Mathlib.Data.Set.Function
import PluginStudio.Proofs.Http.Attachment
import PluginStudio.Proofs.Text.Validity

/-
  The name of a plugin is recovered from the header of its file.

  Key definitions include:
    * `PluginStudio.Text.afterLast?`
    * `PluginStudio.Disposition.quoted?`
    * `PluginStudio.Disposition.quotedName?`
    * `PluginStudio.Disposition.fullName?`
    * `PluginStudio.Disposition.Foreign`
    * `PluginStudio.Disposition.Quotable`

  Main declarations:
    * `Percent.decode_encode`
    * `Text.afterLast?_eq_some_iff`
    * `Disposition.quoted?_written`
    * `Disposition.afterLast?_written`
    * `Disposition.value_recoverable`

  Who receives a header finds the quoted name between its quotes,
  and the name in full behind the last mark of its encoding.  A
  plugin's own name may hold either delimiter, or escapes.
-/

------------------------------------------------------------
-- Bytes Behind Percent Signs
------------------------------------------------------------

namespace PluginStudio

namespace Percent

theorem decode_cons_of_ne
    {b : UInt8}
    (hOther : b ≠ '%'.toUInt8)
    (rest : Bytes) :
    decode (b :: rest) = b :: decode rest := by
  match rest with
  | [] => rfl
  | [_] => rfl
  | _ :: _ :: _ => rw [decode, if_neg hOther]

theorem digit?_digit
    {n : Nat}
    (hSmall : n < 16) :
    digit? (Utf8.byte (digit n).toNat) = some n := by
  have hAll : ∀ n < 16, digit? (Utf8.byte (digit n).toNat) = some n := by
    decide
  exact hAll n hSmall

theorem digit_lt
    {n : Nat}
    (hSmall : n < 16) :
    (digit n).toNat < 0x80 := by
  have hAll : ∀ n < 16, (digit n).toNat < 0x80 := by decide
  exact hAll n hSmall

/- A byte is the byte of its two digits. -/
theorem byte?_digits (b : UInt8) :
    byte? (Utf8.byte (digit (b.toNat / 16)).toNat)
        (Utf8.byte (digit (b.toNat % 16)).toNat) =
      some b := by
  have hByte := b.toNat_lt
  have hValue : b.toNat / 16 * 16 + b.toNat % 16 = b.toNat := by omega
  rw [byte?, digit?_digit (by omega), digit?_digit (by omega)]
  change some (UInt8.ofNat (b.toNat / 16 * 16 + b.toNat % 16)) = some b
  rw [hValue, UInt8.ofNat_toNat]

section Plain

variable {plain : Char → Bool} (hPlain : plain '%' = false)

include hPlain

/- One byte is read back, whatever follows it. -/
theorem decode_encodeByte
    (b : UInt8)
    (rest : Bytes) :
    decode ((encodeByte plain b).flatMap Utf8.encodeChar ++ rest) =
      b :: decode rest := by
  rw [encodeByte]
  split_ifs with hItself
  · rw [Bool.and_eq_true, decide_eq_true_iff, UInt8.lt_iff_toNat_lt]
      at hItself
    have hOther : b ≠ '%'.toUInt8 := by
      rintro rfl
      rw [show Char.ofNat ('%'.toUInt8).toNat = '%' from rfl, hPlain]
        at hItself
      exact Bool.false_ne_true hItself.2
    have hBytes :
        [Char.ofNat b.toNat].flatMap Utf8.encodeChar = [b] := by
      rw [List.flatMap_singleton,
        Utf8.encodeChar_of_lt (by
          rw [Octets.toNat_ofNat_byte]
          exact hItself.1),
        Octets.toNat_ofNat_byte, Utf8.byte, UInt8.ofNat_toNat]
    rw [hBytes, List.singleton_append, decode_cons_of_ne hOther]
  · have hByte := b.toNat_lt
    have hBytes :
        (escaped b).flatMap Utf8.encodeChar =
          ['%'.toUInt8, Utf8.byte (digit (b.toNat / 16)).toNat,
            Utf8.byte (digit (b.toNat % 16)).toNat] := by
      rw [escaped, List.flatMap_cons, List.flatMap_cons,
        List.flatMap_singleton, Utf8.encodeChar_of_lt (by decide),
        Utf8.encodeChar_of_lt (digit_lt (by omega)),
        Utf8.encodeChar_of_lt (digit_lt (by omega))]
      rfl
    rw [hBytes]
    simp only [List.cons_append, List.nil_append]
    rw [decode, if_pos rfl, byte?_digits]

/- The bytes of a text are read back. -/
theorem decode_encode (s : String) :
    decode (Utf8.encode (String.ofList (encode plain s))) =
      Utf8.encode s := by
  change decode ((String.ofList (encode plain s)).toList.flatMap _) = _
  rw [String.toList_ofList, encode]
  induction Utf8.encode s with
  | nil => rfl
  | cons b bytes ih =>
      rw [List.flatMap_cons, List.flatMap_append,
        decode_encodeByte hPlain, ih]

end Plain

end Percent

end PluginStudio

------------------------------------------------------------
-- First And Last Occurrences
------------------------------------------------------------

namespace PluginStudio

namespace Text

/- What follows the last occurrence of a part in a text. -/
def afterLast?
    (part text : List Char) : Option (List Char) :=
  (text.reverse.dropInfix? part.reverse).map fun found =>
    found.1.reverse

/- It is an occurrence, and every other has more after it. -/
theorem afterLast?_eq_some_iff
    {part text rest : List Char} :
    afterLast? part text = some rest ↔
      (∃ before, text = before ++ part ++ rest) ∧
        ∀ before' rest', text = before' ++ part ++ rest' →
          rest.length ≤ rest'.length := by
  simp only [afterLast?, Option.map_eq_some_iff, Prod.exists,
    List.dropInfix?_eq_some_iff, beq_iff_eq]
  constructor
  · rintro ⟨revRest, revBefore, ⟨⟨_, hText, rfl⟩, hLeast⟩, rfl⟩
    refine ⟨⟨revBefore.reverse, ?_⟩, ?_⟩
    · simpa using congrArg List.reverse hText
    · intro before' rest' hOther
      have := hLeast rest'.reverse part.reverse before'.reverse
        (by simp [hOther]) rfl
      simpa using this
  · rintro ⟨⟨before, rfl⟩, hLeast⟩
    refine ⟨rest.reverse, before.reverse, ⟨⟨_, by simp, rfl⟩, ?_⟩,
      List.reverse_reverse rest⟩
    rintro revRest _ revBefore hOther rfl
    have := hLeast revBefore.reverse revRest.reverse
      (by simpa using congrArg List.reverse hOther)
    simpa using this

/- A part occurs last where its last character does. -/
theorem afterLast?_append
    {mark : Char}
    {rest : List Char}
    (hMark : mark ∉ rest)
    (before stem : List Char) :
    afterLast? (stem ++ [mark]) (before ++ (stem ++ [mark]) ++ rest) =
      some rest := by
  refine afterLast?_eq_some_iff.mpr ⟨⟨before, rfl⟩, ?_⟩
  intro before' rest' hText
  rcases List.append_eq_append_iff.mp hText with
    ⟨more, hMore, rfl⟩ | ⟨more, -, rfl⟩
  · rcases List.eq_nil_or_concat more with rfl | ⟨more, c, rfl⟩
    · simp
    · -- the other occurrence would end inside of `rest`
      simp only [List.concat_eq_append, ← List.append_assoc] at hMore
      obtain rfl := (List.append_singleton_inj.mp hMore).2
      simp at hMark
  · simp

/- And it occurs first where its first character does. -/
theorem dropInfix?_append
    {mark : Char}
    {before : List Char}
    (hMark : mark ∉ before)
    (stem rest : List Char) :
    (before ++ (mark :: stem) ++ rest).dropInfix? (mark :: stem) =
      some (before, rest) := by
  refine List.dropInfix?_eq_some_iff.mpr
    ⟨⟨_, rfl, beq_self_eq_true _⟩, ?_⟩
  intro before' part rest' hText hPart
  obtain rfl := beq_iff_eq.mp hPart
  rw [List.append_assoc, List.append_assoc] at hText
  rcases List.append_eq_append_iff.mp hText with
    ⟨more, rfl, -⟩ | ⟨more, rfl, hMore⟩
  · simp
  · cases more with
    | nil => simp
    | cons c more =>
        -- the other occurrence would start inside of `before`
        obtain rfl := (List.cons.inj hMore).1
        simp at hMark

end Text

end PluginStudio

------------------------------------------------------------
-- Reading Headers
------------------------------------------------------------

namespace PluginStudio

namespace Disposition

/- The quoted name in a header, and all that follows its quotes. -/
def quoted? (header : String) : Option (String × String) := do
  let (_, quoted) ← header.toList.dropInfix? "filename=\"".toList
  let (name, rest) ← quoted.dropInfix? ['"']
  return (String.ofList name, String.ofList rest)

/- The quoted name in a header. -/
def quotedName? (header : String) : Option String :=
  (quoted? header).map Prod.fst

/-
  The name that a header gives in full: escaped, behind the last
  mark of its encoding.
-/
def fullName? (header : String) : Option String := do
  let escaped ← Text.afterLast? "UTF-8''".toList header.toList
  Utf8.decode? (Percent.decode (Utf8.encode (String.ofList escaped)))

/- What may follow the quoted name. -/
def extension (full? : Option String) : String :=
  full?.elim "" fun full => "; filename*=UTF-8''" ++ full

/- A name without quotes ends where the header closes them. -/
theorem quoted?_written
    {plain : String}
    (hPlain : '"' ∉ plain.toList)
    (full? : Option String) :
    quoted? (written plain full?) = some (plain, extension full?) := by
  have hOpen :
      "attachment; filename=\"".toList =
        "attachment; ".toList ++ 'f' :: "ilename=\"".toList := by
    decide
  have hName : "filename=\"".toList = 'f' :: "ilename=\"".toList := by
    decide
  have hClose : "\"".toList = ['"'] := by decide
  have hWritten :
      written plain full? =
        "attachment; filename=\"" ++ plain ++ "\"" ++ extension full? :=
    rfl
  have hHeader :
      (written plain full?).toList =
        "attachment; ".toList ++ ('f' :: "ilename=\"".toList) ++
          (plain.toList ++ ['"'] ++ (extension full?).toList) := by
    simp only [hWritten, String.toList_append, hOpen, hClose,
      List.append_assoc]
  rw [quoted?, hHeader, hName, Text.dropInfix?_append (by decide)]
  simp only [Option.bind_eq_bind, Option.bind_some]
  rw [Text.dropInfix?_append hPlain]
  simp

/- Text without the mark of an encoding comes after the last one. -/
theorem afterLast?_written
    {full : String}
    (hFull : '\'' ∉ full.toList)
    (plain : String) :
    Text.afterLast? "UTF-8''".toList (written plain (some full)).toList =
      some full.toList := by
  have hMark : "UTF-8''".toList = "UTF-8'".toList ++ ['\''] := by decide
  have hParameter :
      ("; filename*=UTF-8''" ++ full).toList =
        "; filename*=".toList ++ ("UTF-8'".toList ++ ['\'']) ++
          full.toList := by
    rw [String.toList_append]
    congr 1
  have hWritten :
      written plain (some full) =
        "attachment; filename=\"" ++ plain ++ "\"" ++
          ("; filename*=UTF-8''" ++ full) :=
    rfl
  rw [hWritten, String.toList_append, hParameter, hMark,
    ← List.append_assoc, ← List.append_assoc]
  exact Text.afterLast?_append hFull _ _

end Disposition

end PluginStudio

------------------------------------------------------------
-- Names Recovered
------------------------------------------------------------

namespace PluginStudio

namespace Disposition

/- Names that are not ASCII. -/
def Foreign (name : String) : Prop :=
  ∃ c ∈ name.toList, 0x80 ≤ c.toNat

/- Names that stand between quotes as they are. -/
def Quotable (name : String) : Prop :=
  ∀ c ∈ name.toList, Printable c ∧ c ≠ '"' ∧ c ≠ '\\'

instance (name : String) : Decidable (Quotable name) :=
  List.decidableBAll _ name.toList

theorem quoted?_value (plugin : String) :
    quoted? (value plugin) =
      some (String.ofList (plainForm (fileName plugin)),
        extension (full? plugin)) := by
  rw [value_eq_text, text_eq_written]
  refine quoted?_written ?_ _
  rw [String.toList_ofList]
  intro hMem
  obtain ⟨meant, hMasks⟩ := mem_plainForm hMem
  exact hMasks.notQuote.2.1 rfl

theorem full?_of_foreign
    {plugin : String}
    (hForeign : Foreign plugin) :
    full? plugin =
      some (String.ofList
        (Percent.encode isAttrChar (fileName plugin))) := by
  have hSome := (isSome_full?_iff plugin).mpr hForeign
  rw [full?] at hSome ⊢
  split_ifs at hSome ⊢
  · contradiction
  · rfl

theorem full?_of_quotable
    {plugin : String}
    (hQuotable : Quotable plugin) :
    full? plugin = none := by
  rw [← Option.not_isSome_iff_eq_none, isSome_full?_iff]
  rintro ⟨c, hMem, hHigh⟩
  have := (hQuotable c hMem).1.2
  omega

theorem quotable_fileName
    {plugin : String}
    (hQuotable : Quotable plugin) :
    Quotable (fileName plugin) := by
  have hEnding : Quotable ".jar" := by decide
  intro c hMem
  rw [fileName, String.toList_append, List.mem_append] at hMem
  rcases hMem with hMem | hMem
  · exact hQuotable c hMem
  · exact hEnding c hMem

/- No character of a name that can be quoted is masked. -/
theorem plainForm_of_quotable
    {name : String}
    (hQuotable : Quotable name) :
    plainForm name = name.toList := by
  have hShown :
      ∀ c ∈ name.toList, (if isQuotable c then c else '_') = c := by
    intro c hMem
    have hMasks : Masks c c := by
      rw [Masks, if_pos (hQuotable c hMem)]
    exact ((masks_iff c c).mp hMasks).symm
  rw [plainForm, List.map_congr_left hShown, List.map_id']

/- What is escaped holds no mark that could end the encoding's. -/
theorem mark_notMem_encode (s : String) :
    '\'' ∉ Percent.encode isAttrChar s := by
  intro hMem
  rcases (extended_encode s).attrChar_or hMem with hPlain | hSign
  · revert hPlain
    decide
  · revert hSign
    decide

/- A name that is not ASCII is given in full. -/
theorem fullName?_value
    {plugin : String}
    (hForeign : Foreign plugin) :
    fullName? (value plugin) = some (fileName plugin) := by
  have hMark :
      '\'' ∉ (String.ofList
        (Percent.encode isAttrChar (fileName plugin))).toList := by
    rw [String.toList_ofList]
    exact mark_notMem_encode (fileName plugin)
  rw [fullName?, value_eq_text, text_eq_written,
    full?_of_foreign hForeign, afterLast?_written hMark]
  simp only [Option.bind_eq_bind, Option.bind_some, String.ofList_toList]
  rw [Percent.decode_encode (by decide), Utf8.decode?_encode]

/- A name that can be quoted is. -/
theorem quotedName?_value
    {plugin : String}
    (hQuotable : Quotable plugin) :
    quotedName? (value plugin) = some (fileName plugin) := by
  rw [quotedName?, quoted?_value, Option.map_some,
    plainForm_of_quotable (quotable_fileName hQuotable),
    String.ofList_toList]

theorem fileName_injective : Function.Injective fileName := by
  intro plugin plugin' hName
  exact String.append_left_inj ".jar" |>.mp hName

/- Only a name that is not ASCII is followed by another. -/
theorem value_ne
    {plugin plugin' : String}
    (hForeign : Foreign plugin)
    (hQuotable : Quotable plugin') :
    value plugin ≠ value plugin' := by
  intro hValue
  have hQuoted := quoted?_value plugin
  rw [hValue, quoted?_value, full?_of_foreign hForeign,
    full?_of_quotable hQuotable, Option.some.injEq, Prod.mk.injEq]
    at hQuoted
  have hEmpty := congrArg String.toList hQuoted.2
  rw [extension, extension, Option.elim_none, Option.elim_some,
    String.toList_append] at hEmpty
  exact absurd hEmpty (by simp)

/-
  Whoever receives the header of a plugin's file can tell what the
  file is called: from the name in full if the plugin's name is not
  ASCII, and from the quoted name if quotes can hold it.
-/
theorem value_recoverable :
    (∀ plugin, Foreign plugin →
        fullName? (value plugin) = some (plugin ++ ".jar")) ∧
      (∀ plugin, Quotable plugin →
        quotedName? (value plugin) = some (plugin ++ ".jar")) ∧
      Set.InjOn value {plugin | Foreign plugin ∨ Quotable plugin} := by
  refine ⟨fun plugin => fullName?_value,
    fun plugin => quotedName?_value, ?_⟩
  rintro plugin (hForeign | hQuotable) plugin' (hForeign' | hQuotable')
    hValue
  · have hName := fullName?_value hForeign
    rw [hValue, fullName?_value hForeign'] at hName
    exact fileName_injective (Option.some.inj hName).symm
  · exact absurd hValue (value_ne hForeign hQuotable')
  · exact absurd hValue.symm (value_ne hForeign' hQuotable)
  · have hName := quotedName?_value hQuotable
    rw [hValue, quotedName?_value hQuotable'] at hName
    exact fileName_injective (Option.some.inj hName).symm

/- Names that hold what the header puts around a name. -/
theorem value_recoverable_of_delimiters :
    fullName? (value "é\"; filename*=UTF-8''%41") =
        some "é\"; filename*=UTF-8''%41.jar" ∧
      quotedName? (value "a; filename*=UTF-8''%41") =
        some "a; filename*=UTF-8''%41.jar" ∧
      value "é\"; filename*=UTF-8''%41" ≠
        value "a; filename*=UTF-8''%41" := by
  have hForeign : Foreign "é\"; filename*=UTF-8''%41" :=
    ⟨'é', by decide, by decide⟩
  have hQuotable : Quotable "a; filename*=UTF-8''%41" := by decide
  obtain ⟨hFull, hQuoted, hInjective⟩ := value_recoverable
  refine ⟨hFull _ hForeign, hQuoted _ hQuotable, fun hValue => ?_⟩
  exact absurd (hInjective (.inl hForeign) (.inr hQuotable) hValue)
    (by decide)

end Disposition

end PluginStudio
