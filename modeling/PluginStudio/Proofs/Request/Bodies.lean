import Mathlib.Data.List.Nodup
import PluginStudio.Proofs.Json.Printing
import PluginStudio.Proofs.Request.Reading

/-
  What requests are read from which bodies.

  Key definitions include:
    * `PluginStudio.Request.Written`
    * `PluginStudio.Request.ofTexts`

  Main declarations:
    * `Request.read_written`
    * `Request.read_unambiguous`

  A request can be written in many ways, and each of them is read
  as that request.  No body is read that leaves a choice.
-/

------------------------------------------------------------
-- Bodies
------------------------------------------------------------

namespace PluginStudio

namespace Request

open Json

/- The fields of a list or of an object, past its first byte. -/
def readItems : Frame → Bytes → Scan Draft
  | .list => readElements true [] Field.all
  | .object => readMembers true []

theorem readDraft_of_body
    {frame : Frame}
    {items : List Item}
    {after body : Bytes}
    (hBody : Body frame items after body) :
    ∃ blanks,
      Blanks blanks ∧
        (∀ item ∈ items, item.Framed) ∧
          (∀ item ∈ items, Value item.value) ∧
            readDraft body =
              readItems frame
                (blanks ++
                  (Item.texts frame true items ++
                    frame.close :: after)) := by
  rcases hBody.skipBlanks_eq with
    ⟨blanks, hBlanks, hFramed, hValues, hSkip⟩
  refine ⟨blanks, hBlanks, hFramed, hValues, ?_⟩
  rw [readDraft, hSkip]
  cases frame with
  | list => rfl
  | object => rfl

theorem read_of_readDraft
    {body after : Bytes}
    {draft : Draft}
    (hDraft : readDraft body = .ok (draft, after))
    (hAfter : Blanks after) :
    read body = .ok draft.toRequest := by
  rw [read, hDraft]
  simp only
  rw [(skipBlanks_eq_nil_iff after).mpr hAfter]

theorem read_ok
    {body : Bytes}
    {request : Request}
    (hRead : read body = .ok request) :
    ∃ draft after,
      readDraft body = .ok (draft, after) ∧ Blanks after := by
  rw [read] at hRead
  split at hRead
  · contradiction
  · rename_i draft after hDraft
    split at hRead
    · rename_i hEnd
      exact ⟨draft, after, hDraft, (skipBlanks_eq_nil_iff after).mp hEnd⟩
    · contradiction

/- Whatever is said of a body that is read keeps others from it. -/
theorem exists_fault
    {body : Bytes}
    (hNever : ∀ request, read body ≠ .ok request) :
    ∃ fault, read body = .error fault := by
  cases hRead : read body with
  | error fault => exact ⟨fault, rfl⟩
  | ok request => exact absurd hRead (hNever request)

/- An object that is read is unambiguous, and nothing follows it. -/
theorem unambiguous_of_read
    {items : List Item}
    {after body : Bytes}
    (hBody : Body .object items after body)
    {request : Request}
    (hRead : read body = .ok request) :
    Blanks after ∧ Unambiguous items := by
  rcases readDraft_of_body hBody with ⟨blanks, hBlanks, hFramed, hValues, hEq⟩
  rcases read_ok hRead with ⟨draft, after', hDraft, hAfter⟩
  rw [hEq] at hDraft
  rcases readMembers_ok hFramed hValues hBlanks hDraft with
    ⟨rfl, hItems, -⟩
  exact ⟨hAfter, hItems⟩

/- An array that is read has elements for fields only. -/
theorem length_le_of_read
    {items : List Item}
    {after body : Bytes}
    (hBody : Body .list items after body)
    {request : Request}
    (hRead : read body = .ok request) :
    Blanks after ∧ items.length ≤ Field.all.length := by
  rcases readDraft_of_body hBody with ⟨blanks, hBlanks, hFramed, hValues, hEq⟩
  rcases read_ok hRead with ⟨draft, after', hDraft, hAfter⟩
  rw [hEq] at hDraft
  rcases readElements_ok hFramed hValues hBlanks (by simp [Field.all])
      hDraft with
    ⟨rfl, hLength⟩
  exact ⟨hAfter, hLength⟩

/-
  A body that gives a request: among items that are not known,
  each of its texts at most once, and all that are not empty.
-/
structure Written
    (request : Request)
    (items : List Item)
    (body : Bytes) : Prop where
  object : ∃ after, Blanks after ∧ Body .object items after body
  fields :
    ∃ fields,
      List.Forall₂ (Gives request) items fields ∧
        fields.reduceOption.Nodup ∧
          ∀ f, request.get f ≠ "" → some f ∈ fields

theorem Written.read_eq
    {request : Request}
    {items : List Item}
    {body : Bytes}
    (hWritten : Written request items body)
    (hNames : ∀ item ∈ items, ∃ name, Text.Spelled name item.name) :
    read body = .ok request := by
  rcases hWritten.object with ⟨after, hAfter, hBody⟩
  rcases hWritten.fields with ⟨fields, hGives, hNodup, hAll⟩
  rcases readDraft_of_body hBody with ⟨blanks, hBlanks, hFramed, hValues, hEq⟩
  rw [readItems, readMembers_written hGives hFramed hValues hNames hNodup []
    (fun _ _ => rfl) hBlanks true after, List.append_nil] at hEq
  rw [read_of_readDraft hEq hAfter, Draft.toRequest_taken]
  intro f hGiven
  exact List.reduceOption_mem_iff.mpr (hAll f hGiven)

end Request

end PluginStudio

------------------------------------------------------------
-- Objects
------------------------------------------------------------

namespace PluginStudio

namespace Request

open Json

/-
  A body that gives a request is read as that request, unless the
  name of some item has half of a surrogate pair in it, so that it
  is no text at all.
-/
theorem read_written
    {request : Request}
    {items : List Item}
    {body : Bytes}
    (hWritten : Written request items body) :
    read body = .ok request ↔
      ∀ item ∈ items, ∃ name, Text.Spelled name item.name := by
  constructor
  · intro hRead
    rcases hWritten.object with ⟨after, -, hBody⟩
    exact (unambiguous_of_read hBody hRead).2.named
  · intro hNames
    exact hWritten.read_eq hNames

/- An item of which the name is half of a surrogate pair. -/
def unpaired : Item where
  name := [0x5C, 0x75, 0x64, 0x38, 0x30, 0x30]
  value := [0x30]

/- An object may be well formed and have a name that is no text. -/
theorem read_unpaired :
    Written {} [unpaired] (compound .object [] [unpaired]) ∧
      ∀ request, read (compound .object [] [unpaired]) ≠ .ok request := by
  have hName : Text.WellFormed unpaired.name :=
    .cons
      (.numbered
        (.mk (w := 13) (x := 8) (y := 0) (z := 0)
          ⟨by decide, by decide⟩ ⟨by decide, by decide⟩
          ⟨by decide, by decide⟩ ⟨by decide, by decide⟩))
      .nil
  have hValue : Value unpaired.value :=
    .number (.mk (Or.inl rfl) .zero .absent .absent)
  have hUnspelled : ∀ name, ¬ Text.Spelled name unpaired.name := by
    intro name hSpelled
    have hScan := Text.scan_spelled hSpelled []
    have hFault :
        (Text.scan (unpaired.name ++ ['"'.toUInt8])).isOk = false := by
      cbv
    rw [hScan] at hFault
    contradiction
  have hCompound :
      Compound .object [unpaired] (compound .object [] [unpaired]) := by
    refine ⟨⟨[], blanks_nil, rfl⟩, ?_, ?_⟩
    · simp only [List.forall_mem_singleton]
      exact ⟨by decide, hName, by decide, by decide, by decide⟩
    · simpa only [List.forall_mem_singleton] using hValue
  have hBody := Body.of_compound hCompound
  refine ⟨⟨⟨[], blanks_nil, hBody⟩, [none], ?_, by decide, ?_⟩, ?_⟩
  · exact .cons (.nothing fun f => hUnspelled f.key) .nil
  · intro f hGiven
    cases f <;> contradiction
  · intro request hRead
    have hNamed := (unambiguous_of_read hBody hRead).2.named
    rcases hNamed unpaired (by simp) with ⟨name, hSpelled⟩
    exact hUnspelled name hSpelled

/-
  An unknown list, and a name and a text in escapes:
  `{"x": [null]\n,\t"\u0070luginName":"\ud83d\ude00"}`.
-/
def escapedItems : List Item :=
  [{ name := Utf8.encode "x"
     gap := [0x20]
     value := compound .list [] [{ value := Utf8.encode "null" }]
     after := [0x0A] },
   { before := [0x09]
     name := [0x5C, 0x75, 0x30, 0x30, 0x37, 0x30] ++ Utf8.encode "luginName"
     value :=
       Text.quoted
         [0x5C, 0x75, 0x64, 0x38, 0x33, 0x64,
          0x5C, 0x75, 0x64, 0x65, 0x30, 0x30] }]

theorem read_written_escaped :
    Written { pluginName := "😀" } escapedItems
        (compound .object [] escapedItems) ∧
      read (compound .object [] escapedItems) =
        .ok { pluginName := "😀" } := by
  have hOther : Text.Spelled "x" (Utf8.encode "x") :=
    Text.spelled_encode (by decide)
  have hName :
      Text.Spelled "pluginName"
        ([0x5C, 0x75, 0x30, 0x30, 0x37, 0x30] ++
          Utf8.encode "luginName") := by
    have hRest : Text.Spelled "luginName" (Utf8.encode "luginName") :=
      Text.spelled_encode (by decide)
    have hCode : Text.HexQuad [0x30, 0x30, 0x37, 0x30] 'p'.toNat :=
      .mk (w := 0) (x := 0) (y := 7) (z := 0)
        ⟨by decide, by decide⟩ ⟨by decide, by decide⟩
        ⟨by decide, by decide⟩ ⟨by decide, by decide⟩
    exact .cons (.numbered hCode) hRest
  have hText :
      Text.Spelled "😀"
        [0x5C, 0x75, 0x64, 0x38, 0x33, 0x64,
         0x5C, 0x75, 0x64, 0x65, 0x30, 0x30] := by
    have hHigh : Text.HexQuad [0x64, 0x38, 0x33, 0x64] 0xD83D :=
      .mk (w := 13) (x := 8) (y := 3) (z := 13)
        ⟨by decide, by decide⟩ ⟨by decide, by decide⟩
        ⟨by decide, by decide⟩ ⟨by decide, by decide⟩
    have hLow : Text.HexQuad [0x64, 0x65, 0x30, 0x30] 0xDE00 :=
      .mk (w := 13) (x := 14) (y := 0) (z := 0)
        ⟨by decide, by decide⟩ ⟨by decide, by decide⟩
        ⟨by decide, by decide⟩ ⟨by decide, by decide⟩
    exact .cons (.paired (c := '😀') (by decide) hHigh hLow) .nil
  have hCompound :
      Compound .object escapedItems (compound .object [] escapedItems) := by
    refine ⟨⟨[], blanks_nil, rfl⟩, ?_, ?_⟩
    · simp only [escapedItems, List.forall_mem_cons, List.not_mem_nil,
        false_implies, implies_true, and_true]
      exact ⟨⟨by decide, hOther.wellFormed, by decide, by decide,
          by decide⟩,
        ⟨by decide, hName.wellFormed, by decide, by decide, by decide⟩⟩
    · simp only [escapedItems, List.forall_mem_cons, List.not_mem_nil,
        false_implies, implies_true, and_true]
      refine ⟨.compound .list blanks_nil ?_ ?_, .text hText.wellFormed⟩
      · simp only [List.forall_mem_cons, List.not_mem_nil,
          false_implies, implies_true, and_true]
        exact ⟨by decide, .nil, by decide, by decide, by decide⟩
      · simp only [List.forall_mem_cons, List.not_mem_nil,
          false_implies, implies_true, and_true]
        exact .word (by decide)
  have hUnknown : ∀ f : Field, ¬ Text.Spelled f.key (Utf8.encode "x") := by
    intro f hSpelled
    have hKey := hSpelled.unique hOther
    cases f <;> contradiction
  have hWritten :
      Written { pluginName := "😀" } escapedItems
        (compound .object [] escapedItems) := by
    have hBody := Body.of_compound hCompound
    refine ⟨⟨[], blanks_nil, hBody⟩, [none, some .pluginName], ?_, ?_, ?_⟩
    · exact .cons (.nothing hUnknown)
        (.cons (.field ⟨hName, _, hText, rfl⟩) .nil)
    · decide
    · intro f hGiven
      cases f <;> first | decide | contradiction
  refine ⟨hWritten, (read_written hWritten).mpr ?_⟩
  simp only [escapedItems, List.forall_mem_cons, List.not_mem_nil,
    false_implies, implies_true, and_true]
  exact ⟨⟨_, hOther⟩, ⟨_, hName⟩⟩

end Request

end PluginStudio

------------------------------------------------------------
-- Arrays
------------------------------------------------------------

namespace PluginStudio

namespace Request

open Json

/- The request that has the given texts for its first fields. -/
def ofTexts (texts : List String) : Request :=
  ofFields fun f => ((Field.all.zip texts).lookup f).getD ""

/- The fields with texts come first, and the others after them. -/
theorem fields_zip_append_drop
    {fields : List Field}
    {texts : List String}
    (hLength : texts.length ≤ fields.length) :
    (fields.zip texts).map Prod.fst ++ fields.drop texts.length =
      fields := by
  induction texts generalizing fields with
  | nil => simp
  | cons s texts ih =>
      cases fields with
      | nil => simp at hLength
      | cons f fields => simpa using ih (Nat.le_of_succ_le_succ hLength)

theorem nodup_fields
    {texts : List String}
    (hLength : texts.length ≤ Field.all.length) :
    ((Field.all.zip texts).map Prod.fst).Nodup := by
  have hAll : Field.all.Nodup := by decide
  rw [← fields_zip_append_drop hLength] at hAll
  exact (List.nodup_append.mp hAll).1

theorem get_ofTexts
    {texts : List String}
    (hLength : texts.length ≤ Field.all.length)
    {f : Field}
    {s : String}
    (hMem : (f, s) ∈ Field.all.zip texts) :
    (ofTexts texts).get f = s := by
  rw [ofTexts, get_ofFields]
  rcases Draft.lookup_cases (Field.all.zip texts) f with
    ⟨hHas, -⟩ | ⟨-, t, hMem', hSome⟩
  · have hTrue : Draft.has (Field.all.zip texts) f = true := by
      simpa [Draft.has] using ⟨s, hMem⟩
    rw [hHas] at hTrue
    contradiction
  · rw [hSome, Option.getD_some]
    have hEq :=
      List.inj_on_of_nodup_map (nodup_fields hLength) hMem' hMem rfl
    exact congrArg Prod.snd hEq

theorem mem_of_get_ofTexts
    {texts : List String}
    {f : Field}
    (hGiven : (ofTexts texts).get f ≠ "") :
    f ∈ (Field.all.zip texts).map Prod.fst := by
  rw [ofTexts, get_ofFields] at hGiven
  rcases Draft.lookup_cases (Field.all.zip texts) f with
    ⟨-, hNone⟩ | ⟨-, s, hMem, -⟩
  · rw [hNone] at hGiven
    contradiction
  · exact List.mem_map_of_mem hMem

/- What holds of items and entries may use that the entries are there. -/
theorem forall₂_of_mem
    {R S : Item → Field × String → Prop}
    {items : List Item}
    {entries : List (Field × String)}
    (hRel : List.Forall₂ R items entries)
    (hImp : ∀ item, ∀ entry ∈ entries, R item entry → S item entry) :
    List.Forall₂ S items entries := by
  induction hRel with
  | nil => exact .nil
  | @cons item entry items entries hItem hItems ih =>
      refine .cons (hImp item entry (by simp) hItem) (ih ?_)
      intro item entry hMem
      exact hImp item entry (by simp [hMem])

/- An array of texts is read as the request with these texts. -/
theorem read_texts
    {texts : List String}
    (hLength : texts.length ≤ Field.all.length)
    {items : List Item}
    (hTexts : List.Forall₂ Item.Tells items texts)
    {after body : Bytes}
    (hAfter : Blanks after)
    (hBody : Body .list items after body) :
    read body = .ok (ofTexts texts) := by
  have hEntries :
      List.Forall₂ (fun item entry => item.Tells entry.2) items
        (Field.all.zip texts) := by
    rw [← List.forall₂_map_right_iff, List.map_snd_zip hLength]
    exact hTexts
  have hFields :
      List.Forall₂ (fun item f => item.Tells ((ofTexts texts).get f))
        items ((Field.all.zip texts).map Prod.fst) := by
    rw [List.forall₂_map_right_iff]
    apply forall₂_of_mem hEntries
    rintro item ⟨f, s⟩ hMem hTells
    simp only at hTells ⊢
    rw [get_ofTexts hLength hMem]
    exact hTells
  rcases readDraft_of_body hBody with ⟨blanks, hBlanks, hFramed, hValues, hEq⟩
  have hRead :=
    readElements_written hFields hFramed hValues
      (Field.all.drop texts.length) [] hBlanks true after
  rw [fields_zip_append_drop hLength, List.append_nil] at hRead
  rw [readItems, hRead] at hEq
  rw [read_of_readDraft hEq hAfter,
    Draft.toRequest_taken fun f => mem_of_get_ofTexts]

/- An object that gives the same texts under the names of fields. -/
theorem read_entries
    {texts : List String}
    (hLength : texts.length ≤ Field.all.length)
    {entries : List (Field × String)}
    (hPerm : entries.Perm (Field.all.zip texts))
    {items : List Item}
    (hSays :
      List.Forall₂
        (fun item entry => item.Says entry.1.key entry.2)
        items entries)
    {after body : Bytes}
    (hAfter : Blanks after)
    (hBody : Body .object items after body) :
    read body = .ok (ofTexts texts) := by
  have hGives :
      List.Forall₂ (Gives (ofTexts texts)) items
        ((entries.map Prod.fst).map some) := by
    rw [List.forall₂_map_right_iff, List.forall₂_map_right_iff]
    apply forall₂_of_mem hSays
    rintro item ⟨f, s⟩ hMem hSays
    apply Gives.field
    rw [get_ofTexts hLength (hPerm.mem_iff.mp hMem)]
    exact hSays
  have hReduced :
      ((entries.map Prod.fst).map some).reduceOption =
        entries.map Prod.fst := by
    simp [List.reduceOption]
  have hWritten : Written (ofTexts texts) items body := by
    refine ⟨⟨after, hAfter, hBody⟩, _, hGives, ?_, ?_⟩
    · rw [hReduced, (hPerm.map Prod.fst).nodup_iff]
      exact nodup_fields hLength
    · intro f hGiven
      rw [← List.reduceOption_mem_iff, hReduced,
        (hPerm.map Prod.fst).mem_iff]
      exact mem_of_get_ofTexts hGiven
  have hNamed :
      List.Forall₂
        (fun item entry =>
          (∃ name, Text.Spelled name item.name) ∧
            item.Says entry.1.key entry.2)
        items entries :=
    hSays.imp fun item entry hItem => ⟨⟨_, hItem.name⟩, hItem⟩
  exact hWritten.read_eq
    ((List.forall₂_and_left items entries).mp hNamed).1

/- Two items, with anything between them, are for the same field. -/
def Repeats (items : List Item) : Prop :=
  ∃ (f : Field) (front middle back : List Item) (item later : Item),
    items = front ++ item :: (middle ++ later :: back) ∧
      Text.Spelled f.key item.name ∧ Text.Spelled f.key later.name

/- An item is for a field, and its value is no text. -/
def Mistypes (items : List Item) : Prop :=
  ∃ f : Field,
    ∃ item ∈ items,
      Text.Spelled f.key item.name ∧ ∀ s, ¬ item.Tells s

/-
  No body is read that leaves a choice: not an object that gives a
  field twice, or gives it something else than a text, and not a
  body with more after its value.  Texts are read alike in an array
  and under the names of the first fields, in whatever order, and
  an array with more elements than there are fields is not read.
-/
theorem read_unambiguous :
    (∀ {items : List Item} {after body : Bytes},
      Body .object items after body →
        Repeats items ∨ Mistypes items ∨ ¬ Blanks after →
          ∃ fault, read body = .error fault) ∧
      (∀ {texts : List String},
        texts.length ≤ Field.all.length →
          (∀ {items : List Item} {after body : Bytes},
            Body .list items after body →
              Blanks after →
                List.Forall₂ Item.Tells items texts →
                  read body = .ok (ofTexts texts)) ∧
            ∀ {items : List Item} {after body : Bytes}
              {entries : List (Field × String)},
              Body .object items after body →
                Blanks after →
                  entries.Perm (Field.all.zip texts) →
                    List.Forall₂
                        (fun item entry => item.Says entry.1.key entry.2)
                        items entries →
                      read body = .ok (ofTexts texts)) ∧
        ∀ {items : List Item} {after body : Bytes},
          Body .list items after body →
            Field.all.length < items.length ∨ ¬ Blanks after →
              ∃ fault, read body = .error fault := by
  refine ⟨?_, ?_, ?_⟩
  · intro items after body hBody hFaulty
    apply exists_fault
    intro request hRead
    rcases unambiguous_of_read hBody hRead with ⟨hAfter, hItems⟩
    rcases hFaulty with
      ⟨f, front, middle, back, item, later, rfl, hItem, hLater⟩ |
        ⟨f, item, hMem, hItem, hMistyped⟩ | hMore
    · have hLast := (List.pairwise_append.mp hItems.distinct).2.1
      have hMem : later ∈ middle ++ later :: back := by simp
      exact (List.pairwise_cons.mp hLast).1 later hMem f hItem hLater
    · rcases hItems.texts item hMem f hItem with ⟨s, hSays⟩
      exact hMistyped s hSays.value
    · exact hMore hAfter
  · intro texts hLength
    refine ⟨?_, ?_⟩
    · intro items after body hBody hAfter hTexts
      exact read_texts hLength hTexts hAfter hBody
    · intro items after body entries hBody hAfter hPerm hSays
      exact read_entries hLength hPerm hSays hAfter hBody
  · intro items after body hBody hFaulty
    apply exists_fault
    intro request hRead
    rcases length_le_of_read hBody hRead with ⟨hAfter, hLength⟩
    rcases hFaulty with hLong | hMore
    · omega
    · exact hMore hAfter

/-
  An author that is given twice, two texts in an array and under
  their names, and an array of fourteen.
-/
theorem read_unambiguous_of_printed :
    (∃ fault,
      read
          (compound .object []
            ([("author", "a"), ("x", ""), ("author", "a")].map
              Printer.item)) =
        .error fault) ∧
      read
          (compound .list [] ([("", "a"), ("", "b")].map Printer.item)) =
        .ok { pluginName := "a", packageName := "b" } ∧
      read
          (compound .object []
            ([("packageName", "b"), ("pluginName", "a")].map
              Printer.item)) =
        .ok { pluginName := "a", packageName := "b" } ∧
      ∃ fault,
        read
            (compound .list []
              ((List.replicate 14 ("", "a")).map Printer.item)) =
          .error fault := by
  have hBody := fun frame entries =>
    Body.of_compound (Printer.compound_items frame entries)
  have hTexts : ["a", "b"].length ≤ Field.all.length := by decide
  refine ⟨?_, ?_, ?_, ?_⟩
  · apply read_unambiguous.1 (hBody .object _)
    refine Or.inl ⟨.author, [], [_], [], _, _, rfl, ?_, ?_⟩
    · exact Printer.spelled_spell "author"
    · exact Printer.spelled_spell "author"
  · apply (read_unambiguous.2.1 hTexts).1 (hBody .list _) blanks_nil
    exact .cons (Printer.says_item ("", "a")).value
      (.cons (Printer.says_item ("", "b")).value .nil)
  · apply (read_unambiguous.2.1 hTexts).2 (hBody .object _) blanks_nil
      (List.Perm.swap (Field.pluginName, "a") (Field.packageName, "b") [])
    exact .cons (Printer.says_item ("packageName", "b"))
      (.cons (Printer.says_item ("pluginName", "a")) .nil)
  · apply read_unambiguous.2.2 (hBody .list _)
    exact Or.inl (by decide)

end Request

end PluginStudio
