import Mathlib.Data.List.Forall2
import Mathlib.Data.List.ReduceOption
import PluginStudio.Proofs.Json.Scanning
import PluginStudio.Request.Reader

/-
  The items of objects and of arrays as fields of a request.

  Key definitions include:
    * `PluginStudio.Request.Draft.taken`
    * `PluginStudio.Request.Gives`
    * `PluginStudio.Request.Unambiguous`

  Main declarations:
    * `Request.readMember_field`, `Request.readMember_unknown`
    * `Request.readMember_ok`
    * `Request.readMembers_written`, `Request.readMembers_ok`
    * `Request.readElements_written`, `Request.readElements_ok`

  An object is read item by item, and so is an array.  For each of
  the two there are lemmas on what one item comes to, and on what
  a sequence of them comes to, both for items that can be read and
  for what follows from their being read.
-/

------------------------------------------------------------
-- Fields
------------------------------------------------------------

namespace PluginStudio

namespace Field

@[simp] theorem ofKey?_key (f : Field) : ofKey? f.key = some f := by
  cases f <;> decide

/- Only names of fields lead to a field. -/
theorem key_of_ofKey?
    {name : String}
    {f : Field}
    (hField : ofKey? name = some f) :
    f.key = name := by
  simpa using List.find?_some hField

theorem ofKey?_eq_none
    {name : String}
    (hOther : ∀ f : Field, f.key ≠ name) :
    ofKey? name = none := by
  rw [ofKey?, List.find?_eq_none]
  intro f _
  simpa using hOther f

end Field

namespace Request

namespace Draft

variable {draft : Draft} {f g : Field} {s : String}

theorem has_cons :
    has ((g, s) :: draft) f = true ↔ g = f ∨ draft.has f = true := by
  simp [has]

/- What was read for a field, if anything, stands in the draft. -/
theorem lookup_cases
    (draft : Draft)
    (f : Field) :
    draft.has f = false ∧ draft.lookup f = none ∨
      draft.has f = true ∧
        ∃ s, (f, s) ∈ draft ∧ draft.lookup f = some s := by
  induction draft with
  | nil => exact Or.inl ⟨rfl, rfl⟩
  | cons entry draft ih =>
      rcases entry with ⟨g, s⟩
      by_cases hEq : f = g
      · subst hEq
        exact Or.inr ⟨by simp [has], s, by simp, by simp⟩
      · have hLookup :
            List.lookup f ((g, s) :: draft) = draft.lookup f := by
          simp [List.lookup_cons, beq_eq_false_iff_ne.mpr hEq]
        rw [hLookup]
        rcases ih with ⟨hHas, hNone⟩ | ⟨hHas, t, hMem, hSome⟩
        · refine Or.inl ⟨?_, hNone⟩
          rw [← Bool.not_eq_true, has_cons, hHas]
          simpa using Ne.symm hEq
        · exact Or.inr ⟨has_cons.mpr (Or.inr hHas), t,
            List.mem_cons_of_mem _ hMem, hSome⟩

/- Some of the texts of a request, the last one first. -/
def taken
    (request : Request)
    (fields : List Field) : Draft :=
  (fields.map fun f => (f, request.get f)).reverse

theorem taken_cons
    (request : Request)
    (f : Field)
    (fields : List Field) :
    taken request (f :: fields) =
      taken request fields ++ [(f, request.get f)] := by
  simp [taken]

/- Texts that lack only what is empty make the request. -/
theorem toRequest_taken
    {request : Request}
    {fields : List Field}
    (hAll : ∀ f, request.get f ≠ "" → f ∈ fields) :
    (taken request fields).toRequest = request := by
  have hText : (taken request fields).text = request.get := by
    funext f
    rw [text]
    rcases (taken request fields).lookup_cases f with
      ⟨hHas, hNone⟩ | ⟨-, s, hMem, hSome⟩
    · rw [hNone, Option.getD_none]
      by_contra hNe
      have hMem := hAll f (Ne.symm hNe)
      have hTrue : (taken request fields).has f = true := by
        simp [has, taken, hMem]
      rw [hHas] at hTrue
      contradiction
    · rw [hSome, Option.getD_some]
      simp only [taken, List.mem_reverse, List.mem_map,
        Prod.mk.injEq] at hMem
      rcases hMem with ⟨g, -, rfl, rfl⟩
      rfl
  rw [toRequest, hText, ofFields_get]

end Draft

end Request

end PluginStudio

------------------------------------------------------------
-- Texts Of Fields
------------------------------------------------------------

namespace PluginStudio

namespace Request

open Json

theorem readText_spelled
    {blanks bytes : Bytes}
    {s : String}
    (hBlanks : Blanks blanks)
    (hSpelled : Text.Spelled s bytes)
    (rest : Bytes) :
    readText (blanks ++ (Text.quoted bytes ++ rest)) =
      .ok (s, rest) := by
  rw [Text.quoted, List.cons_append, List.append_assoc,
    List.cons_append, List.nil_append, readText,
    skipBlanks_token hBlanks (by decide)]
  exact Text.scan_spelled hSpelled rest

/- Only a value that is a text is read, up to its end. -/
theorem readText_ok
    {blanks value rest rest' : Bytes}
    {s : String}
    (hBlanks : Blanks blanks)
    (hValue : Value value)
    (hRead :
      readText (blanks ++ (value ++ rest)) = .ok (s, rest')) :
    rest' = rest ∧
      ∃ bytes, Text.Spelled s bytes ∧ value = Text.quoted bytes := by
  rcases hValue.head with ⟨b, tail, hEq, hStarts, hText⟩
  by_cases hQuote : b = '"'.toUInt8
  · rcases hText hQuote with ⟨bytes, hBytes, rfl⟩
    rw [Text.quoted, List.cons_append, List.append_assoc,
      List.cons_append, List.nil_append, readText,
      skipBlanks_token hBlanks (by decide)] at hRead
    rcases hBytes.scan_ok_iff.mp hRead with ⟨hSpelled, rfl⟩
    exact ⟨rfl, bytes, hSpelled, rfl⟩
  · rw [hEq, List.cons_append, readText,
      skipBlanks_token hBlanks hStarts.not_blank] at hRead
    simp only at hRead
    rw [if_neg hQuote] at hRead
    contradiction

end Request

end PluginStudio

------------------------------------------------------------
-- Items Of Objects
------------------------------------------------------------

namespace PluginStudio

namespace Request

open Json

/- An item of an object after the quote that opens its name. -/
def opened
    (item : Item)
    (rest : Bytes) : Bytes :=
  item.name ++
    '"'.toUInt8 ::
      (item.between ++
        ':'.toUInt8 :: (item.gap ++ (item.value ++ (item.after ++ rest))))

theorem text_object_append
    (item : Item)
    (rest : Bytes) :
    item.text .object ++ rest =
      item.before ++ '"'.toUInt8 :: opened item rest := by
  simp [Item.text, Item.label, Text.quoted, opened]

/- The next item is found, whether it is the first or not. -/
theorem upcomingMember_item
    {blanks : Bytes}
    (hBlanks : Blanks blanks)
    (first : Bool)
    {item : Item}
    (hFramed : item.Framed)
    (items : List Item)
    (rest : Bytes) :
    upcomingMember first
        (blanks ++ (Item.texts .object first (item :: items) ++ rest)) =
      .member
        (opened item (Item.texts .object false items ++ rest)) := by
  have hBefore := hFramed.before
  cases first with
  | true =>
      rw [Item.texts, List.append_assoc, text_object_append,
        upcomingMember, skipBlanks_append hBlanks,
        skipBlanks_token hBefore (by decide)]
      rfl
  | false =>
      rw [Item.texts, List.cons_append, List.append_assoc,
        text_object_append, upcomingMember,
        skipBlanks_token hBlanks (by decide)]
      simp only
      rw [if_neg (by decide), if_neg (by decide), if_true,
        upcomingAfterComma, skipBlanks_token hBefore (by decide)]
      rfl

theorem upcomingMember_close
    {blanks : Bytes}
    (hBlanks : Blanks blanks)
    (first : Bool)
    (rest : Bytes) :
    upcomingMember first (blanks ++ Frame.object.close :: rest) =
      .finish rest := by
  rw [upcomingMember, skipBlanks_token hBlanks (by decide)]
  rfl

/- The members are read one after the other. -/
theorem readMembers_eq
    (first : Bool)
    (draft : Draft)
    (bytes : Bytes) :
    readMembers first draft bytes =
      match upcomingMember first bytes with
      | .fault fault => .error fault
      | .finish rest => .ok (draft, rest)
      | .member rest =>
        match readMember draft rest with
        | .error fault => .error fault
        | .ok (draft, rest) => readMembers false draft rest := by
  rw [readMembers]
  split
  · rename_i hNext
    rw [hNext]
  · rename_i hNext
    rw [hNext]
  · rename_i hNext
    rw [hNext]
    simp only
    split
    · rename_i hMember
      rw [hMember]
    · rename_i hMember
      rw [hMember]

/- One item that can be read takes the reading to the others. -/
theorem readMembers_item
    {blanks : Bytes}
    (hBlanks : Blanks blanks)
    (first : Bool)
    (draft : Draft)
    {item : Item}
    (hFramed : item.Framed)
    (items : List Item)
    (rest : Bytes) :
    readMembers first draft
        (blanks ++ (Item.texts .object first (item :: items) ++ rest)) =
      match
        readMember draft
          (opened item (Item.texts .object false items ++ rest)) with
      | .error fault => .error fault
      | .ok (draft, rest) => readMembers false draft rest := by
  rw [readMembers_eq, upcomingMember_item hBlanks first hFramed]

/- The item gives one of the texts of a request, or is not known. -/
inductive Gives
    (request : Request)
    (item : Item) :
    Option Field → Prop where
  | field
      {f : Field}
      (hSays : item.Says f.key (request.get f)) :
      Gives request item (some f)
  | nothing
      (hName : ∀ f : Field, ¬ Text.Spelled f.key item.name) :
      Gives request item none

/- A field that is given for the first time is read. -/
theorem readMember_field
    {draft : Draft}
    {f : Field}
    (hNew : draft.has f = false)
    {item : Item}
    (hFramed : item.Framed)
    {s : String}
    (hSays : item.Says f.key s)
    (rest : Bytes) :
    readMember draft (opened item rest) =
      .ok ((f, s) :: draft, item.after ++ rest) := by
  rcases hSays.value with ⟨bytes, hSpelled, hValue⟩
  rw [opened, readMember, Text.scan_spelled hSays.name]
  simp only
  rw [readMemberValue, Field.ofKey?_key]
  simp only [hNew, Bool.false_eq_true, if_false]
  rw [colon_of_blanks hFramed.between]
  simp only
  rw [hValue, readText_spelled hFramed.gap hSpelled]

/- An item that is not known is passed over. -/
theorem readMember_unknown
    (draft : Draft)
    {item : Item}
    (hFramed : item.Framed)
    (hValue : Value item.value)
    {name : String}
    (hName : Text.Spelled name item.name)
    (hOther : ∀ f : Field, f.key ≠ name)
    {rest : Bytes}
    (hStops : Numeral.Stops (item.after ++ rest)) :
    readMember draft (opened item rest) =
      .ok (draft, item.after ++ rest) := by
  rw [opened, readMember, Text.scan_spelled hName]
  simp only
  rw [readMemberValue, Field.ofKey?_eq_none hOther]
  simp only
  rw [colon_of_blanks hFramed.between]
  simp only
  rw [skip_value hFramed.gap hValue hStops]

/-
  What a well-formed item comes to if it is read at all: its name
  is a text, and if it is that of a field, then the field is new
  and its value is a text.
-/
theorem readMember_ok
    {draft draft' : Draft}
    {item : Item}
    (hFramed : item.Framed)
    (hValue : Value item.value)
    {rest rest' : Bytes}
    (hStops : Numeral.Stops (item.after ++ rest))
    (hRead :
      readMember draft (opened item rest) = .ok (draft', rest')) :
    rest' = item.after ++ rest ∧
      ∃ name,
        Text.Spelled name item.name ∧
          ((∀ f : Field, f.key ≠ name) ∧ draft' = draft ∨
            ∃ f s,
              f.key = name ∧ draft.has f = false ∧
                item.Says f.key s ∧ draft' = (f, s) :: draft) := by
  rw [opened, readMember] at hRead
  cases hScan :
      Text.scan
        (item.name ++
          '"'.toUInt8 ::
            (item.between ++
              ':'.toUInt8 ::
                (item.gap ++
                  (item.value ++ (item.after ++ rest))))) with
  | error fault =>
      rw [hScan] at hRead
      contradiction
  | ok result =>
      rcases result with ⟨name, tail⟩
      rcases hFramed.name.scan_ok_iff.mp hScan with ⟨hName, rfl⟩
      rw [hScan] at hRead
      simp only at hRead
      rw [readMemberValue, colon_of_blanks hFramed.between] at hRead
      cases hField : Field.ofKey? name with
      | none =>
          rw [hField] at hRead
          simp only at hRead
          rw [skip_value hFramed.gap hValue hStops] at hRead
          cases hRead
          refine ⟨rfl, name, hName, Or.inl ⟨?_, rfl⟩⟩
          rintro f rfl
          rw [Field.ofKey?_key] at hField
          contradiction
      | some f =>
          have hKey := Field.key_of_ofKey? hField
          rw [hField] at hRead
          simp only at hRead
          split_ifs at hRead with hHas
          split at hRead
          · contradiction
          · rename_i s rest'' hText
            rcases readText_ok hFramed.gap hValue hText with
              ⟨rfl, hSays⟩
            cases hRead
            refine ⟨rfl, name, hName, Or.inr ⟨f, s, hKey, ?_, ?_, rfl⟩⟩
            · simpa using hHas
            · rw [hKey]
              exact ⟨hName, hSays⟩

end Request

end PluginStudio

------------------------------------------------------------
-- Objects
------------------------------------------------------------

namespace PluginStudio

namespace Request

open Json

/-
  The items of an object that give texts of a request, each at
  most once, among others whose names are texts.
-/
theorem readMembers_written
    {request : Request}
    {items : List Item}
    {fields : List (Option Field)}
    (hGives : List.Forall₂ (Gives request) items fields)
    (hFramed : ∀ item ∈ items, item.Framed)
    (hValues : ∀ item ∈ items, Value item.value)
    (hNames : ∀ item ∈ items, ∃ name, Text.Spelled name item.name)
    (hNodup : fields.reduceOption.Nodup)
    (draft : Draft)
    (hNew : ∀ f ∈ fields.reduceOption, draft.has f = false)
    {blanks : Bytes}
    (hBlanks : Blanks blanks)
    (first : Bool)
    (rest : Bytes) :
    readMembers first draft
        (blanks ++
          (Item.texts .object first items ++
            Frame.object.close :: rest)) =
      .ok (Draft.taken request fields.reduceOption ++ draft, rest) := by
  induction hGives generalizing draft blanks first with
  | nil =>
      rw [Item.texts, List.nil_append, readMembers_eq,
        upcomingMember_close hBlanks]
      rfl
  | @cons item field? items fields hItem hItems ih =>
      have hFramed' := hFramed item (by simp)
      have hRest := fun draft hNodup hNew =>
        ih (fun item hMem => hFramed item (by simp [hMem]))
          (fun item hMem => hValues item (by simp [hMem]))
          (fun item hMem => hNames item (by simp [hMem]))
          hNodup draft hNew hFramed'.after false
      rw [readMembers_item hBlanks first draft hFramed']
      cases hItem with
      | @field f hSays =>
          rw [List.reduceOption_cons_of_some, List.nodup_cons] at hNodup
          rw [readMember_field (hNew f (by simp)) hFramed' hSays]
          simp only
          rw [hRest _ hNodup.2, List.reduceOption_cons_of_some,
            Draft.taken_cons, List.append_assoc, List.singleton_append]
          intro g hMem
          rw [← Bool.not_eq_true, Draft.has_cons,
            hNew g (by simp [hMem])]
          rintro (rfl | hFalse)
          · exact hNodup.1 hMem
          · contradiction
      | nothing hUnknown =>
          rcases hNames item (by simp) with ⟨name, hName⟩
          have hOther : ∀ f : Field, f.key ≠ name := by
            rintro f rfl
            exact hUnknown f hName
          rw [List.reduceOption_cons_of_none] at hNodup
          rw [readMember_unknown draft hFramed' (hValues item (by simp))
            hName hOther (stops_after .object hFramed' items rest)]
          simp only
          rw [hRest _ hNodup (by simpa using hNew),
            List.reduceOption_cons_of_none]

/- What the items of an object are if they can be read. -/
structure Unambiguous (items : List Item) : Prop where
  named : ∀ item ∈ items, ∃ name, Text.Spelled name item.name
  texts :
    ∀ item ∈ items,
      ∀ f : Field,
        Text.Spelled f.key item.name → ∃ s, item.Says f.key s
  distinct :
    items.Pairwise fun item later =>
      ∀ f : Field,
        Text.Spelled f.key item.name → ¬ Text.Spelled f.key later.name

theorem readMembers_ok
    {items : List Item}
    (hFramed : ∀ item ∈ items, item.Framed)
    (hValues : ∀ item ∈ items, Value item.value)
    {draft draft' : Draft}
    {blanks : Bytes}
    (hBlanks : Blanks blanks)
    {first : Bool}
    {rest rest' : Bytes}
    (hRead :
      readMembers first draft
          (blanks ++
            (Item.texts .object first items ++
              Frame.object.close :: rest)) =
        .ok (draft', rest')) :
    rest' = rest ∧
      Unambiguous items ∧
        ∀ item ∈ items,
          ∀ f : Field,
            Text.Spelled f.key item.name → draft.has f = false := by
  induction items generalizing draft blanks first with
  | nil =>
      rw [Item.texts, List.nil_append, readMembers_eq,
        upcomingMember_close hBlanks] at hRead
      cases hRead
      exact ⟨rfl, ⟨by simp, by simp, .nil⟩, by simp⟩
  | cons item items ih =>
      have hFramed' := hFramed item (by simp)
      rw [readMembers_item hBlanks first draft hFramed'] at hRead
      split at hRead
      · contradiction
      · rename_i draft₁ rest₁ hMember
        rcases readMember_ok hFramed' (hValues item (by simp))
            (stops_after .object hFramed' items rest) hMember with
          ⟨rfl, name, hName, hField⟩
        rcases ih (fun item hMem => hFramed item (by simp [hMem]))
            (fun item hMem => hValues item (by simp [hMem]))
            hFramed'.after hRead with
          ⟨hRest, hItems, hNew⟩
        -- A field of this item is new, and in the draft from here on.
        have hOnce :
            ∀ f : Field,
              Text.Spelled f.key item.name →
                (∃ s, item.Says f.key s) ∧
                  draft.has f = false ∧ draft₁.has f = true := by
          intro f hSpelled
          have hKey := hSpelled.unique hName
          rcases hField with ⟨hOther, -⟩ | ⟨g, s, rfl, hHas, hSays, rfl⟩
          · exact absurd hKey (hOther f)
          · have hEq : f = g := by
              have hBoth := Field.ofKey?_key f
              rw [hKey, Field.ofKey?_key, Option.some.injEq] at hBoth
              exact hBoth.symm
            subst hEq
            exact ⟨⟨s, hSays⟩, hHas, Draft.has_cons.mpr (Or.inl rfl)⟩
        have hKept :
            ∀ f : Field, draft₁.has f = false → draft.has f = false := by
          intro f hLacks
          rcases hField with ⟨-, rfl⟩ | ⟨g, s, -, -, -, rfl⟩
          · exact hLacks
          · rw [← Bool.not_eq_true, Draft.has_cons] at hLacks
            simpa using fun hHas => hLacks (Or.inr hHas)
        refine ⟨hRest, ⟨?_, ?_, ?_⟩, ?_⟩
        · simp only [List.forall_mem_cons]
          exact ⟨⟨name, hName⟩, hItems.named⟩
        · simp only [List.forall_mem_cons]
          exact ⟨fun f hSpelled => (hOnce f hSpelled).1, hItems.texts⟩
        · rw [List.pairwise_cons]
          refine ⟨?_, hItems.distinct⟩
          intro later hMem f hSpelled hLater
          have hLacks := hNew later hMem f hLater
          rw [(hOnce f hSpelled).2.2] at hLacks
          contradiction
        · simp only [List.forall_mem_cons]
          exact ⟨fun f hSpelled => (hOnce f hSpelled).2.1,
            fun later hMem f hLater =>
              hKept f (hNew later hMem f hLater)⟩

end Request

end PluginStudio

------------------------------------------------------------
-- Arrays
------------------------------------------------------------

namespace PluginStudio

namespace Request

open Json

theorem text_list_append
    (item : Item)
    (rest : Bytes) :
    item.text .list ++ rest =
      item.before ++ (item.value ++ (item.after ++ rest)) := by
  simp [Item.text, Item.label]

/- The next element is found, whether it is the first or not. -/
theorem upcomingElement_item
    {blanks : Bytes}
    (hBlanks : Blanks blanks)
    (first : Bool)
    {item : Item}
    (hFramed : item.Framed)
    (hValue : Value item.value)
    (items : List Item)
    (rest : Bytes) :
    upcomingElement first
        (blanks ++ (Item.texts .list first (item :: items) ++ rest)) =
      .member
        (item.value ++
          (item.after ++ (Item.texts .list false items ++ rest))) := by
  rcases hValue.head with ⟨b, tail, hEq, hStarts, -⟩
  have hBefore := hFramed.before
  have hToken := hStarts.not_blank
  have hClose : b ≠ ']'.toUInt8 := hStarts.not_close .list
  cases first with
  | true =>
      rw [Item.texts, List.append_assoc, text_list_append, hEq,
        List.cons_append, upcomingElement, skipBlanks_append hBlanks,
        skipBlanks_token hBefore hToken]
      simp only
      rw [if_neg hClose, if_true]
  | false =>
      rw [Item.texts, List.cons_append, List.append_assoc,
        text_list_append, hEq, List.cons_append, upcomingElement,
        skipBlanks_token hBlanks (by decide)]
      simp only
      rw [if_neg (by decide), if_neg (by decide), if_true,
        upcomingAfterListComma, skipBlanks_token hBefore hToken]
      simp only
      rw [if_neg hClose]

theorem upcomingElement_close
    {blanks : Bytes}
    (hBlanks : Blanks blanks)
    (first : Bool)
    (rest : Bytes) :
    upcomingElement first (blanks ++ Frame.list.close :: rest) =
      .finish rest := by
  rw [upcomingElement, skipBlanks_token hBlanks (by decide)]
  rfl

theorem closeArray_close
    {blanks : Bytes}
    (hBlanks : Blanks blanks)
    (draft : Draft)
    (rest : Bytes) :
    closeArray draft (blanks ++ Frame.list.close :: rest) =
      .ok (draft, rest) := by
  rw [closeArray, skipBlanks_token hBlanks (by decide)]
  rfl

/- No element may come after the last field. -/
theorem closeArray_item
    {blanks : Bytes}
    (hBlanks : Blanks blanks)
    (draft : Draft)
    (item : Item)
    (items : List Item)
    (rest : Bytes) :
    ∃ fault,
      closeArray draft
          (blanks ++ (Item.texts .list false (item :: items) ++ rest)) =
        .error fault := by
  rw [Item.texts, List.cons_append, closeArray,
    skipBlanks_token hBlanks (by decide)]
  simp only
  rw [if_neg (by decide), if_true]
  split_ifs
  · exact ⟨_, rfl⟩
  · exact ⟨_, rfl⟩

/- The elements of an array that give the texts of the first fields. -/
theorem readElements_written
    {request : Request}
    {items : List Item}
    {fields : List Field}
    (hTexts :
      List.Forall₂
        (fun item f => item.Tells (request.get f))
        items fields)
    (hFramed : ∀ item ∈ items, item.Framed)
    (hValues : ∀ item ∈ items, Value item.value)
    (others : List Field)
    (draft : Draft)
    {blanks : Bytes}
    (hBlanks : Blanks blanks)
    (first : Bool)
    (rest : Bytes) :
    readElements first draft (fields ++ others)
        (blanks ++
          (Item.texts .list first items ++ Frame.list.close :: rest)) =
      .ok (Draft.taken request fields ++ draft, rest) := by
  induction hTexts generalizing draft blanks first with
  | nil =>
      rw [List.nil_append, Item.texts, List.nil_append]
      cases others with
      | nil => exact closeArray_close hBlanks draft rest
      | cons f fs =>
          rw [readElements, upcomingElement_close hBlanks]
          rfl
  | @cons item f items fields hItem hItems ih =>
      have hFramed' := hFramed item (by simp)
      rcases hItem with ⟨bytes, hSpelled, hEq⟩
      have hText :=
        readText_spelled blanks_nil hSpelled
          (item.after ++
            (Item.texts .list false items ++ Frame.list.close :: rest))
      rw [List.nil_append, ← hEq] at hText
      rw [List.cons_append, readElements,
        upcomingElement_item hBlanks first hFramed'
          (hValues item (by simp))]
      simp only
      rw [hText]
      simp only
      rw [ih (fun item hMem => hFramed item (by simp [hMem]))
          (fun item hMem => hValues item (by simp [hMem]))
          _ hFramed'.after,
        Draft.taken_cons, List.append_assoc, List.singleton_append]

/- An array that can be read has at most one element for each field. -/
theorem readElements_ok
    {items : List Item}
    (hFramed : ∀ item ∈ items, item.Framed)
    (hValues : ∀ item ∈ items, Value item.value)
    {fields : List Field}
    {draft draft' : Draft}
    {blanks : Bytes}
    (hBlanks : Blanks blanks)
    {first : Bool}
    (hFirst : first = true → fields ≠ [])
    {rest rest' : Bytes}
    (hRead :
      readElements first draft fields
          (blanks ++
            (Item.texts .list first items ++
              Frame.list.close :: rest)) =
        .ok (draft', rest')) :
    rest' = rest ∧ items.length ≤ fields.length := by
  induction items generalizing fields draft blanks first with
  | nil =>
      rw [Item.texts, List.nil_append] at hRead
      cases fields with
      | nil =>
          rw [readElements, closeArray_close hBlanks] at hRead
          cases hRead
          exact ⟨rfl, Nat.zero_le _⟩
      | cons f fields =>
          rw [readElements, upcomingElement_close hBlanks] at hRead
          cases hRead
          exact ⟨rfl, Nat.zero_le _⟩
  | cons item items ih =>
      have hFramed' := hFramed item (by simp)
      have hValue := hValues item (by simp)
      cases fields with
      | nil =>
          have hLater : first = false := by
            simpa using hFirst
          subst hLater
          rcases closeArray_item hBlanks draft item items
              (Frame.list.close :: rest) with
            ⟨fault, hFault⟩
          rw [readElements, hFault] at hRead
          contradiction
      | cons f fields =>
          rw [readElements,
            upcomingElement_item hBlanks first hFramed' hValue] at hRead
          simp only at hRead
          split at hRead
          · contradiction
          · rename_i s rest₁ hText
            rcases readText_ok blanks_nil hValue hText with ⟨rfl, -⟩
            rcases ih (fun item hMem => hFramed item (by simp [hMem]))
                (fun item hMem => hValues item (by simp [hMem]))
                hFramed'.after (by simp) hRead with
              ⟨hRest, hLength⟩
            exact ⟨hRest, Nat.succ_le_succ hLength⟩

end Request

end PluginStudio
