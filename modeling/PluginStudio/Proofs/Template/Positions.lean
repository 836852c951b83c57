import Mathlib.Data.List.TakeWhile
import PluginStudio.Proofs.Descriptor.Rendering

/-
  What a template says at each of its positions.

  Key definitions include:
    * `PluginStudio.Template.opening?`
    * `PluginStudio.Template.byPosition`
    * `PluginStudio.Template.Scan`
    * `PluginStudio.Template.Reads`

  Main declarations:
    * `Template.placeholder?_eq_some_iff`
    * `Template.opening?_eq_some_iff`
    * `Template.fillChars_eq_byPosition`
    * `Template.Scan.run_eq`
    * `Template.Reads.fillChars_eq`
    * `Template.fill_byPosition`

  A position either starts a placeholder of a listed name, which
  gives way to its value, or stands for its own character.  To
  search for the braces, to look at every position and to cut the
  template into pieces come to the same text, as long as no name
  holds a closing brace.
-/

------------------------------------------------------------
-- Positions
------------------------------------------------------------

namespace PluginStudio

namespace Template

/- The first pair whose placeholder a text starts with. -/
def opening?
    (values : Values)
    (cs : List Char) : Option (String × String) :=
  values.find? fun pair => (braced pair.1).toList.isPrefixOf cs

/-
  The text of a template, position by position.  Where a
  placeholder starts its value is written and the placeholder
  passed over, and any other character is written as it is.
-/
def byPosition
    (values : Values) :
    List Char → List Char
  | [] => []
  | c :: rest =>
    match opening? values (c :: rest) with
    | some (name, value) =>
      value.toList ++
        byPosition values ((c :: rest).drop (braced name).length)
    | none => c :: byPosition values rest
termination_by template => template.length
decreasing_by
  · rw [← String.length_toList, toList_braced, List.length_drop,
      List.length_cons, List.length_cons]
    omega
  · exact Nat.lt_succ_self _

/- No listed name holds a closing brace. -/
def Closed (values : Values) : Prop :=
  ∀ pair ∈ values, '}' ∉ pair.1.toList

instance (values : Values) : Decidable (Closed values) :=
  inferInstanceAs (Decidable (∀ pair ∈ values, _))

variable {values : Values}

/- A text up to the first of a character, and what follows it. -/
theorem split_at_first
    (stop : Char)
    (cs : List Char) :
    (stop ∉ cs ∧ cs.dropWhile (fun c => c ≠ stop) = []) ∨
      ∃ rest,
        stop ∉ cs.takeWhile (fun c => c ≠ stop) ∧
          cs.dropWhile (fun c => c ≠ stop) = stop :: rest ∧
            cs = cs.takeWhile (fun c => c ≠ stop) ++ stop :: rest := by
  have hSplit := List.takeWhile_append_dropWhile
    (p := fun c : Char => decide (c ≠ stop)) (l := cs)
  have hBefore : stop ∉ cs.takeWhile fun c => c ≠ stop := by
    intro hMem
    simpa using List.mem_takeWhile_imp hMem
  have hStop := List.head?_dropWhile_not
    (fun c : Char => decide (c ≠ stop)) cs
  rcases hDrop : cs.dropWhile fun c => decide (c ≠ stop) with
    _ | ⟨c, rest⟩
  · rw [hDrop, List.append_nil] at hSplit
    rw [hSplit] at hBefore
    exact Or.inl ⟨hBefore, rfl⟩
  · rw [hDrop] at hSplit hStop
    obtain rfl : c = stop := by simpa using hStop
    exact Or.inr ⟨rest, hBefore, rfl, hSplit.symm⟩

/- A name without closing braces ends with the first of them. -/
theorem name_unique
    {name other : String}
    {rest after : List Char}
    (hName : '}' ∉ name.toList)
    (hOther : '}' ∉ other.toList)
    (hEq : name.toList ++ '}' :: rest = other.toList ++ '}' :: after) :
    name = other ∧ rest = after := by
  have hTake :
      ∀ {cs : List Char}, '}' ∉ cs →
        ∀ ds, (cs ++ '}' :: ds).takeWhile (fun c => c ≠ '}') = cs := by
    intro cs hCs ds
    rw [List.takeWhile_append_of_pos (by
      intro c hMem
      rw [decide_eq_true_eq]
      rintro rfl
      exact hCs hMem)]
    simp
  have hNames : name.toList = other.toList := by
    rw [← hTake hName rest, hEq, hTake hOther after]
  rw [hNames, List.append_cancel_left_eq, List.cons.injEq] at hEq
  exact ⟨String.toList_inj.mp hNames, hEq.2⟩

theorem closed_of_lookup
    (hClosed : Closed values)
    {name value : String}
    (hValue : values.lookup name = some value) :
    '}' ∉ name.toList := by
  rcases List.lookup_eq_some_iff.mp hValue with
    ⟨before, after, hSplit, -⟩
  exact hClosed (name, value) (by simp [hSplit])

/- A listed name has a value. -/
theorem lookup_of_mem
    {name : String}
    (hName : name ∈ values.map Prod.fst) :
    values.lookup name = some ((values.lookup name).getD "") := by
  cases hValue : values.lookup name with
  | some value => rfl
  | none =>
      rcases List.mem_map.mp hName with ⟨pair, hMem, rfl⟩
      have := List.lookup_eq_none_iff.mp hValue pair hMem
      simp at this

/- What the search for a closing brace finds. -/
theorem placeholder?_eq_some_iff
    {rest after : List Char}
    {value : String} :
    placeholder? values rest = some (value, after) ↔
      ∃ name,
        '}' ∉ name.toList ∧
          values.lookup name = some value ∧
            rest = name.toList ++ '}' :: after := by
  constructor
  · intro hFound
    rw [placeholder?] at hFound
    rcases split_at_first '}' rest with
      ⟨-, hDrop⟩ | ⟨left, hName, hDrop, hRest⟩
    · rw [hDrop] at hFound
      contradiction
    · rw [hDrop] at hFound
      simp only at hFound
      cases hValue : values.lookup
          (String.ofList (rest.takeWhile fun c => c ≠ '}')) with
      | none =>
          rw [hValue] at hFound
          contradiction
      | some found =>
          rw [hValue, Option.some.injEq, Prod.mk.injEq] at hFound
          rcases hFound with ⟨rfl, rfl⟩
          refine ⟨_, ?_, hValue, ?_⟩
          · rwa [String.toList_ofList]
          · rwa [String.toList_ofList]
  · rintro ⟨name, hName, hValue, rfl⟩
    exact placeholder?_append hName hValue after

/- What the search for a listed placeholder finds. -/
theorem opening?_eq_some_iff
    (hClosed : Closed values)
    {cs : List Char}
    {name value : String} :
    opening? values cs = some (name, value) ↔
      values.lookup name = some value ∧
        (braced name).toList <+: cs := by
  rw [opening?, List.find?_eq_some_iff_append,
    List.lookup_eq_some_iff, List.isPrefixOf_iff_prefix]
  constructor
  · rintro ⟨hStarts, before, after, rfl, hBefore⟩
    refine ⟨⟨before, after, rfl, ?_⟩, hStarts⟩
    intro pair hMem
    rw [bne_iff_ne]
    rintro rfl
    have hNot := hBefore pair hMem
    rw [List.isPrefixOf_iff_prefix.mpr hStarts] at hNot
    contradiction
  · rintro ⟨⟨before, after, rfl, hBefore⟩, hStarts⟩
    refine ⟨hStarts, before, after, rfl, ?_⟩
    intro pair hMem
    rw [Bool.not_eq_true', ← Bool.not_eq_true,
      List.isPrefixOf_iff_prefix]
    intro hOther
    rcases hStarts with ⟨rest, rfl⟩
    rcases hOther with ⟨left, hEq⟩
    rw [toList_braced, toList_braced] at hEq
    have hTexts :
        pair.1.toList ++ '}' :: left = name.toList ++ '}' :: rest := by
      simpa using hEq
    have hSame := name_unique (hClosed pair (by simp [hMem]))
      (hClosed (name, value) (by simp)) hTexts
    simpa [hSame.1] using hBefore pair hMem

/- A placeholder starts with its opening brace. -/
theorem opening?_cons_of_ne
    {c : Char}
    (hNe : c ≠ '{')
    (rest : List Char) :
    opening? values (c :: rest) = none := by
  rw [opening?, List.find?_eq_none]
  intro pair _ hStarts
  rw [List.isPrefixOf_iff_prefix, toList_braced,
    List.cons_prefix_cons] at hStarts
  exact hNe hStarts.1.symm

/- Both searches find the same behind an opening brace. -/
theorem placeholder?_eq_opening?
    (hClosed : Closed values)
    (rest : List Char) :
    placeholder? values rest =
      (opening? values ('{' :: rest)).map fun pair =>
        (pair.2, ('{' :: rest).drop (braced pair.1).length) := by
  cases hOpening : opening? values ('{' :: rest) with
  | some pair =>
      rcases (opening?_eq_some_iff hClosed).mp hOpening with
        ⟨hValue, after, hRest⟩
      have hAfter :
          ('{' :: rest).drop (braced pair.1).length = after := by
        rw [← hRest, ← String.length_toList, List.drop_left]
      rw [toList_braced, List.cons_append, List.cons.injEq,
        List.append_assoc, List.singleton_append] at hRest
      rw [Option.map_some, hAfter, placeholder?_eq_some_iff]
      exact ⟨pair.1, closed_of_lookup hClosed hValue, hValue,
        hRest.2.symm⟩
  | none =>
      rw [Option.map_none, Option.eq_none_iff_forall_ne_some]
      rintro ⟨value, after⟩ hFound
      rcases placeholder?_eq_some_iff.mp hFound with
        ⟨name, -, hValue, rfl⟩
      have hStarts :
          (braced name).toList <+:
            '{' :: (name.toList ++ '}' :: after) := by
        rw [toList_braced]
        exact ⟨after, by simp⟩
      rw [(opening?_eq_some_iff hClosed).mpr ⟨hValue, hStarts⟩]
        at hOpening
      contradiction

/- So to look at every position gives the same text. -/
theorem fillChars_eq_byPosition
    (hClosed : Closed values)
    (template : List Char) :
    fillChars values template = byPosition values template := by
  induction hLength : template.length using Nat.strongRecOn
    generalizing template with
  | _ length ih =>
      cases template with
      | nil => rw [fillChars, byPosition]
      | cons c rest =>
          rw [List.length_cons] at hLength
          rw [fillChars, byPosition]
          by_cases hOpen : c = '{'
          · subst hOpen
            have hSame := placeholder?_eq_opening? hClosed rest
            rw [if_pos rfl]
            split
            next value after hFound =>
              have hShort := placeholder?_length_lt hFound
              rw [hFound] at hSame
              rcases Option.map_eq_some_iff.mp hSame.symm with
                ⟨⟨name, found⟩, hOpening, hPair⟩
              rcases Prod.mk.inj hPair with ⟨rfl, rfl⟩
              rw [hOpening]
              exact congrArg _ (ih _ (by omega) _ rfl)
            next hNone =>
              rw [hNone] at hSame
              rw [Option.map_eq_none_iff.mp hSame.symm]
              exact congrArg _ (ih _ (by omega) _ rfl)
          · rw [if_neg hOpen, opening?_cons_of_ne hOpen]
            exact congrArg _ (ih _ (by omega) _ rfl)

end Template

end PluginStudio

------------------------------------------------------------
-- Rounds From Brace To Brace
------------------------------------------------------------

namespace PluginStudio

namespace Template

/- What was written so far, and what is left of the template. -/
structure Scan where
  out : List Char
  rest : List Char

namespace Scan

variable {values : Values}

/-
  One round: all up to the next opening brace, and then the value
  of the placeholder that the brace opens, or the brace.
-/
def next?
    (values : Values)
    (scan : Scan) : Option Scan :=
  let before := scan.rest.takeWhile fun c => c ≠ '{'
  match scan.rest.dropWhile fun c => c ≠ '{' with
  | [] => none
  | brace :: rest =>
    match placeholder? values rest with
    | some (value, after) =>
      some ⟨scan.out ++ before ++ value.toList, after⟩
    | none => some ⟨scan.out ++ before ++ [brace], rest⟩

/- The parts of a template at its next opening brace. -/
theorem next?_cases
    (values : Values)
    (scan : Scan) :
    ('{' ∉ scan.rest ∧ scan.next? values = none) ∨
      ∃ before rest,
        '{' ∉ before ∧
          scan.rest = before ++ '{' :: rest ∧
            scan.next? values =
              match placeholder? values rest with
              | some (value, after) =>
                some ⟨scan.out ++ before ++ value.toList, after⟩
              | none => some ⟨scan.out ++ before ++ ['{'], rest⟩ := by
  rw [next?]
  rcases split_at_first '{' scan.rest with
    ⟨hNone, hDrop⟩ | ⟨rest, hBefore, hDrop, hRest⟩
  · rw [hDrop]
    exact Or.inl ⟨hNone, rfl⟩
  · rw [hDrop]
    exact Or.inr ⟨_, rest, hBefore, hRest, rfl⟩

/- What is written and what is left make up the same text. -/
theorem fillChars_next?
    {scan next : Scan}
    (hNext : scan.next? values = some next) :
    next.out ++ fillChars values next.rest =
      scan.out ++ fillChars values scan.rest := by
  rcases scan.next?_cases values with
    ⟨-, hNone⟩ | ⟨before, rest, hBefore, hRest, hRound⟩
  · rw [hNone] at hNext
    contradiction
  · rw [hNext] at hRound
    rw [hRest, fillChars_literal hBefore, fillChars, if_pos rfl]
    split
    next value after hFound =>
      rw [hFound, Option.some.injEq] at hRound
      simp [hRound]
    next hNone =>
      rw [hNone, Option.some.injEq] at hRound
      simp [hRound]

theorem next?_length_lt
    {scan next : Scan}
    (hNext : scan.next? values = some next) :
    next.rest.length < scan.rest.length := by
  rcases scan.next?_cases values with
    ⟨-, hNone⟩ | ⟨before, rest, -, hRest, hRound⟩
  · rw [hNone] at hNext
    contradiction
  · rw [hNext] at hRound
    rw [hRest, List.length_append, List.length_cons]
    split at hRound
    next value after hFound =>
      have hShort := placeholder?_length_lt hFound
      rw [Option.some.inj hRound]
      simp only
      omega
    next hNone =>
      rw [Option.some.inj hRound]
      simp only
      omega

/- Round after round, until no opening brace is left. -/
def run
    (values : Values)
    (scan : Scan) : List Char :=
  match _h : scan.next? values with
  | some next => run values next
  | none => scan.out ++ scan.rest
termination_by scan.rest.length
decreasing_by exact next?_length_lt _h

/- The rounds come to the text of the template. -/
theorem run_eq
    (values : Values)
    (scan : Scan) :
    scan.run values = scan.out ++ fillChars values scan.rest := by
  fun_induction run values scan with
  | case1 scan next hNext ih => rw [ih, fillChars_next? hNext]
  | case2 scan hNone =>
      rcases scan.next?_cases values with
        ⟨hBrace, -⟩ | ⟨before, rest, -, -, hRound⟩
      · have hSame : fillChars values (scan.rest ++ []) = _ :=
          fillChars_literal hBrace []
        rw [List.append_nil, fillChars, List.append_nil] at hSame
        rw [hSame]
      · rw [hNone] at hRound
        split at hRound <;> contradiction

end Scan

end Template

end PluginStudio

------------------------------------------------------------
-- Pieces From The Left
------------------------------------------------------------

namespace PluginStudio

namespace Template

/-
  How a template is read from the left, given the names of
  placeholders.  A character is read by itself only where none of
  the placeholders starts.
-/
inductive Reads (names : List String) :
    List Char → List Piece → Prop where
  | nil : Reads names [] []
  | gap
      {name : String} {rest : List Char} {pieces : List Piece}
      (hName : name ∈ names)
      (hRest : Reads names rest pieces) :
      Reads names ((braced name).toList ++ rest) (.gap name :: pieces)
  | char
      {c : Char} {rest : List Char} {pieces : List Piece}
      (hNone : ∀ name ∈ names, ¬ (braced name).toList <+: c :: rest)
      (hRest : Reads names rest pieces) :
      Reads names (c :: rest) (.literal [c] :: pieces)

namespace Reads

variable {names : List String} {values : Values}

/- Every template can be read. -/
theorem exists_pieces
    (names : List String)
    (template : List Char) :
    ∃ pieces, Reads names template pieces := by
  induction hLength : template.length using Nat.strongRecOn
    generalizing template with
  | _ length ih =>
      cases template with
      | nil => exact ⟨[], .nil⟩
      | cons c rest =>
          by_cases hStarts :
              ∃ name ∈ names, (braced name).toList <+: c :: rest
          · rcases hStarts with ⟨name, hName, after, hAfter⟩
            rw [← hAfter] at hLength ⊢
            rw [toList_braced, List.length_append,
              List.length_cons] at hLength
            rcases ih after.length (by omega) after rfl with
              ⟨pieces, hPieces⟩
            exact ⟨_, .gap hName hPieces⟩
          · rcases ih rest.length (by simp [← hLength]) rest rfl with
              ⟨pieces, hPieces⟩
            exact ⟨_, .char
              (fun name hName hPrefix =>
                hStarts ⟨name, hName, hPrefix⟩) hPieces⟩

/- The pieces make up the template. -/
theorem template_eq
    {template : List Char}
    {pieces : List Piece}
    (hReads : Reads names template pieces) :
    pieces.flatMap (Piece.chars braced) = template := by
  induction hReads with
  | nil => rfl
  | gap hName hRest ih => rw [List.flatMap_cons, ih, Piece.chars]
  | char hNone hRest ih =>
      rw [List.flatMap_cons, ih, Piece.chars, List.singleton_append]

/- The text of a template is the values and characters it reads. -/
theorem fillChars_eq
    (hClosed : Closed values)
    {template : List Char}
    {pieces : List Piece}
    (hReads : Reads (values.map Prod.fst) template pieces) :
    fillChars values template =
      pieces.flatMap
        (Piece.chars fun name => (values.lookup name).getD "") := by
  rw [fillChars_eq_byPosition hClosed]
  induction hReads with
  | nil => rw [byPosition, List.flatMap_nil]
  | @gap name rest pieces hName hRest ih =>
      have hOpening :
          opening? values ((braced name).toList ++ rest) =
            some (name, (values.lookup name).getD "") :=
        (opening?_eq_some_iff hClosed).mpr
          ⟨lookup_of_mem hName, List.prefix_append _ _⟩
      have hDrop :
          ((braced name).toList ++ rest).drop (braced name).length =
            rest := by
        rw [← String.length_toList, List.drop_left]
      rw [toList_braced, List.cons_append] at hOpening hDrop ⊢
      rw [byPosition, hOpening]
      simp only
      rw [hDrop, ih, List.flatMap_cons, Piece.chars]
  | @char c rest pieces hNone hRest ih =>
      have hOpening : opening? values (c :: rest) = none := by
        rw [Option.eq_none_iff_forall_ne_some]
        rintro ⟨name, value⟩ hFound
        rcases (opening?_eq_some_iff hClosed).mp hFound with
          ⟨hValue, hStarts⟩
        rcases List.lookup_eq_some_iff.mp hValue with
          ⟨before, after, hSplit, -⟩
        exact hNone name (by simp [hSplit]) hStarts
      rw [byPosition, hOpening, List.flatMap_cons, Piece.chars,
        List.singleton_append, ih]

end Reads

/-
  The scan from brace to brace comes to the text of a template,
  which is its text position by position.  Whatever the values
  are, they are put into the same gaps, and all else is kept.
-/
theorem fill_byPosition
    {values : Values}
    (hClosed : Closed values)
    (template : String) :
    String.ofList (Scan.run values ⟨[], template.toList⟩) =
        fill values template ∧
      fill values template =
          String.ofList (byPosition values template.toList) ∧
        ∃ pieces,
          Reads (values.map Prod.fst) template.toList pieces ∧
            template = assemble braced pieces ∧
              ∀ values' : Values,
                values'.map Prod.fst = values.map Prod.fst →
                  fill values' template =
                    assemble (fun name => (values'.lookup name).getD "")
                      pieces := by
  refine ⟨?_, ?_, ?_⟩
  · rw [Scan.run_eq, List.nil_append, fill]
  · rw [fill, fillChars_eq_byPosition hClosed]
  · rcases Reads.exists_pieces (values.map Prod.fst) template.toList with
      ⟨pieces, hReads⟩
    refine ⟨pieces, hReads, ?_, ?_⟩
    · rw [assemble, hReads.template_eq, String.ofList_toList]
    · intro values' hNames
      have hClosed' : Closed values' := by
        intro pair hMem
        have hName : pair.1 ∈ values.map Prod.fst :=
          hNames ▸ List.mem_map_of_mem hMem
        rcases List.mem_map.mp hName with ⟨other, hOther, hEq⟩
        exact hEq ▸ hClosed other hOther
      rw [← hNames] at hReads
      rw [fill, assemble, hReads.fillChars_eq hClosed']

/- One value looks like a placeholder, and one is never used. -/
def nested : Values :=
  [("a", "\x7bb\x7d"), ("b", "x"), ("a", "y")]

/- Among the braces are some that open or close nothing. -/
def ragged : String :=
  "\x7ba\x7bb\x7d\x7bc\x7d\x7d\x7ba\x7d\x7b"

/- Where the scan and the positions take different ways. -/
theorem fill_byPosition_of_ragged :
    Closed nested ∧
      fill nested ragged =
          "\x7bax\x7bc\x7d\x7d\x7bb\x7d\x7b" ∧
        String.ofList (Scan.run nested ⟨[], ragged.toList⟩) =
            "\x7bax\x7bc\x7d\x7d\x7bb\x7d\x7b" ∧
          String.ofList (byPosition nested ragged.toList) =
            "\x7bax\x7bc\x7d\x7d\x7bb\x7d\x7b" := by
  have hClosed : Closed nested := by decide
  have hFill :
      fill nested ragged =
        "\x7bax\x7bc\x7d\x7d\x7bb\x7d\x7b" := by
    decide +kernel
  rcases fill_byPosition hClosed ragged with ⟨hScan, hSame, -⟩
  exact ⟨hClosed, hFill, hScan.trans hFill, hSame.symm.trans hFill⟩

end Template

end PluginStudio
