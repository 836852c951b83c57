import Mathlib.Data.List.Infix
import Mathlib.Tactic.SplitIfs
import PluginStudio.Descriptor
import PluginStudio.Path

/-
  Default descriptors hold the texts of their request.

  Key definitions include:
    * `PluginStudio.Template.Piece`
    * `PluginStudio.Template.assemble`
    * `PluginStudio.Template.cut`
    * `PluginStudio.Descriptor.told`

  Main declarations:
    * `Template.fillChars_literal`, `Template.fillChars_gap`
    * `Template.fill_assemble`
    * `Descriptor.cuts_template`
    * `Descriptor.render_verbatim`

  A template is texts and gaps in turns.  Filling it leaves the
  texts as they are and puts a value in each gap, whatever braces
  there are in the values.
-/

------------------------------------------------------------
-- Pieces
------------------------------------------------------------

namespace PluginStudio

namespace Template

/- A piece of a template: a text, or a gap with a name. -/
inductive Piece where
  | literal (text : List Char)
  | gap (name : String)
deriving DecidableEq, Repr

/- No placeholder starts or ends among the characters. -/
def BraceFree (cs : List Char) : Prop :=
  '{' ∉ cs ∧ '}' ∉ cs

instance (cs : List Char) : Decidable (BraceFree cs) :=
  inferInstanceAs (Decidable (_ ∧ _))

namespace Piece

/- The characters of a piece, with something in the gap. -/
def chars
    (put : String → String) :
    Piece → List Char
  | literal text => text
  | gap name => (put name).toList

/- The name of a gap. -/
def name? : Piece → Option String
  | literal _ => none
  | gap name => some name

/- Is the piece free of braces? -/
def Clean : Piece → Prop
  | literal text => BraceFree text
  | gap name => BraceFree name.toList

instance : DecidablePred Clean
  | literal _ => inferInstanceAs (Decidable (BraceFree _))
  | gap _ => inferInstanceAs (Decidable (BraceFree _))

end Piece

/- Pieces put together, with something in each gap. -/
def assemble
    (put : String → String)
    (pieces : List Piece) : String :=
  String.ofList (pieces.flatMap (Piece.chars put))

/- The gaps among pieces, in their order. -/
def gaps (pieces : List Piece) : List String :=
  pieces.filterMap Piece.name?

/- A name as the placeholder of a template. -/
def braced (name : String) : String :=
  "\x7b" ++ name ++ "\x7d"

theorem toList_braced (name : String) :
    (braced name).toList = '{' :: (name.toList ++ ['}']) := by
  simp [braced]

/- What is put in a gap is found in the whole. -/
theorem infix_assemble
    {pieces : List Piece}
    {name : String}
    (hName : name ∈ gaps pieces)
    (put : String → String) :
    (put name).toList <:+: (assemble put pieces).toList := by
  rcases List.mem_filterMap.mp hName with ⟨piece, hMem, hPiece⟩
  rcases List.append_of_mem hMem with ⟨front, back, rfl⟩
  cases piece with
  | literal text => contradiction
  | gap other =>
      rcases Option.some.inj hPiece with rfl
      refine ⟨front.flatMap (Piece.chars put),
        back.flatMap (Piece.chars put), ?_⟩
      simp [assemble, Piece.chars]

end Template

end PluginStudio

------------------------------------------------------------
-- Filling Piece By Piece
------------------------------------------------------------

namespace PluginStudio

namespace Template

variable {values : Values}

/- Nothing happens to a text without braces. -/
theorem fillChars_literal
    {literal : List Char}
    (hLiteral : '{' ∉ literal)
    (rest : List Char) :
    fillChars values (literal ++ rest) =
      literal ++ fillChars values rest := by
  induction literal with
  | nil => rfl
  | cons c cs ih =>
      rw [List.mem_cons, not_or] at hLiteral
      rw [List.cons_append, fillChars, if_neg (Ne.symm hLiteral.1),
        ih hLiteral.2, List.cons_append]

/- The name of a placeholder ends with the first brace after it. -/
theorem placeholder?_append
    {name value : String}
    (hName : '}' ∉ name.toList)
    (hValue : values.lookup name = some value)
    (rest : List Char) :
    placeholder? values (name.toList ++ '}' :: rest) =
      some (value, rest) := by
  have hAll : ∀ c ∈ name.toList, decide (c ≠ '}') = true := by
    intro c hMem
    rw [decide_eq_true_eq]
    rintro rfl
    exact hName hMem
  rw [placeholder?, List.takeWhile_append_of_pos hAll,
    List.dropWhile_append_of_pos hAll]
  simp [hValue]

/- The value takes the place of its placeholder as it is. -/
theorem fillChars_gap
    {name value : String}
    (hName : '}' ∉ name.toList)
    (hValue : values.lookup name = some value)
    (rest : List Char) :
    fillChars values ('{' :: (name.toList ++ '}' :: rest)) =
      value.toList ++ fillChars values rest := by
  rw [fillChars, if_pos rfl]
  split
  next found after hFound =>
    rw [placeholder?_append hName hValue, Option.some.injEq,
      Prod.mk.injEq] at hFound
    rw [hFound.1, hFound.2]
  next hNone =>
    rw [placeholder?_append hName hValue] at hNone
    contradiction

/- A piece is filled without regard to what follows it. -/
theorem fillChars_chars
    {put : String → String}
    {piece : Piece}
    (hClean : piece.Clean)
    (hGiven :
      ∀ name, piece.name? = some name →
        values.lookup name = some (put name))
    (rest : List Char) :
    fillChars values (piece.chars braced ++ rest) =
      piece.chars put ++ fillChars values rest := by
  cases piece with
  | literal text => exact fillChars_literal hClean.1 rest
  | gap name =>
      rw [Piece.chars, toList_braced, List.cons_append,
        List.append_assoc, List.singleton_append,
        fillChars_gap hClean.2 (hGiven name rfl), Piece.chars]

/- So a template is its texts with a value in each gap. -/
theorem fill_assemble
    {put : String → String}
    {pieces : List Piece}
    (hClean : ∀ piece ∈ pieces, piece.Clean)
    (hGiven :
      ∀ name ∈ gaps pieces, values.lookup name = some (put name)) :
    fill values (assemble braced pieces) = assemble put pieces := by
  rw [fill, assemble, assemble, String.toList_ofList]
  congr 1
  induction pieces with
  | nil => rw [List.flatMap_nil, List.flatMap_nil, fillChars]
  | cons piece pieces ih =>
      rw [List.forall_mem_cons] at hClean
      have hFirst :
          ∀ name, piece.name? = some name →
            values.lookup name = some (put name) := by
        intro name hName
        exact hGiven name
          (List.mem_filterMap.mpr ⟨piece, by simp, hName⟩)
      have hRest :
          ∀ name ∈ gaps pieces,
            values.lookup name = some (put name) := by
        intro name hName
        rcases List.mem_filterMap.mp hName with ⟨other, hMem, hOther⟩
        exact hGiven name
          (List.mem_filterMap.mpr
            ⟨other, List.mem_cons_of_mem _ hMem, hOther⟩)
      rw [List.flatMap_cons, List.flatMap_cons,
        fillChars_chars hClean.1 hFirst, ih hClean.2 hRest]

end Template

end PluginStudio

------------------------------------------------------------
-- Descriptors
------------------------------------------------------------

namespace PluginStudio

namespace Template

/- A template cut at its placeholders. -/
def cut (template : List Char) : List Piece :=
  match Path.splitOn '{' template with
  | [] => []
  | start :: parts =>
    .literal start ::
      parts.flatMap fun part =>
        [.gap (String.ofList (part.takeWhile fun c => c ≠ '}')),
          .literal ((part.dropWhile fun c => c ≠ '}').drop 1)]

/- Do the pieces make up the template, with the given gaps? -/
def Cuts
    (pieces : List Piece)
    (names : List String)
    (template : List Char) : Prop :=
  (∀ piece ∈ pieces, piece.Clean) ∧
    gaps pieces = names ∧
      pieces.flatMap (Piece.chars braced) = template

instance
    (pieces : List Piece)
    (names : List String)
    (template : List Char) :
    Decidable (Cuts pieces names template) :=
  inferInstanceAs (Decidable (_ ∧ _ ∧ _))

theorem append_eq_ofList
    {s t : String}
    {cs ds : List Char}
    (hFirst : s = String.ofList cs)
    (hNext : t = String.ofList ds) :
    s ++ t = String.ofList (cs ++ ds) := by
  rw [hFirst, hNext, String.ofList_append]

end Template

namespace Descriptor

open Template

/- What a request tells of the gap with a name. -/
def told (request : Request) : String → String
  | "group_id" =>
    if request.groupId = "" then
      request.packageName
    else
      request.groupId
  | "artifact_id" =>
    if request.artifactId = "" then
      LowerCase.text request.pluginName
    else
      request.artifactId
  | "version" => request.version
  | "main" => request.packageName ++ "." ++ request.mainClass
  | "plugin_name" => request.pluginName
  | "author" => request.author
  | "website" => request.website
  | _ => ""

/- The gaps of a descriptor in their order. -/
def names : Descriptor → List String
  | manifest =>
    ["group_id", "artifact_id", "version", "main", "plugin_name"]
  | metadata =>
    ["plugin_name", "version", "main", "author", "website"]

set_option maxRecDepth 2000 in
/- The templates have these gaps, and braces around them only. -/
theorem cuts_template (descriptor : Descriptor) :
    ∃ cs,
      descriptor.template = String.ofList cs ∧
        Cuts (cut cs) descriptor.names cs := by
  cases descriptor with
  | manifest =>
      constructor
      constructor
      · unfold template manifestTemplate
        -- Line by line, so that no long text has to be evaluated.
        repeat apply append_eq_ofList
        all_goals rfl
      · decide +kernel
  | metadata =>
      constructor
      constructor
      · unfold template metadataTemplate
        repeat apply append_eq_ofList
        all_goals rfl
      · decide +kernel

/- What a request tells of a gap is its value. -/
theorem lookup_values
    (descriptor : Descriptor)
    (request : Request)
    {name : String}
    (hName : name ∈ descriptor.names) :
    (descriptor.values request).lookup name =
      some (told request name) := by
  have hGroup :
      groupId request = told request "group_id" := by
    rw [groupId, Request.override?]
    split_ifs with hEmpty
    · exact (if_pos hEmpty).symm
    · exact (if_neg hEmpty).symm
  have hArtifact :
      artifactId request = told request "artifact_id" := by
    rw [artifactId, Request.override?]
    split_ifs with hEmpty
    · exact (if_pos hEmpty).symm
    · exact (if_neg hEmpty).symm
  cases descriptor with
  | manifest =>
      rw [names] at hName
      simp only [List.mem_cons, List.not_mem_nil, or_false] at hName
      rw [values, hGroup, hArtifact]
      rcases hName with rfl | rfl | rfl | rfl | rfl <;> rfl
  | metadata =>
      rw [names] at hName
      simp only [List.mem_cons, List.not_mem_nil, or_false] at hName
      rcases hName with rfl | rfl | rfl | rfl | rfl <;> rfl

/- So these pieces are put together with what the request tells. -/
theorem render_of_pieces
    {descriptor : Descriptor}
    {pieces : List Piece}
    (hClean : ∀ piece ∈ pieces, piece.Clean)
    (hGaps : gaps pieces = descriptor.names)
    (hTemplate : descriptor.template = assemble braced pieces)
    (request : Request) :
    descriptor.render request = assemble (told request) pieces := by
  rw [render, hTemplate]
  apply fill_assemble hClean
  intro name hName
  exact lookup_values descriptor request (hGaps ▸ hName)

theorem exists_pieces (descriptor : Descriptor) :
    ∃ pieces,
      (∀ piece ∈ pieces, piece.Clean) ∧
        gaps pieces = descriptor.names ∧
          descriptor.template = assemble braced pieces := by
  rcases cuts_template descriptor with
    ⟨cs, hTemplate, hClean, hGaps, hPieces⟩
  exact ⟨cut cs, hClean, hGaps, by rw [assemble, hPieces, hTemplate]⟩

/-
  A default descriptor is its template with what the request tells
  in each gap, and so the manifest holds the package, the name and
  the version of the plugin.
-/
theorem render_verbatim :
    (∀ descriptor : Descriptor,
      ∃ pieces,
        (∀ piece ∈ pieces, piece.Clean) ∧
          gaps pieces = descriptor.names ∧
            descriptor.template = assemble braced pieces ∧
              ∀ request,
                descriptor.render request =
                  assemble (told request) pieces) ∧
      ∀ request : Request,
        request.packageName.toList <:+:
            (manifest.render request).toList ∧
          request.pluginName.toList <:+:
              (manifest.render request).toList ∧
            request.version.toList <:+:
              (manifest.render request).toList := by
  constructor
  · intro descriptor
    rcases exists_pieces descriptor with
      ⟨pieces, hClean, hGaps, hTemplate⟩
    exact ⟨pieces, hClean, hGaps, hTemplate,
      render_of_pieces hClean hGaps hTemplate⟩
  · intro request
    rcases exists_pieces manifest with
      ⟨pieces, hClean, hGaps, hTemplate⟩
    have hTold :
        ∀ name ∈ manifest.names,
          (told request name).toList <:+:
            (manifest.render request).toList := by
      intro name hName
      rw [render_of_pieces hClean hGaps hTemplate request]
      exact infix_assemble (hGaps ▸ hName) (told request)
    have hMain :
        (request.packageName ++ "." ++ request.mainClass).toList <:+:
          (manifest.render request).toList :=
      hTold "main" (by decide)
    refine ⟨List.IsInfix.trans ?_ hMain,
      hTold "plugin_name" (by decide), hTold "version" (by decide)⟩
    rw [String.append_assoc, String.toList_append]
    exact (List.prefix_append _ _).isInfix

/- Values may look like placeholders. -/
example :
    metadata.render
        { pluginName := "\x7bversion\x7d", version := "\x7bmain\x7d" } =
      "name: \x7bversion\x7d\nversion: \x7bmain\x7d\nmain: .\n" ++
        "author: \nwebsite: \napi-version: 1.20" := by
  decide +kernel

end Descriptor

end PluginStudio
