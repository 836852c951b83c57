import PluginStudio.Shell.Pattern
import PluginStudio.Shell.State

/-
  From words to the arguments of commands.

  Key definitions include:
    * `PluginStudio.Shell.Fragment`
    * `PluginStudio.Shell.expandFields`
    * `PluginStudio.Shell.expandText`
    * `PluginStudio.Shell.expandGlyphs`

  What a command prints, where a word asks for it, is given by a
  parameter.  Depth is bounded by a budget, since defaults of
  parameters are words again.
-/

------------------------------------------------------------
-- Fragments
------------------------------------------------------------

namespace PluginStudio

namespace Shell

/-
  A part of an expanded word.  `splits` says that separators in
  it end a field.  A gap always ends one, and the mark of an
  empty list takes away a field that is otherwise empty.
-/
inductive Fragment where
  | text (text : String) (quoted splits : Bool)
  | gap
  | void
deriving Repr

/- Texts with a gap between two of them. -/
def gapped : List Fragment → List Fragment
  | [] => []
  | [fragment] => [fragment]
  | fragment :: fragments => fragment :: .gap :: gapped fragments

/- All arguments as one parameter. -/
def allArgs
    (state : State)
    (name : String)
    (quoted : Bool) : List Fragment :=
  if quoted && name = "*" then
    let sep :=
      match state.value? "IFS" with
      | none => " "
      | some value => String.ofList (value.toList.take 1)
    [.text (String.intercalate sep state.args) true false]
  else if quoted then
    if state.args.isEmpty then
      [.void]
    else
      gapped (state.args.map fun arg => .text arg true false)
  else
    gapped (state.args.map fun arg => .text arg false true)

/- Is the parameter a list of all arguments? -/
def isList (name : String) : Bool :=
  name = "@" || name = "*"

/- The glyphs of fragments in a row. -/
def glyphsOf (fragments : List Fragment) : List Glyph :=
  fragments.flatMap fun fragment =>
    match fragment with
    | .text text quoted _ => text.toList.map fun c => ⟨c, quoted⟩
    | .gap => [⟨' ', true⟩]
    | .void => []

/- The text of fragments in a row. -/
def textOf (fragments : List Fragment) : String :=
  String.ofList ((glyphsOf fragments).map Glyph.char)

end Shell

end PluginStudio

------------------------------------------------------------
-- Expanding Pieces
------------------------------------------------------------

namespace PluginStudio

namespace Shell

/- How the output of a command is taken. -/
abbrev Capture :=
  Command → Action String

/- A parameter has no value, and should have one. -/
def unsetParameter
    {α : Type}
    (name : String) : Action α :=
  abort (name ++ ": parameter not set")

/- Is the text a name that a variable can have? -/
def isNameText (name : String) : Bool :=
  match name.toList with
  | [] => false
  | c :: _ => c.isAlpha || c = '_'

mutual

/- The fragments of a word. -/
def expandPieces
    (capture : Capture) :
    Nat → Word → Action (List Fragment)
  | 0, _ => return []
  | _ + 1, [] => return []
  | fuel + 1, piece :: pieces => do
    let first ← expandPiece capture fuel piece
    let others ← expandPieces capture fuel pieces
    return first ++ others

/- The fragments of a part of a word. -/
def expandPiece
    (capture : Capture) :
    Nat → Piece → Action (List Fragment)
  | 0, _ => return []
  | fuel + 1, piece => do
    match piece with
    | .bare text => return [.text text false false]
    | .quoted text => return [.text text true false]
    | .output command quoted =>
      let text ← capture command
      return [.text text quoted (!quoted)]
    | .sum expression quoted =>
      let fragments ← expandPieces capture fuel expression
      let n ← calculate (textOf fragments)
      return [.text (toString n) quoted (!quoted)]
    | .variable name use quoted =>
      let state ← get
      let value? :=
        if isList name then
          if state.args.isEmpty then none
          else some (String.intercalate " " state.args)
        else
          state.parameter? name
      let own : List Fragment :=
        if isList name then
          allArgs state name quoted
        else
          [.text (value?.getD "") quoted (!quoted)]
      let missing (strict : Bool) : Bool :=
        match value? with
        | none => true
        | some value => strict && value = ""
      let reword (fragments : List Fragment) : List Fragment :=
        fragments.map fun fragment =>
          match fragment with
          | .text text inner _ =>
            .text text (inner || quoted) (!(inner || quoted))
          | other => other
      match use with
      | .unreadable => abort "Bad substitution"
      | .value =>
        if value?.isNone && state.options.failOnUnset &&
            !isList name then
          unsetParameter name
        else
          return own
      | .length =>
        if isList name then
          return [.text (toString state.args.length) quoted (!quoted)]
        else if value?.isNone && state.options.failOnUnset then
          unsetParameter name
        else
          return [.text (toString (value?.getD "").length) quoted
            (!quoted)]
      | .orElse strict word =>
        if missing strict then
          return reword (← expandPieces capture fuel word)
        else
          return own
      | .orAssign strict word =>
        if missing strict then
          let text := textOf (← expandPieces capture fuel word)
          if isNameText name then
            assign name text
            return [.text text quoted (!quoted)]
          else
            abort (name ++ ": bad variable name")
        else
          return own
      | .orFail strict word =>
        if missing strict then
          let text := textOf (← expandPieces capture fuel word)
          abort (name ++ ": " ++
            (if word.isEmpty then
              if strict then "parameter not set or null"
              else "parameter not set"
            else text))
        else
          return own
      | .ifGiven strict word =>
        if missing strict then
          return [.text "" quoted (!quoted)]
        else
          return reword (← expandPieces capture fuel word)
      | .without side longest word =>
        if value?.isNone && state.options.failOnUnset &&
            !isList name then
          unsetParameter name
        else
          let fragments ← expandPieces capture fuel word
          let pattern := Pattern.ofGlyphs (glyphsOf fragments)
          let cs := (value?.getD "").toList
          let kept :=
            match side with
            | .front => pattern.cutFront longest cs
            | .back => pattern.cutBack longest cs
          return [.text (String.ofList kept) quoted (!quoted)]

end

/- How deep words may nest. -/
def depth : Nat := 1000000

/- With the home directory for a tilde in front. -/
def expandTilde (word : Word) : Action Word := do
  match word with
  | .bare text :: pieces =>
    match text.toList, (← get).value? "HOME" with
    | ['~'], some home => return .quoted home :: pieces
    | '~' :: '/' :: cs, some home =>
      return .quoted home :: .bare (String.ofList ('/' :: cs)) :: pieces
    | _, _ => return word
  | _ => return word

/- The fragments of a word. -/
def expandWord
    (capture : Capture)
    (word : Word) : Action (List Fragment) := do
  expandPieces capture depth (← expandTilde word)

/- The text of a word that is not split. -/
def expandText
    (capture : Capture)
    (word : Word) : Action String := do
  return textOf (← expandWord capture word)

/- The glyphs of a word that is a pattern. -/
def expandGlyphs
    (capture : Capture)
    (word : Word) : Action (List Glyph) := do
  return glyphsOf (← expandWord capture word)

end Shell

end PluginStudio

------------------------------------------------------------
-- Fields
------------------------------------------------------------

namespace PluginStudio

namespace Shell

/-
  Fields that are finished, the latest first, and the one that
  is being built, its last glyph first.  `blankEnd` says that
  white space ended the last field.
-/
structure Fields where
  done : List (List Glyph)
  open? : Option (List Glyph)
  blankEnd : Bool

namespace Fields

/- Finish the open field. -/
def close (fields : Fields) : Fields :=
  match fields.open? with
  | none => fields
  | some glyphs =>
    { fields with done := glyphs.reverse :: fields.done, open? := none }

/- Add a glyph to the open field. -/
def push
    (fields : Fields)
    (glyph : Glyph) : Fields :=
  { fields with
    open? := some (glyph :: fields.open?.getD [])
    blankEnd := false }

/- Add a character that may be a separator. -/
def feed
    (separators : List Char)
    (fields : Fields)
    (c : Char) : Fields :=
  let isSpace := c = ' ' || c = '\t' || c = '\n'
  if c ∉ separators then
    fields.push ⟨c, false⟩
  else if isSpace then
    if fields.open?.isSome then
      { fields.close with blankEnd := true }
    else
      fields
  else if fields.open?.isSome then
    { fields.close with blankEnd := false }
  else if fields.blankEnd then
    { fields with blankEnd := false }
  else
    { fields with done := [] :: fields.done }

/- Add a fragment. -/
def add
    (separators : List Char)
    (fields : Fields)
    (fragment : Fragment) : Fields :=
  match fragment with
  | .void => fields
  | .gap => fields.close
  | .text text quoted splits =>
    if splits then
      text.toList.foldl (feed separators) fields
    else if text = "" then
      if quoted then
        { fields with open? := some (fields.open?.getD []) }
      else
        fields
    else
      text.toList.foldl (fun f c => f.push ⟨c, quoted⟩) fields

end Fields

/- Does a list of fragments hold nothing but an empty list? -/
def isVoid (fragments : List Fragment) : Bool :=
  fragments.any (fun fragment =>
    match fragment with
    | .void => true
    | _ => false) &&
  fragments.all fun fragment =>
    match fragment with
    | .text text _ _ => text = ""
    | _ => true

/- The fields of an expanded word. -/
def fieldsOf
    (separators : List Char)
    (fragments : List Fragment) : List (List Glyph) :=
  if isVoid fragments then
    []
  else
    (fragments.foldl (Fields.add separators)
      ⟨[], none, false⟩).close.done.reverse

end Shell

end PluginStudio

------------------------------------------------------------
-- File Names
------------------------------------------------------------

namespace PluginStudio

namespace Shell

/- Glyphs between slashes. -/
def splitGlyphs (glyphs : List Glyph) : List (List Glyph) :=
  glyphs.foldr
    (fun g parts =>
      if g.char = '/' then
        [] :: parts
      else
        match parts with
        | [] => [[g]]
        | part :: parts => (g :: part) :: parts)
    [[]]

/- The text of glyphs. -/
def plainText (glyphs : List Glyph) : String :=
  String.ofList (glyphs.map Glyph.char)

/- The names in a directory that a pattern accepts. -/
def matching
    (fs : FileSystem)
    (dir : Place)
    (at_ : String)
    (part : List Glyph) : List String :=
  let pattern := Pattern.ofGlyphs part
  let p := if at_ = "" then "." else at_
  match fs.list dir p with
  | .error _ => []
  | .ok entries =>
    let names := "." :: ".." :: entries.map fun entry => entry.1
    (names.filter fun name =>
      pattern.accepts name.toList &&
        (name.toList.head? ≠ some '.' ||
          (part.head?.map Glyph.char) = some '.')).mergeSort
      fun a b => a ≤ b

/- The paths that parts of a pattern lead to, from some others. -/
def walkPattern
    (fs : FileSystem)
    (dir : Place) :
    List (List Glyph) → Bool → List String → List String
  | [], _, starts => starts
  | part :: parts, first, starts =>
    let sep (start : String) : String := if first then start else start ++ "/"
    let next :=
      starts.flatMap fun start =>
        if (Pattern.ofGlyphs part).isOpen then
          (matching fs dir (sep start) part).map fun name =>
            sep start ++ name
        else
          let path := sep start ++ plainText part
          if (first && part.isEmpty) || fs.pathExists dir path then
            [path]
          else
            []
    walkPattern fs dir parts false next

/- The file names that a field stands for, or else its text. -/
def expandPattern
    (fs : FileSystem)
    (dir : Place)
    (field : List Glyph) : List String :=
  if (Pattern.ofGlyphs field).isOpen then
    match walkPattern fs dir (splitGlyphs field) true [""] with
    | [] => [plainText field]
    | paths => paths
  else
    [plainText field]

/- The arguments that a word stands for. -/
def expandFields
    (capture : Capture)
    (word : Word) : Action (List String) := do
  let fragments ← expandWord capture word
  let state ← get
  let fields := fieldsOf state.separators fragments
  return fields.flatMap fun field =>
    if state.options.keepPatterns then
      [plainText field]
    else
      expandPattern state.machine.files state.dir field

/- The arguments that words stand for. -/
def expandAll
    (capture : Capture) :
    List Word → Action (List String)
  | [] => return []
  | word :: words => do
    let first ← expandFields capture word
    let others ← expandAll capture words
    return first ++ others

end Shell

end PluginStudio
