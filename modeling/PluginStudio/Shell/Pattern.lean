/-
  Patterns for texts and file names.

  Key definitions include:
    * `PluginStudio.Shell.Glyph`
    * `PluginStudio.Shell.Pattern`
    * `PluginStudio.Shell.Pattern.ofGlyphs`
    * `PluginStudio.Shell.Pattern.accepts`
    * `PluginStudio.Shell.Pattern.cutFront`
-/

------------------------------------------------------------
-- Patterns
------------------------------------------------------------

namespace PluginStudio

namespace Shell

/- A character, and whether it only stands for itself. -/
structure Glyph where
  char : Char
  quoted : Bool
deriving DecidableEq, Repr

/- What a part of a pattern stands for. -/
inductive Atom where
  | any
  | one
  | char (c : Char)
  | set (negated : Bool) (ranges : List (Char × Char))
deriving DecidableEq, Repr

/- A pattern is its parts in their order. -/
abbrev Pattern :=
  List Atom

namespace Pattern

/- The characters of a named class. -/
def classRanges (name : String) : List (Char × Char) :=
  match name with
  | "alpha" => [('a', 'z'), ('A', 'Z')]
  | "digit" => [('0', '9')]
  | "alnum" => [('a', 'z'), ('A', 'Z'), ('0', '9')]
  | "upper" => [('A', 'Z')]
  | "lower" => [('a', 'z')]
  | "space" => [(' ', ' '), ('\t', '\r')]
  | "blank" => [(' ', ' '), ('\t', '\t')]
  | "punct" => [('!', '/'), (':', '@'), ('[', Char.ofNat 96), ('\x7b', '~')]
  | "xdigit" => [('a', 'f'), ('A', 'F'), ('0', '9')]
  | "cntrl" => [(Char.ofNat 0, Char.ofNat 31), (Char.ofNat 127, Char.ofNat 127)]
  | "print" => [(' ', '~')]
  | "graph" => [('!', '~')]
  | _ => []

/-
  The rest of a set in brackets, and what follows it.  Nothing
  if the brackets are never closed.
-/
def setRest? :
    Nat → Bool → List (Char × Char) → List Glyph →
    Option (List (Char × Char) × List Glyph)
  | 0, _, _, _ => none
  | _ + 1, _, _, [] => none
  | fuel + 1, first, acc, g :: gs =>
    if g.char = ']' && !g.quoted && !first then
      some (acc, gs)
    else
      match g.char, g.quoted, gs with
      | '[', false, ⟨':', false⟩ :: more =>
        let name := more.takeWhile fun h => h.char.isAlpha
        match more.drop name.length with
        | ⟨':', _⟩ :: ⟨']', _⟩ :: behind =>
          setRest? fuel false
            (classRanges (String.ofList (name.map Glyph.char)) ++ acc)
            behind
        | _ => setRest? fuel false ((g.char, g.char) :: acc) gs
      | _, _, ⟨'-', false⟩ :: h :: more =>
        if h.char = ']' && !h.quoted then
          setRest? fuel false ((g.char, g.char) :: acc) gs
        else
          setRest? fuel false ((g.char, h.char) :: acc) more
      | _, _, _ => setRest? fuel false ((g.char, g.char) :: acc) gs

/- The pattern that glyphs write. -/
def ofGlyphsWithin : Nat → List Glyph → Pattern
  | 0, _ => []
  | _ + 1, [] => []
  | fuel + 1, g :: gs =>
    if g.quoted then
      .char g.char :: ofGlyphsWithin fuel gs
    else if g.char = '*' then
      .any :: ofGlyphsWithin fuel gs
    else if g.char = '?' then
      .one :: ofGlyphsWithin fuel gs
    else if g.char = '\\' then
      match gs with
      | [] => [.char '\\']
      | h :: more => .char h.char :: ofGlyphsWithin fuel more
    else if g.char = '[' then
      let negated :=
        match gs with
        | ⟨'!', false⟩ :: _ => true
        | ⟨'^', false⟩ :: _ => true
        | _ => false
      let inside := if negated then gs.drop 1 else gs
      match setRest? (inside.length + 1) true [] inside with
      | some (ranges, more) =>
        .set negated ranges :: ofGlyphsWithin fuel more
      | none => .char '[' :: ofGlyphsWithin fuel gs
    else
      .char g.char :: ofGlyphsWithin fuel gs

/- The pattern that glyphs write. -/
def ofGlyphs (glyphs : List Glyph) : Pattern :=
  ofGlyphsWithin (glyphs.length + 1) glyphs

/- Does a part that stands for one character accept it? -/
def acceptsChar
    (atom : Atom)
    (c : Char) : Bool :=
  match atom with
  | .any => true
  | .one => true
  | .char d => c = d
  | .set negated ranges =>
    (ranges.any fun range => range.1 ≤ c && c ≤ range.2) != negated

/- The ends of a list, from itself down to nothing. -/
def tails : List Char → List (List Char)
  | [] => [[]]
  | c :: cs => (c :: cs) :: tails cs

/- Does the pattern accept all of a text? -/
def accepts : Pattern → List Char → Bool
  | [], cs => cs.isEmpty
  | .any :: atoms, cs => (tails cs).any (accepts atoms)
  | atom :: atoms, c :: cs => acceptsChar atom c && accepts atoms cs
  | _ :: _, [] => false

/- Could the pattern accept more than one text? -/
def isOpen (pattern : Pattern) : Bool :=
  pattern.any fun atom =>
    match atom with
    | .char _ => false
    | _ => true

end Pattern

end Shell

end PluginStudio

------------------------------------------------------------
-- Cutting
------------------------------------------------------------

namespace PluginStudio

namespace Shell

namespace Pattern

/- Positions in a text, the start first. -/
def positions (cs : List Char) : List Nat :=
  List.range (cs.length + 1)

/- A text without a beginning that the pattern accepts. -/
def cutFront
    (pattern : Pattern)
    (longest : Bool)
    (cs : List Char) : List Char :=
  let order := if longest then (positions cs).reverse else positions cs
  match order.find? fun n => pattern.accepts (cs.take n) with
  | some n => cs.drop n
  | none => cs

/- A text without an end that the pattern accepts. -/
def cutBack
    (pattern : Pattern)
    (longest : Bool)
    (cs : List Char) : List Char :=
  let order := if longest then positions cs else (positions cs).reverse
  match order.find? fun n => pattern.accepts (cs.drop n) with
  | some n => cs.take n
  | none => cs

end Pattern

end Shell

end PluginStudio
