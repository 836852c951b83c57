import PluginStudio.Text.Casing
import PluginStudio.Text.LowerCase.Spans

/-
  The lower-case form of a text.

  Key definitions include:
    * `PluginStudio.LowerCase.char`
    * `PluginStudio.LowerCase.endsWord`
    * `PluginStudio.LowerCase.text`

  A dotted capital i has a form of two characters.  A capital
  sigma has a form of its own at the end of a word.
-/

------------------------------------------------------------
-- Single Characters
------------------------------------------------------------

namespace PluginStudio

namespace LowerCase

/- The lower-case form of one character, whatever surrounds it. -/
def char (c : Char) : List Char :=
  if c = 'İ' then
    ['i', '\u0307']
  else
    match spans.findSome? fun span => span.image? c.toNat with
    | some n => [Char.ofNat n]
    | none => [c]

end LowerCase

end PluginStudio

------------------------------------------------------------
-- Sigma At The End Of A Word
------------------------------------------------------------

namespace PluginStudio

namespace LowerCase

/- Is the first character that counts a cased one? -/
def meetsCased (cs : List Char) : Bool :=
  match cs.dropWhile Casing.isIgnorable with
  | c :: _ => Casing.isCased c
  | [] => false

/-
  Does a word end between the characters before, nearest
  first, and those after?
-/
def endsWord
    (before after : List Char) : Bool :=
  meetsCased before && !meetsCased after

/- Lower-case what remains, given the characters before it. -/
def textFrom
    (done : List Char) :
    List Char → List Char → List Char
  | _, [] => done.reverse
  | before, c :: after =>
    let piece :=
      if c = 'Σ' then
        if endsWord before after then ['ς'] else ['σ']
      else
        char c
    textFrom (piece.reverse ++ done) (c :: before) after

/- The lower-case form of a text. -/
def text (s : String) : String :=
  String.ofList (textFrom [] [] s.toList)

end LowerCase

end PluginStudio
