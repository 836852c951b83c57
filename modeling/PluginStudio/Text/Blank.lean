import PluginStudio.Text.CharRanges

/-
  White space of all scripts.

  Key definitions include:
    * `PluginStudio.Blank.contains`
    * `PluginStudio.Blank.trimmed`
-/

------------------------------------------------------------
-- White Space
------------------------------------------------------------

namespace PluginStudio

namespace Blank

/- Characters that are white space. -/
def ranges : CharRanges :=
  #[
    (0x9, 0xD), (0x20, 0x20), (0x85, 0x85), (0xA0, 0xA0), (0x1680, 0x1680),
    (0x2000, 0x200A), (0x2028, 0x2029), (0x202F, 0x202F), (0x205F, 0x205F),
    (0x3000, 0x3000)
  ]

/- Is the character white space? -/
def contains (c : Char) : Bool :=
  ranges.contains c

/- A text without the white space around it. -/
def trimmed (cs : List Char) : List Char :=
  ((cs.dropWhile contains).reverse.dropWhile contains).reverse

end Blank

end PluginStudio
