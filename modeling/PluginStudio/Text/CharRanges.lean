/-
  Sets of characters given by ranges of code points.

  Key definitions include:
    * `PluginStudio.CharRanges`
    * `PluginStudio.CharRanges.contains`
-/

------------------------------------------------------------
-- Ranges Of Code Points
------------------------------------------------------------

namespace PluginStudio

/-
  A set of characters as a list of inclusive ranges of code
  points.
-/
abbrev CharRanges :=
  Array (Nat × Nat)

namespace CharRanges

/- Does some range hold the character? -/
def contains
    (ranges : CharRanges)
    (c : Char) : Bool :=
  ranges.any fun range =>
    range.1 ≤ c.toNat && c.toNat ≤ range.2

end CharRanges

end PluginStudio
