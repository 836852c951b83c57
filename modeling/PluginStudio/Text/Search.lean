/-
  Texts inside of texts.

  Key definitions include:
    * `PluginStudio.Text.holds`
-/

------------------------------------------------------------
-- Search
------------------------------------------------------------

namespace PluginStudio

namespace Text

/- Does a text hold another? -/
def holds
    (text part : List Char) : Bool :=
  match text with
  | [] => part.isEmpty
  | c :: cs => part.isPrefixOf (c :: cs) || holds cs part

end Text

end PluginStudio
