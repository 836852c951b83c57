import PluginStudio.Text.Percent

/-
  The header under which an artifact is downloaded.

  Key definitions include:
    * `PluginStudio.Disposition.isQuotable`
    * `PluginStudio.Disposition.isAttrChar`
    * `PluginStudio.Disposition.fileName`
    * `PluginStudio.Disposition.text`
    * `PluginStudio.Disposition.isHeaderText`
    * `PluginStudio.Disposition.value`

  The plain form of a name holds an underscore for every
  character that cannot stand in it.  A name that is not ASCII
  is also given in full, as the bytes of its text.  Should no
  header be able to hold all this, no name is given.
-/

------------------------------------------------------------
-- File Names In Headers
------------------------------------------------------------

namespace PluginStudio

namespace Disposition

/- Can the character stand in a quoted header value? -/
def isQuotable (c : Char) : Bool :=
  ' ' ≤ c && c ≤ '~' && c ≠ '"' && c ≠ '\\'

/- Can the byte stand in an extended value as itself? -/
def isAttrChar (c : Char) : Bool :=
  c.isAlphanum || "!#$&+-.^_`|~".toList.contains c

/- The name of the file that holds a plugin. -/
def fileName (plugin : String) : String :=
  plugin ++ ".jar"

/- Is every character of the text an ASCII one? -/
def isAscii (s : String) : Bool :=
  s.toList.all fun c => c.toNat < 0x80

/- The plain form of a file name. -/
def plainForm (name : String) : List Char :=
  name.toList.map fun c => if isQuotable c then c else '_'

/- The parameter that gives a name in full. -/
def extendedPart (name : String) : List Char :=
  if isAscii name then
    []
  else
    "; filename*=UTF-8''".toList ++ Percent.encode isAttrChar name

/- What is to be said of a plugin's file. -/
def text (plugin : String) : String :=
  let name := fileName plugin
  String.ofList
    ("attachment; filename=\"".toList ++ plainForm name ++
      '"' :: extendedPart name)

/- Can a header hold the text? -/
def isHeaderText (s : String) : Bool :=
  s.toList.all fun c => c = '\t' || (' ' ≤ c && c ≤ '~')

/- The header's value for a plugin. -/
def value (plugin : String) : String :=
  if isHeaderText (text plugin) then text plugin else "attachment"

end Disposition

end PluginStudio
