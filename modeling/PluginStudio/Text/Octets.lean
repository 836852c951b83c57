import PluginStudio.Text.Utf8

/-
  Texts that hold bytes.

  Key definitions include:
    * `PluginStudio.Octets.text`
    * `PluginStudio.Octets.bytes`
    * `PluginStudio.Octets.ofString`
    * `PluginStudio.Octets.toString?`
    * `PluginStudio.Octets.legible`

  Programs pass on bytes that need not be characters of any
  encoding, and names of files are such bytes.  They are kept as
  a text in which every character stands for the byte of its
  number, so that texts are ordered as their bytes are.
-/

------------------------------------------------------------
-- Bytes And Characters
------------------------------------------------------------

namespace PluginStudio

namespace Octets

/- The text that holds the given bytes. -/
def text (bytes : Bytes) : String :=
  String.ofList (bytes.map fun b => Char.ofNat b.toNat)

/- The bytes that a text holds. -/
def bytes (text : String) : Bytes :=
  text.toList.map fun c => UInt8.ofNat c.toNat

/- The text that holds the bytes of a string. -/
def ofString (s : String) : String :=
  text (Utf8.encode s)

/- The string whose bytes a text holds, if there is one. -/
def toString? (text : String) : Option String :=
  Utf8.decode? (bytes text)

/- The string to show, with marks for bytes of no character. -/
def legible (text : String) : String :=
  String.ofList (Utf8.legible (bytes text))

end Octets

end PluginStudio
