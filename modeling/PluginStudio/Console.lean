import PluginStudio.Text.Gb18030

/-
  The text of what a build tool wrote to its console.

  Key definitions include:
    * `PluginStudio.Console.decode`
    * `PluginStudio.Console.text`

  Bytes that are well-formed Unicode throughout are taken as
  they are.  All others are read in the Chinese national
  encoding, which such consoles use instead.
-/

------------------------------------------------------------
-- Console Output
------------------------------------------------------------

namespace PluginStudio

namespace Console

/- The text of an output, and whether parts of it were lost. -/
def decode (output : Bytes) : Gb18030.Decoded :=
  match Utf8.decode? output with
  | some text => ⟨text, false⟩
  | none => Gb18030.decode output

/- The text of an output. -/
def text (output : Bytes) : String :=
  (decode output).text

end Console

end PluginStudio
