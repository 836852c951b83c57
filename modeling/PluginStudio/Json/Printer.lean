import PluginStudio.Text.Utf8

/-
  Writing texts and small objects in JSON.

  Key definitions include:
    * `PluginStudio.Json.Printer.char`
    * `PluginStudio.Json.Printer.text`
    * `PluginStudio.Json.Printer.object`
-/

------------------------------------------------------------
-- Texts And Objects
------------------------------------------------------------

namespace PluginStudio

namespace Json

namespace Printer

/- A control character by its number, in two digits. -/
def numbered (c : Char) : List Char :=
  ['\\', 'u', '0', '0', Nat.digitChar (c.toNat / 16),
    Nat.digitChar (c.toNat % 16)]

/- A character as it stands between the quotes. -/
def char (c : Char) : List Char :=
  if c = '"' then ['\\', '"']
  else if c = '\\' then ['\\', '\\']
  else if c = '\n' then ['\\', 'n']
  else if c = '\r' then ['\\', 'r']
  else if c = '\t' then ['\\', 't']
  else if c = '\x08' then ['\\', 'b']
  else if c = '\x0c' then ['\\', 'f']
  else if c.toNat < 0x20 then numbered c
  else [c]

/- A text in quotes. -/
def text (s : String) : List Char :=
  '"' :: s.toList.flatMap char ++ ['"']

/- A member of an object. -/
def member (entry : String × String) : List Char :=
  text entry.1 ++ ':' :: text entry.2

/- An object of texts, without blanks. -/
def object (entries : List (String × String)) : String :=
  String.ofList
    ('{' :: List.intercalate [','] (entries.map member) ++ ['}'])

end Printer

end Json

end PluginStudio
