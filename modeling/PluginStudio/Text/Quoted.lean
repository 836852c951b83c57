import PluginStudio.Text.Printable

/-
  Texts in double quotes, with every character that cannot be
  seen written as an escape.

  Key definitions include:
    * `PluginStudio.Quoted.hex`
    * `PluginStudio.Quoted.char`
    * `PluginStudio.Quoted.text`
-/

------------------------------------------------------------
-- Escapes
------------------------------------------------------------

namespace PluginStudio

namespace Quoted

/- Lower-case hexadecimal digits without leading zeros. -/
def hex (n : Nat) : String :=
  String.ofList (Nat.toDigits 16 n)

/- A character by its code point. -/
def codePoint (c : Char) : String :=
  "\\u\x7b" ++ hex c.toNat ++ "\x7d"

/- A character as it stands between the quotes. -/
def char (c : Char) : String :=
  if c = '\x00' then "\\0"
  else if c = '\t' then "\\t"
  else if c = '\r' then "\\r"
  else if c = '\n' then "\\n"
  else if c = '\\' then "\\\\"
  else if c = '"' then "\\\""
  else if Printable.isCombining c then codePoint c
  else if Printable.isVisible c then c.toString
  else codePoint c

/- A text in quotes. -/
def text (s : String) : String :=
  "\"" ++ String.join (s.toList.map char) ++ "\""

end Quoted

end PluginStudio
