import PluginStudio.Text.Octets

/-
  Names in complaints.

  Key definitions include:
    * `PluginStudio.Utility.quote`
    * `PluginStudio.Utility.quoteIfNeeded`
    * `PluginStudio.Utility.quoteEscaped`

  A name is shown so that a shell could read it back, in quotes
  that some utilities leave out where a shell needs none.  Other
  utilities write escapes behind backslashes.
-/

------------------------------------------------------------
-- Escapes
------------------------------------------------------------

namespace PluginStudio

namespace Utility

/- Can the byte be shown as it is? -/
def isVisible (c : Char) : Bool :=
  ' ' ≤ c && c ≤ '~'

/- Letters that stand for bytes behind a backslash. -/
def escapeLetters : List (Nat × Char) :=
  [(7, 'a'), (8, 'b'), (9, 't'), (10, 'n'), (11, 'v'), (12, 'f'), (13, 'r')]

/- A byte behind a backslash, by a letter or by its number. -/
def escaped (c : Char) : List Char :=
  let n := c.toNat
  match escapeLetters.lookup n with
  | some letter => ['\\', letter]
  | none =>
    ['\\', Nat.digitChar (n / 64), Nat.digitChar (n / 8 % 8),
      Nat.digitChar (n % 8)]

end Utility

end PluginStudio

------------------------------------------------------------
-- Quotes
------------------------------------------------------------

namespace PluginStudio

namespace Utility

/- Characters that double quotes leave as they are. -/
def fitsDoubleQuotes (c : Char) : Bool :=
  c.isAlphanum || " %+,-./:]_'".toList.contains c

/- May the name stand in double quotes? -/
def fitsDouble : List Char → Bool
  | [] => true
  | c :: cs =>
    (fitsDoubleQuotes c || c = '#' || c = '~') && cs.all fitsDoubleQuotes

/-
  What stands between single quotes.  Bytes that cannot be shown
  are written in quotes of their own, behind a dollar sign.
-/
def quotedFrom
    (escaping : Bool) :
    List Char → List Char
  | [] => []
  | c :: cs =>
    if c = '\'' then
      ['\'', '\\', '\'', '\''] ++ quotedFrom false cs
    else if isVisible c then
      (if escaping then ['\'', '\''] else []) ++ c :: quotedFrom false cs
    else
      (if escaping then [] else ['\'', '$', '\'']) ++ escaped c ++
        quotedFrom true cs

/- A name in quotes. -/
def quote (name : String) : String :=
  let cs := name.toList
  if cs.contains '\'' && fitsDouble cs then
    "\"" ++ name ++ "\""
  else
    "'" ++ String.ofList (quotedFrom false cs) ++ "'"

/- Does a shell give the character a meaning anywhere? -/
def isSpecial (c : Char) : Bool :=
  !isVisible c || " !\"$&()*;<=>[^`|'?\\".toList.contains c

/- Would a shell read something else without quotes? -/
def needsQuotes (name : String) : Bool :=
  match name.toList with
  | [] => true
  | [c] => isSpecial c || "#~\x7b\x7d".toList.contains c
  | c :: cs =>
    isSpecial c || c = '#' || c = '~' || cs.any isSpecial

/- A name, in quotes where a shell needs them. -/
def quoteIfNeeded (name : String) : String :=
  if needsQuotes name then quote name else name

/- A name in quotes, with escapes. -/
def quoteEscaped (name : String) : String :=
  "'" ++ String.ofList (name.toList.flatMap fun c =>
    if c = '\'' || c = '\\' then ['\\', c]
    else if isVisible c then [c]
    else escaped c) ++ "'"

end Utility

end PluginStudio
