import PluginStudio.Number.Shortest
import PluginStudio.Text.Quoted
import PluginStudio.Text.Utf8

/-
  What is wrong with a JSON text, and where.

  Key definitions include:
    * `PluginStudio.Json.Found`
    * `PluginStudio.Json.Cause`
    * `PluginStudio.Json.Fault`
    * `PluginStudio.Json.Position`
    * `PluginStudio.Json.Fault.message`

  A scanner sees only the bytes that are still unread, so a
  fault says how many of them there were.  Line and column
  follow once the whole text is known.
-/

------------------------------------------------------------
-- Causes
------------------------------------------------------------

namespace PluginStudio

namespace Json

/- A value that stands where another kind was wanted. -/
inductive Found where
  | null
  | boolean (value : Bool)
  | integer (value : Int)
  | real (negative : Bool) (value : Binary64)
  | text (value : String)
  | sequence
  | map
deriving DecidableEq, Repr

namespace Found

/- The value as a message names it. -/
def describe : Found → String
  | null => "null"
  | boolean true => "boolean `true`"
  | boolean false => "boolean `false`"
  | integer n => "integer `" ++ toString n ++ "`"
  | real true x => "floating point `-" ++ x.text ++ "`"
  | real false x => "floating point `" ++ x.text ++ "`"
  | text s => "string " ++ Quoted.text s
  | sequence => "sequence"
  | map => "map"

end Found

/- Reasons to refuse a text. -/
inductive Cause where
  | endInValue
  | endInText
  | endInList
  | endInObject
  | expectedColon
  | expectedListEnd
  | expectedObjectEnd
  | expectedWord
  | expectedValue
  | keyNotText
  | trailingComma
  | trailingCharacters
  | invalidNumber
  | numberOutOfRange
  | controlCharacter
  | invalidEscape
  | loneSurrogate
  | unfinishedPair
  | invalidCodePoint
  | wrongType (found : Found) (expected : String)
  | duplicateField (name : String)
deriving DecidableEq, Repr

namespace Cause

/- The reason in words. -/
def message : Cause → String
  | endInValue => "EOF while parsing a value"
  | endInText => "EOF while parsing a string"
  | endInList => "EOF while parsing a list"
  | endInObject => "EOF while parsing an object"
  | expectedColon => "expected `:`"
  | expectedListEnd => "expected `,` or `]`"
  | expectedObjectEnd => "expected `,` or `\x7d`"
  | expectedWord => "expected ident"
  | expectedValue => "expected value"
  | keyNotText => "key must be a string"
  | trailingComma => "trailing comma"
  | trailingCharacters => "trailing characters"
  | invalidNumber => "invalid number"
  | numberOutOfRange => "number out of range"
  | controlCharacter =>
    "control character (\\u0000-\\u001F) found while parsing a string"
  | invalidEscape => "invalid escape"
  | loneSurrogate => "lone leading surrogate in hex escape"
  | unfinishedPair => "unexpected end of hex escape"
  | invalidCodePoint => "invalid unicode code point"
  | wrongType found expected =>
    "invalid type: " ++ found.describe ++ ", expected " ++ expected
  | duplicateField name => "duplicate field `" ++ name ++ "`"

end Cause

end Json

end PluginStudio

------------------------------------------------------------
-- Places
------------------------------------------------------------

namespace PluginStudio

namespace Json

/- A place in a text: a line from one, a column in bytes. -/
structure Position where
  line : Nat
  column : Nat
deriving DecidableEq, Repr

namespace Position

/- The place after some bytes, from the place before them. -/
def advance
    (p : Position)
    (b : UInt8) : Position :=
  if b = '\n'.toUInt8 then
    ⟨p.line + 1, 0⟩
  else
    ⟨p.line, p.column + 1⟩

/- The place after the first `n` bytes of a text. -/
def after
    (input : Bytes)
    (n : Nat) : Position :=
  (input.take n).foldl advance ⟨1, 0⟩

end Position

/- A cause, and how many bytes follow the faulty place. -/
structure Fault where
  cause : Cause
  unread : Nat
deriving DecidableEq, Repr

namespace Fault

/- A fault right before the unread bytes. -/
def here
    (cause : Cause)
    (rest : Bytes) : Fault where
  cause := cause
  unread := rest.length

/- A fault at the first unread byte, which counts as read. -/
def next
    (cause : Cause)
    (rest : Bytes) : Fault where
  cause := cause
  unread := rest.length - 1

/- The place of a fault in the whole text. -/
def position
    (fault : Fault)
    (input : Bytes) : Position :=
  Position.after input (input.length - fault.unread)

/- Cause and place in words. -/
def message
    (fault : Fault)
    (input : Bytes) : String :=
  let p := fault.position input
  fault.cause.message ++ " at line " ++ toString p.line ++
    " column " ++ toString p.column

end Fault

/- The outcome of a scanner: a value and the unread bytes. -/
abbrev Scan (α : Type) :=
  Except Fault (α × Bytes)

end Json

end PluginStudio
