import PluginStudio.Text.Gb18030.Pairs
import PluginStudio.Text.Gb18030.Quads
import PluginStudio.Text.Utf8

/-
  Reading bytes in the Chinese national encoding.

  Key definitions include:
    * `PluginStudio.Gb18030.Reading`
    * `PluginStudio.Gb18030.step`
    * `PluginStudio.Gb18030.decode`

  A byte below 80 is itself.  A lead byte starts a sequence of
  two bytes or, when a digit follows it, of four.  What cannot
  be read becomes one replacement character; an ASCII byte is
  never part of it, and of a broken sequence of four only the
  lead byte is lost.
-/

------------------------------------------------------------
-- One Step
------------------------------------------------------------

namespace PluginStudio

namespace Gb18030

/- What stands for bytes that cannot be read. -/
def replacement : Char := '\ufffd'

/- Can the byte start a sequence? -/
def isLead (b : UInt8) : Bool :=
  0x81 ≤ b && b ≤ 0xFE

/- Can the byte be second or fourth of four? -/
def isDigit (b : UInt8) : Bool :=
  0x30 ≤ b && b ≤ 0x39

/- A character read, or none where the bytes are faulty. -/
structure Reading where
  char? : Option Char
  rest : Bytes

namespace Reading

/- A character of the text. -/
def found
    (c : Char)
    (rest : Bytes) : Reading where
  char? := some c
  rest := rest

/- A fault, after which reading goes on at `rest`. -/
def fault (rest : Bytes) : Reading where
  char? := none
  rest := rest

/- A character if there is one. -/
def ofOption
    (c? : Option Char)
    (rest : Bytes) : Reading where
  char? := c?
  rest := rest

end Reading

/- Read on after a lead byte and a digit. -/
def quadStep
    (lead digit : UInt8)
    (rest : Bytes) : Reading :=
  match rest with
  | [] => .fault []
  | third :: rest' =>
    if !isLead third then
      .fault (digit :: rest)
    else
      match rest' with
      | [] => .fault []
      | fourth :: rest'' =>
        if !isDigit fourth then
          .fault (digit :: rest)
        else
          .ofOption (quad? lead digit third fourth) rest''

/- Read on after a lead byte. -/
def leadStep
    (lead : UInt8)
    (rest : Bytes) : Reading :=
  match rest with
  | [] => .fault []
  | second :: rest' =>
    if isDigit second then
      quadStep lead second rest'
    else
      match pair? lead second with
      | some c => .found c rest'
      | none =>
        if second < 0x80 then .fault rest else .fault rest'

/- Read one character from a byte and those after it. -/
def step
    (b : UInt8)
    (rest : Bytes) : Reading :=
  if b < 0x80 then
    .found (Char.ofNat b.toNat) rest
  else if b = 0x80 then
    .found '€' rest
  else if isLead b then
    leadStep b rest
  else
    .fault rest

/- A step moves on by one byte at least. -/
theorem step_rest_length_le
    (b : UInt8)
    (rest : Bytes) :
    (step b rest).rest.length ≤ rest.length := by
  unfold step leadStep quadStep
  repeat' split
  all_goals simp [Reading.found, Reading.fault, Reading.ofOption]
  all_goals omega

end Gb18030

end PluginStudio

------------------------------------------------------------
-- Whole Inputs
------------------------------------------------------------

namespace PluginStudio

namespace Gb18030

/- A text read from bytes, and whether any were faulty. -/
structure Decoded where
  text : String
  faulty : Bool
deriving DecidableEq, Repr

/- Read what remains in front of what was read. -/
def decodeFrom
    (read : List Char)
    (faulty : Bool) :
    Bytes → Decoded
  | [] => ⟨String.ofList read.reverse, faulty⟩
  | b :: rest =>
    let reading := step b rest
    match reading.char? with
    | some c => decodeFrom (c :: read) faulty reading.rest
    | none => decodeFrom (replacement :: read) true reading.rest
termination_by bytes => bytes.length
decreasing_by
  all_goals
    have := step_rest_length_le b rest
    simp only [List.length_cons]
    omega

/- Read all the bytes. -/
def decode (bytes : Bytes) : Decoded :=
  decodeFrom [] false bytes

end Gb18030

end PluginStudio
