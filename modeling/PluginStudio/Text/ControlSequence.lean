import PluginStudio.Text.Utf8

/-
  Texts without what only a terminal acts on.

  Key definitions include:
    * `PluginStudio.ControlSequence.State`
    * `PluginStudio.ControlSequence.State.step`
    * `PluginStudio.ControlSequence.Position`
    * `PluginStudio.ControlSequence.Position.step`
    * `PluginStudio.ControlSequence.strip`

  An escape character starts a sequence that sets a mode, names
  a function, or holds a text for the terminal.  Sequences are
  left out, and so are single control characters that are not
  white space.  White space inside a sequence is kept together
  with the plain text behind it, and the sequence goes on after
  that.
-/

------------------------------------------------------------
-- States
------------------------------------------------------------

namespace PluginStudio

namespace ControlSequence

/-
  Where in a text a character stands: outside of any sequence,
  after an escape character, inside a sequence of parameters,
  or inside a text for the terminal.  Parameters are followed by
  intermediate characters, and a sequence out of this order is
  passed over up to its end.
-/
inductive State where
  | outside
  | escape
  | escapeMiddle
  | parameters (first : Bool)
  | parametersMiddle
  | parametersPassed
  | device (first : Bool)
  | deviceMiddle
  | deviceText
  | devicePassed
  | command
  | message
deriving DecidableEq, Repr

/- Is the character a control that a terminal acts on at once? -/
def isControl (n : Nat) : Bool :=
  n < 0x20

/- Controls that are white space are kept. -/
def isBlankControl (n : Nat) : Bool :=
  n = 0x09 || n = 0x0A || n = 0x0C || n = 0x0D

/- Does the encoding hold the byte that ends a text? -/
def holdsTextEnd (c : Char) : Bool :=
  (Utf8.encodeChar c).contains 0x9C

namespace State

/- The state after an ASCII character behind an escape. -/
def afterEscape (n : Nat) : State :=
  if n < 0x30 then escapeMiddle
  else if n = 0x5B then parameters true
  else if n = 0x5D then command
  else if n = 0x50 then device true
  else if n = 0x58 || n = 0x5E || n = 0x5F then message
  else outside

/- The state after an ASCII character that is no control. -/
def afterVisible
    (state : State)
    (n : Nat) : State :=
  match state with
  | outside => outside
  | escape => afterEscape n
  | escapeMiddle => if n < 0x30 then escapeMiddle else outside
  | parameters first =>
    if n < 0x30 then parametersMiddle
    else if n < 0x3C || (first && n < 0x40) then parameters false
    else if n < 0x40 then parametersPassed
    else outside
  | parametersMiddle =>
    if n < 0x30 then parametersMiddle
    else if n < 0x40 then parametersPassed
    else outside
  | parametersPassed => if n < 0x40 then parametersPassed else outside
  | device first =>
    if n < 0x30 then deviceMiddle
    else if n < 0x3C || (first && n < 0x40) then device false
    else if n < 0x40 then devicePassed
    else deviceText
  | deviceMiddle =>
    if n < 0x30 then deviceMiddle
    else if n < 0x40 then devicePassed
    else deviceText
  | deviceText => deviceText
  | devicePassed => devicePassed
  | command => command
  | message => message

/- Do controls count in this state? -/
def heedsControls : State → Bool
  | outside => true
  | escape => true
  | escapeMiddle => true
  | parameters _ => true
  | parametersMiddle => true
  | parametersPassed => true
  | _ => false

/- Can a single byte end the text that is being passed over? -/
def hasTextEnd : State → Bool
  | deviceText => true
  | devicePassed => true
  | message => true
  | _ => false

/- The state after a character, and whether the character is kept. -/
def step
    (state : State)
    (c : Char) : State × Bool :=
  let n := c.toNat
  if n = 0x1B then
    (escape, false)
  else if n = 0x18 || n = 0x1A then
    (outside, false)
  else if isControl n then
    if state.heedsControls then
      (state, isBlankControl n)
    else if state = command && n = 0x07 then
      (outside, false)
    else
      (state, false)
  else if n = 0x7F then
    (state, false)
  else if n < 0x7F then
    (state.afterVisible n, state = outside)
  else if state = outside then
    (outside, true)
  else if state.hasTextEnd && holdsTextEnd c then
    (outside, false)
  else
    (state, false)

end State

end ControlSequence

end PluginStudio

------------------------------------------------------------
-- Positions
------------------------------------------------------------

namespace PluginStudio

namespace ControlSequence

/-
  A state, and whether plain text is being kept.  The state is
  then the one that is gone back to after the text.
-/
structure Position where
  state : State
  inText : Bool
deriving DecidableEq, Repr

namespace Position

/- Before the first character. -/
def start : Position where
  state := .outside
  inText := false

/- Is the character kept where no sequence has begun? -/
def isPlain (c : Char) : Bool :=
  (State.outside.step c).2

/- A character that is no plain text, or comes after none. -/
def leave
    (state : State)
    (c : Char) : Position × Bool :=
  let (next, kept) := state.step c
  (⟨next, kept⟩, kept)

/-
  The position after a character, and whether the character is
  kept.  A character beyond ASCII in plain text ends the
  sequence that the text stands in.
-/
def step
    (position : Position)
    (c : Char) : Position × Bool :=
  if position.inText && isPlain c then
    if c.toNat < 0x80 then
      (position, true)
    else
      (⟨.outside, true⟩, true)
  else
    leave position.state c

end Position

end ControlSequence

end PluginStudio

------------------------------------------------------------
-- Stripping
------------------------------------------------------------

namespace PluginStudio

namespace ControlSequence

/- The characters that are kept, from a position on. -/
def stripFrom : Position → List Char → List Char
  | _, [] => []
  | position, c :: cs =>
    let (next, kept) := position.step c
    if kept then c :: stripFrom next cs else stripFrom next cs

/- A text without sequences and controls. -/
def strip (text : String) : String :=
  String.ofList (stripFrom .start text.toList)

end ControlSequence

end PluginStudio
