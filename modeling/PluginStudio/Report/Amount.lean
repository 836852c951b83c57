import PluginStudio.Number.Binary64

/-
  Sizes and durations as a person reads them.

  Key definitions include:
    * `PluginStudio.Amount.tenths`
    * `PluginStudio.Amount.size`
    * `PluginStudio.Amount.duration`
-/

------------------------------------------------------------
-- Sizes
------------------------------------------------------------

namespace PluginStudio

namespace Amount

def kilobyte : Nat := 1024

def megabyte : Nat := 1024 * 1024

/-
  A number of bytes in units of a power of two, to the nearest
  tenth.  The number is first brought to 53 bits, which the
  division keeps, and ties go to the even tenth.
-/
def tenths (bytes unit : Nat) : Nat :=
  match Binary64.ofNat? bytes with
  | some x => Rounding.halfEven (10 * x.num) (x.den * unit)
  | none => 0

/- A number of tenths with its point. -/
def decimalText (n : Nat) : String :=
  toString (n / 10) ++ "." ++ toString (n % 10)

/- A number of bytes in the largest unit that it fills. -/
def size (bytes : Nat) : String :=
  if megabyte ≤ bytes then
    decimalText (tenths bytes megabyte) ++ " MB"
  else if kilobyte ≤ bytes then
    decimalText (tenths bytes kilobyte) ++ " KB"
  else
    toString bytes ++ " B"

end Amount

end PluginStudio

------------------------------------------------------------
-- Durations
------------------------------------------------------------

namespace PluginStudio

namespace Amount

/- A number below one hundred in two digits. -/
def twoDigits (n : Nat) : String :=
  toString (n / 10) ++ toString (n % 10)

/- A time in minutes, in seconds or in milliseconds. -/
def duration (seconds nanos : Nat) : String :=
  let millis := nanos / 1000000
  if 60 ≤ seconds then
    toString (seconds / 60) ++ "m " ++ toString (seconds % 60) ++ "s"
  else if 0 < seconds then
    toString seconds ++ "." ++ twoDigits (millis / 10) ++ "s"
  else
    toString millis ++ "ms"

end Amount

end PluginStudio
