/-
  Points in time as a person reads them.

  Key definitions include:
    * `PluginStudio.Timestamp.date`
    * `PluginStudio.Timestamp.text`
-/

------------------------------------------------------------
-- Timestamps
------------------------------------------------------------

namespace PluginStudio

namespace Timestamp

/-
  Year, month and day of a number of days after the first of
  January 1970.  Years are counted from March, so that the day
  a leap year adds is the last of its year.
-/
def date (days : Nat) : Nat × Nat × Nat :=
  let shifted := days + 719468
  let era := shifted / 146097
  let day := shifted % 146097
  let year := (day - day / 1460 + day / 36524 - day / 146096) / 365
  let rest := day - (365 * year + year / 4 - year / 100)
  let month := (5 * rest + 2) / 153
  let dayOfMonth := rest - (153 * month + 2) / 5 + 1
  if month < 10 then
    (era * 400 + year, month + 3, dayOfMonth)
  else
    (era * 400 + year + 1, month - 9, dayOfMonth)

/- A number in a field of digits. -/
def digits (width n : Nat) : String :=
  let text := toString n
  String.ofList (List.replicate (width - text.length) '0') ++ text

/- The time in milliseconds after the start of 1970. -/
def text (millis : Nat) : String :=
  let seconds := millis / 1000
  let (year, month, day) := date (seconds / 86400)
  digits 4 year ++ "-" ++ digits 2 month ++ "-" ++ digits 2 day ++ "T" ++
    digits 2 (seconds / 3600 % 24) ++ ":" ++
    digits 2 (seconds / 60 % 60) ++ ":" ++
    digits 2 (seconds % 60) ++ "." ++ digits 6 (millis % 1000 * 1000) ++ "Z"

end Timestamp

end PluginStudio
