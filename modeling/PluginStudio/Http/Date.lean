import PluginStudio.Report.Timestamp
import PluginStudio.Text.Blank

/-
  Dates in headers.

  Key definitions include:
    * `PluginStudio.Http.Date`
    * `PluginStudio.Http.Date.seconds`
    * `PluginStudio.Http.Date.isReal`
    * `PluginStudio.Http.Date.read?`

  A date is written in one of three forms: the usual one with a
  short weekday, an old one with a long weekday and two digits
  for the year, or an old one that ends with the year.  A date
  that the calendar does not have is none.
-/

------------------------------------------------------------
-- Dates
------------------------------------------------------------

namespace PluginStudio

namespace Http

/- A second of a day.  Weekdays are counted from Monday. -/
structure Date where
  weekday : Nat
  year : Nat
  month : Nat
  day : Nat
  hour : Nat
  minute : Nat
  second : Nat
deriving DecidableEq, Repr

namespace Date

/-
  Days from the start of 1970 to a date.  Years are counted from
  March, as it is done to find the date of a day.
-/
def days (date : Date) : Nat :=
  let early := date.month ≤ 2
  let year := if early then date.year - 1 else date.year
  let month := if early then date.month + 9 else date.month - 3
  year / 400 * 146097 +
    (year % 400 * 365 + year % 400 / 4 - year % 400 / 100 +
      (153 * month + 2) / 5 + date.day - 1) - 719468

/- Seconds from the start of 1970 to a date. -/
def seconds (date : Date) : Nat :=
  ((date.days * 24 + date.hour) * 60 + date.minute) * 60 + date.second

/- Does the calendar have the date? -/
def isReal (date : Date) : Bool :=
  date.second < 60 && date.minute < 60 && date.hour < 24 &&
    0 < date.day && date.day < 32 && 0 < date.month &&
    date.month ≤ 12 && 1970 ≤ date.year &&
    Timestamp.date date.days = (date.year, date.month, date.day) &&
    (date.days + 3) % 7 + 1 = date.weekday

end Date

end Http

end PluginStudio

------------------------------------------------------------
-- Reading
------------------------------------------------------------

namespace PluginStudio

namespace Http

namespace Date

/- Weekdays by their names. -/
def weekdayNames : List String :=
  ["Monday", "Tuesday", "Wednesday", "Thursday", "Friday", "Saturday",
    "Sunday"]

/- Months by the short forms of their names. -/
def monthNames : List String :=
  ["Jan", "Feb", "Mar", "Apr", "May", "Jun", "Jul", "Aug", "Sep",
    "Oct", "Nov", "Dec"]

/- Some characters of a text from a place on. -/
def slice
    (cs : List Char)
    (first size : Nat) : List Char :=
  (cs.drop first).take size

/- Do the characters of a text stand at a place? -/
def holdsAt
    (cs : List Char)
    (first : Nat)
    (text : String) : Bool :=
  slice cs first text.length = text.toList

/- The number that the digits at a place write. -/
def number?
    (cs : List Char)
    (first size : Nat) : Option Nat :=
  let digits := slice cs first size
  if digits.length = size && digits.all Char.isDigit then
    some (digits.foldl (fun n c => n * 10 + (c.toNat - 48)) 0)
  else
    none

/- The position of the name at a place, counted from one. -/
def named?
    (names : List String)
    (cs : List Char)
    (first : Nat) : Option Nat :=
  (names.findIdx? fun name => holdsAt cs first name).map fun i => i + 1

/- The short form of a weekday's name. -/
def shortName (name : String) : String :=
  String.ofList (name.toList.take 3)

/- A date with the time of day that is written at a place. -/
def withTime?
    (cs : List Char)
    (first weekday year month day : Nat) : Option Date := do
  let hour ← number? cs first 2
  let minute ← number? cs (first + 3) 2
  let second ← number? cs (first + 6) 2
  if holdsAt cs (first + 2) ":" && holdsAt cs (first + 5) ":" then
    some ⟨weekday, year, month, day, hour, minute, second⟩
  else
    none

/- A date such as `Sun, 06 Nov 1994 08:49:37 GMT`. -/
def readUsual? (cs : List Char) : Option Date := do
  let weekday ← named? (weekdayNames.map shortName) cs 0
  let day ← number? cs 5 2
  let month ← named? monthNames cs 8
  let year ← number? cs 12 4
  if cs.length = 29 && holdsAt cs 3 ", " && holdsAt cs 7 " " &&
      holdsAt cs 11 " " && holdsAt cs 16 " " && holdsAt cs 25 " GMT" then
    withTime? cs 17 weekday year month day
  else
    none

/- The year of this century or the last with the given end. -/
def nearYear (n : Nat) : Nat :=
  if n < 70 then 2000 + n else 1900 + n

/- A date such as `Sunday, 06-Nov-94 08:49:37 GMT`. -/
def readLong? (cs : List Char) : Option Date := do
  let weekday ←
    named? (weekdayNames.map fun name => name ++ ", ") cs 0
  let name := (weekdayNames[weekday - 1]?).getD ""
  let cs := cs.drop (name.length + 2)
  let day ← number? cs 0 2
  let month ← named? monthNames cs 3
  let year ← number? cs 7 2
  if cs.length = 22 && holdsAt cs 2 "-" && holdsAt cs 6 "-" &&
      holdsAt cs 18 " GMT" then
    withTime? cs 10 weekday (nearYear year) month day
  else
    none

/- A date such as `Sun Nov  6 08:49:37 1994`. -/
def readYearLast? (cs : List Char) : Option Date := do
  let weekday ← named? (weekdayNames.map shortName) cs 0
  let month ← named? monthNames cs 4
  let day ←
    if holdsAt cs 8 " " then number? cs 9 1 else number? cs 8 2
  let year ← number? cs 20 4
  if cs.length = 24 && holdsAt cs 3 " " && holdsAt cs 7 " " &&
      holdsAt cs 10 " " && holdsAt cs 19 " " then
    withTime? cs 11 weekday year month day
  else
    none

/- The date that a header gives. -/
def read? (value : String) : Option Date :=
  let cs := Blank.trimmed value.toList
  if value.toList.any fun c => 0x80 ≤ c.toNat then
    none
  else
    ((readUsual? cs).orElse fun _ =>
      (readLong? cs).orElse fun _ => readYearLast? cs).filter isReal

end Date

end Http

end PluginStudio
