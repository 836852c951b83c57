import PluginStudio.Report.Colour
import PluginStudio.Report.Filter
import PluginStudio.Report.Timestamp
import PluginStudio.Text.Quoted
import PluginStudio.World

/-
  What a person sees while the studio works.

  Key definitions include:
    * `PluginStudio.Report.Style`
    * `PluginStudio.Report.Screen`
    * `PluginStudio.Report.logLine`
    * `PluginStudio.Report.Shown`
    * `PluginStudio.Report.Shown.watch`
    * `PluginStudio.Report.Shown.say`
-/

------------------------------------------------------------
-- Lines
------------------------------------------------------------

namespace PluginStudio

namespace Report

/- Which events are shown, and what is coloured. -/
structure Style where
  filter : Filter
  colourful : Bool
  logColourful : Bool

/- The kinds of status lines. -/
inductive Status where
  | info
  | success
  | warning
  | error
deriving DecidableEq, Repr

namespace Status

/- The symbol in front of a line. -/
def symbol : Status → String
  | info => "•"
  | success => "✓"
  | warning => "⚠"
  | error => "✗"

/- The colour of a line. -/
def colour : Status → Colour
  | info => .blue
  | success => .green
  | warning => .yellow
  | error => .red

/- Is the line for the output of errors?  Then all is coloured. -/
def isUrgent : Status → Bool
  | info => false
  | success => false
  | warning => true
  | error => true

/- A status line. -/
def line
    (status : Status)
    (colourful : Bool)
    (message : String) : String :=
  let paint (text : String) : String :=
    if colourful then status.colour.paint text else text
  let message := if status.isUrgent then paint message else message
  paint status.symbol ++ " " ++ message ++ "\n"

end Status

/- The colour of a level. -/
def levelColour : Level → Colour
  | .error => .red
  | .warn => .yellow
  | .info => .green
  | .debug => .blue
  | .trace => .purple

/- The name of a level in five places. -/
def levelText (level : Level) : String :=
  let blanks := List.replicate (5 - level.name.length) ' '
  String.ofList blanks ++ level.name

/- The value of a field, in quotes if it is a plain text. -/
def detailValue (detail : Detail) : String :=
  if detail.quoted then Quoted.text detail.value else detail.value

/- An event with the time of its report. -/
def logLine
    (colourful : Bool)
    (clock : Nat)
    (event : Event) : String :=
  let styled (code : Nat) (text : String) : String :=
    if colourful then inMode code text else text
  let field (detail : Detail) : String :=
    " " ++ styled 3 detail.name ++ styled 2 "=" ++ detailValue detail
  styled 2 (Timestamp.text clock) ++ " " ++
    styled (levelColour event.level).code (levelText event.level) ++ " " ++
    event.message ++ String.join (event.details.map field) ++ "\n"

end Report

end PluginStudio

------------------------------------------------------------
-- Screens
------------------------------------------------------------

namespace PluginStudio

namespace Report

/- Everything written so far to the two outputs. -/
structure Screen where
  out : String := ""
  err : String := ""
deriving DecidableEq, Repr

namespace Screen

/- With a status line. -/
def say
    (screen : Screen)
    (style : Style)
    (status : Status)
    (message : String) : Screen :=
  let line := status.line style.colourful message
  if status.isUrgent then { screen with err := screen.err ++ line }
  else { screen with out := screen.out ++ line }

/- With those of some events that are shown. -/
def log
    (screen : Screen)
    (style : Style)
    (clock : Nat)
    (events : List Event) : Screen :=
  let shown := events.filter style.filter.shows
  let lines := shown.map (logLine style.logColourful clock)
  { screen with out := screen.out ++ String.join lines }

end Screen

/- Work that changes the world and is seen on a screen. -/
abbrev Shown :=
  ReaderT Style (StateT Screen Studio)

namespace Shown

/- Do some work and show the events that it reports. -/
def watch
    {α : Type}
    (act : Studio α) : Shown α := fun style screen world =>
  let (result, after) := act.run world
  let events := after.journal.drop world.journal.length
  ((result, screen.log style after.clock events), after)

/- Show a status line. -/
def say
    (status : Status)
    (message : String) : Shown Unit := fun style =>
  modify fun screen => screen.say style status message

/- Pass on what another program wrote. -/
def pass
    (out err : String) : Shown Unit :=
  modify fun screen => ⟨screen.out ++ out, screen.err ++ err⟩

end Shown

end Report

end PluginStudio
