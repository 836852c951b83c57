/-
  What the studio reports while it works.

  Key definitions include:
    * `PluginStudio.Level`
    * `PluginStudio.Topic`
    * `PluginStudio.Event`
    * `PluginStudio.Event.text`
-/

------------------------------------------------------------
-- Events
------------------------------------------------------------

namespace PluginStudio

/- How much an event matters. -/
inductive Level where
  | error
  | warn
  | info
  | debug
  | trace
deriving DecidableEq, Repr

namespace Level

/- The level's name. -/
def name : Level → String
  | error => "ERROR"
  | warn => "WARN"
  | info => "INFO"
  | debug => "DEBUG"
  | trace => "TRACE"

/- Position among the levels, the weightiest first. -/
def rank : Level → Nat
  | error => 0
  | warn => 1
  | info => 2
  | debug => 3
  | trace => 4

end Level

/- What an event is about. -/
inductive Topic where
  | project
  | artifact
  | toolchain
  | invocation
  | console
  | build
  | server
  | launch
  | commandLine
deriving DecidableEq, Repr

/- The value of a field, with or without quotes where it counts. -/
structure Detail where
  name : String
  value : String
  quoted : Bool := false
deriving DecidableEq, Repr

/- Something that happened. -/
structure Event where
  topic : Topic
  level : Level
  message : String
  details : List Detail
deriving DecidableEq, Repr

namespace Event

/- A field with its name. -/
def plainDetail (detail : Detail) : String :=
  " " ++ detail.name ++ "=" ++ detail.value

/- The event in one text, its values as they are. -/
def text (event : Event) : String :=
  event.level.name ++ " " ++ event.message ++
    String.join (event.details.map plainDetail)

end Event

end PluginStudio
