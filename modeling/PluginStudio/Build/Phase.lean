/-
  The phases of a build, as others see them.

  Key definitions include:
    * `PluginStudio.Build.Phase`
    * `PluginStudio.Build.Moment`
    * `PluginStudio.Build.history`
    * `PluginStudio.Build.current`
    * `PluginStudio.Build.sightings`

  A build publishes each phase when it comes to it.  Others get
  to look only while the build waits for something, so a phase
  without a wait goes unseen.
-/

------------------------------------------------------------
-- Phases
------------------------------------------------------------

namespace PluginStudio

namespace Build

/- Where the build that holds the slot stands. -/
inductive Phase where
  | idle
  | materializing
  | building
  | selecting
  | streaming
deriving DecidableEq, Repr

namespace Phase

/- The phase's name. -/
def name : Phase → String
  | idle => "Idle"
  | materializing => "Materializing"
  | building => "Building"
  | selecting => "Selecting"
  | streaming => "Streaming"

end Phase

/- What matters to an observer of the phases. -/
inductive Moment where
  | published (phase : Phase)
  | paused
deriving DecidableEq, Repr

namespace Moment

/- The phase that the moment publishes. -/
def phase? : Moment → Option Phase
  | published phase => some phase
  | paused => none

end Moment

end Build

end PluginStudio

------------------------------------------------------------
-- Observing
------------------------------------------------------------

namespace PluginStudio

namespace Build

/- The phases in the order in which they were published. -/
def history (moments : List Moment) : List Phase :=
  moments.filterMap Moment.phase?

/- The phase that was published last. -/
def current (moments : List Moment) : Phase :=
  ((history moments).getLast?).getD .idle

/- The phases that were seen in pauses, from a current one. -/
def seenFrom
    (phase : Phase) :
    List Moment → List Phase
  | [] => []
  | .published phase :: moments => seenFrom phase moments
  | .paused :: moments => phase :: seenFrom phase moments

/- A list with each run of equal phases told once. -/
def distinct : List Phase → List Phase
  | [] => []
  | [phase] => [phase]
  | first :: second :: phases =>
    if first = second then
      distinct (second :: phases)
    else
      first :: distinct (second :: phases)

/- What an observer sees: changes noticed in pauses, and the end. -/
def sightings (moments : List Moment) : List Phase :=
  distinct (seenFrom .idle moments ++ [current moments])

end Build

end PluginStudio
