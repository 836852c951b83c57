import PluginStudio.Report.Colour

/-
  Words that stand out in what the command line shows.

  Key definitions include:
    * `PluginStudio.Cli.Emphasis`
    * `PluginStudio.Cli.Emphasis.on`
    * `PluginStudio.Cli.Emphasis.quoted`
-/

------------------------------------------------------------
-- Emphasis
------------------------------------------------------------

namespace PluginStudio

namespace Cli

/- Why a word stands out. -/
inductive Emphasis where
  | heading
  | alarm
  | literal
  | valid
  | invalid
deriving DecidableEq, Repr

namespace Emphasis

/- The modes of the terminal that make a word stand out. -/
def modes : Emphasis → List Nat
  | heading => [1, 4]
  | alarm => [1, 31]
  | literal => [1]
  | valid => [32]
  | invalid => [33]

/- A text that stands out. -/
def on
    (emphasis : Emphasis)
    (text : String) : String :=
  String.join (emphasis.modes.map Report.mode) ++ text ++ Report.mode 0

/- A text between quotes that stands out. -/
def quoted
    (emphasis : Emphasis)
    (text : String) : String :=
  "'" ++ emphasis.on text ++ "'"

end Emphasis

end Cli

end PluginStudio
