import PluginStudio.Settings

/-
  Colours on a terminal.

  Key definitions include:
    * `PluginStudio.Report.Colour`
    * `PluginStudio.Report.Colour.paint`
    * `PluginStudio.Report.isColourful`
    * `PluginStudio.Report.isUsageColourful`
    * `PluginStudio.Report.isLogColourful`
-/

------------------------------------------------------------
-- Colours
------------------------------------------------------------

namespace PluginStudio

namespace Report

/- The colours in use. -/
inductive Colour where
  | red
  | green
  | yellow
  | blue
  | purple
deriving DecidableEq, Repr

/- The sequence that sets a mode of the terminal. -/
def mode (code : Nat) : String :=
  String.singleton (Char.ofNat 27) ++ "[" ++ toString code ++ "m"

namespace Colour

/- The code that switches a colour on. -/
def code : Colour → Nat
  | red => 31
  | green => 32
  | yellow => 33
  | blue => 34
  | purple => 35

/- A text in a colour. -/
def paint
    (colour : Colour)
    (text : String) : String :=
  mode colour.code ++ text ++ mode 39

end Colour

/- A text in a mode, which is left afterwards. -/
def inMode
    (code : Nat)
    (text : String) : String :=
  mode code ++ text ++ mode 0

end Report

end PluginStudio

------------------------------------------------------------
-- Choice
------------------------------------------------------------

namespace PluginStudio

namespace Report

/- Digits after an optional plus sign that stand for zero. -/
def isZero (text : String) : Bool :=
  match text.toList with
  | '+' :: cs => !cs.isEmpty && cs.all fun c => c = '0'
  | cs => !cs.isEmpty && cs.all fun c => c = '0'

/- Does the environment ask for colours in any case? -/
def isColourForced (env : Environment) : Bool :=
  match env.text? "FORCE_COLOR", env.text? "CLICOLOR_FORCE" with
  | some value, _ => value ≠ "false" && !isZero value
  | none, some value => value ≠ "0"
  | none, none => false

/- Does the environment ask for none? -/
def isColourRefused (env : Environment) : Bool :=
  match env.text? "NO_COLOR" with
  | some value => value ≠ "0"
  | none => false

/- Is what is not a terminal to be taken for one? -/
def isTerminalAssumed (env : Environment) : Bool :=
  match env.text? "IGNORE_IS_TERMINAL" with
  | some value => value ≠ "0"
  | none => false

/- Variables that tell of a run without a person at the terminal. -/
def unattendedVars : List String :=
  [
    "CI_NAME", "GITHUB_ACTION", "GITLAB_CI", "NETLIFY", "TRAVIS",
    "CODEBUILD_SRC_DIR", "BUILDER_OUTPUT", "GITLAB_DEPLOYMENT",
    "NOW_GITHUB_DEPLOYMENT", "NOW_BUILDER", "BITBUCKET_DEPLOYMENT",
    "GERRIT_PROJECT", "SYSTEM_TEAMFOUNDATIONCOLLECTIONURI", "BITRISE_IO",
    "BUDDY_WORKSPACE_ID", "BUILDKITE", "CIRRUS_CI", "APPVEYOR", "CIRCLECI",
    "SEMAPHORE", "DRONE", "DSARI", "TDDIUM", "STRIDER",
    "TASKCLUSTER_ROOT_URL", "JENKINS_URL", "bamboo.buildKey",
    "GO_PIPELINE_NAME", "HUDSON_URL", "WERCKER", "MAGNUM", "NEVERCODE",
    "RENDER", "SAIL_CI", "SHIPPABLE"
  ]

/- Does the program run without a person at the terminal? -/
def isUnattended (env : Environment) : Bool :=
  ["true", "1", "woodpecker"].any (fun value => env.text? "CI" = some value) ||
    unattendedVars.any (fun name => (env.text? name).isSome) ||
    "//heroku/node/bin/node".toList.isSuffixOf
      ((env.text? "NODE").getD "").toList

/-
  Do the variables tell of a terminal with colours?  Any kind
  of terminal has them.
-/
def hasColours (env : Environment) : Bool :=
  (env.text? "COLORTERM").isSome || (env.text? "TERM").isSome ||
    (env.text? "CLICOLOR").getD "0" ≠ "0" ||
    env.text? "TERM_PROGRAM" = some "iTerm.app" ||
    env.text? "TERM_PROGRAM" = some "Apple_Terminal" ||
    isUnattended env

/- Are status lines coloured?  The output is no terminal. -/
def isColourful (env : Environment) : Bool :=
  isColourForced env ||
    (isTerminalAssumed env && !isColourRefused env &&
      env.text? "TERM" ≠ some "dumb" && hasColours env)

/- Are usages and help coloured? -/
def isUsageColourful (env : Environment) : Bool :=
  !env.isGiven "NO_COLOR" && env.isGiven "CLICOLOR_FORCE"

/- Are reported events coloured? -/
def isLogColourful (env : Environment) : Bool :=
  match env.text? "NO_COLOR" with
  | some value => value = ""
  | none => true

end Report

end PluginStudio
