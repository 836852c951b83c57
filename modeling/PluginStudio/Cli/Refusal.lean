import PluginStudio.Cli.Argument

/-
  Command lines that cannot be followed.

  Key definitions include:
    * `PluginStudio.Cli.Complaint`
    * `PluginStudio.Cli.Complaint.message`
    * `PluginStudio.Cli.Refusal`
    * `PluginStudio.Cli.Refusal.text`
-/

------------------------------------------------------------
-- Complaints
------------------------------------------------------------

namespace PluginStudio

namespace Cli

/- What is wrong with a command line. -/
inductive Complaint where
  | unknownArgument (text : String)
  | unknownCommand (name : String)
  | repeated (arg : Arg)
  | surplusValue (value : String) (arg : Arg)
  | noValue (arg : Arg)
  | badValue (value : String) (arg : Arg) (reason : String)
  | missing (args : List Arg)
deriving DecidableEq, Repr

namespace Complaint

/- The complaint in words. -/
def message : Complaint → String
  | unknownArgument text =>
    "unexpected argument " ++ Emphasis.invalid.quoted text ++ " found"
  | unknownCommand name =>
    "unrecognized subcommand " ++ Emphasis.invalid.quoted name
  | repeated arg =>
    "the argument " ++ Emphasis.invalid.quoted arg.label ++
      " cannot be used multiple times"
  | surplusValue value arg =>
    "unexpected value " ++ Emphasis.invalid.quoted value ++ " for " ++
      Emphasis.literal.quoted arg.label ++ " found; no more were expected"
  | noValue arg =>
    "a value is required for " ++ Emphasis.invalid.quoted arg.label ++
      " but none was supplied"
  | badValue value arg reason =>
    "invalid value " ++ Emphasis.invalid.quoted value ++ " for " ++
      Emphasis.literal.quoted arg.label ++ ": " ++ reason
  | missing args =>
    "the following required arguments were not provided:" ++
      String.join (args.map fun arg =>
        "\n  " ++ Emphasis.valid.on arg.label)

end Complaint

end Cli

end PluginStudio

------------------------------------------------------------
-- Refusals
------------------------------------------------------------

namespace PluginStudio

namespace Cli

/-
  A complaint, hints at what may have been meant, the usage, and
  whether there is an option that shows help.
-/
structure Refusal where
  complaint : Complaint
  tips : List String := []
  usage? : Option String := none
  helpful : Bool := true
deriving DecidableEq, Repr

namespace Refusal

/- The refusal as it is shown. -/
def text (refusal : Refusal) : String :=
  let tips :=
    if refusal.tips.isEmpty then ""
    else
      "\n" ++ String.join (refusal.tips.map fun tip =>
        "\n  " ++ Emphasis.valid.on "tip:" ++ " " ++ tip)
  let usage :=
    match refusal.usage? with
    | some usage => "\n\n" ++ Scope.titled usage
    | none => ""
  let help :=
    if refusal.helpful then
      "\n\nFor more information, try " ++
        Emphasis.literal.quoted "--help" ++ "."
    else
      ""
  Emphasis.alarm.on "error:" ++ " " ++ refusal.complaint.message ++ tips ++
    usage ++ help ++ "\n"

end Refusal

end Cli

end PluginStudio
