import PluginStudio.ExitStatus
import PluginStudio.IoFault
import PluginStudio.Path

/-
  Why a build did not deliver an artifact.

  Key definitions include:
    * `PluginStudio.Project.Failure`
    * `PluginStudio.Tool.Failure`
    * `PluginStudio.Artifact.Failure`
    * `PluginStudio.Build.Failure`
    * `PluginStudio.Build.Failure.message`
    * `PluginStudio.Build.Failure.statusCode`
-/

------------------------------------------------------------
-- Failures Of The Steps
------------------------------------------------------------

namespace PluginStudio

namespace Project

/- Why a project could not be laid out. -/
inductive Failure where
  | createDir (path : Path) (fault : IoFault)
  | writeFile (path : Path) (fault : IoFault)
deriving DecidableEq, Repr

namespace Failure

/- The system's fault behind the failure. -/
def fault : Failure → IoFault
  | createDir _ fault => fault
  | writeFile _ fault => fault

/- The failure in words. -/
def message : Failure → String
  | createDir path fault =>
    "failed to create directory " ++ path.display ++ ": " ++ fault.message
  | writeFile path fault =>
    "failed to write file " ++ path.display ++ ": " ++ fault.message

end Failure

end Project

namespace Tool

/-
  Why the build tool gave no result.  It was not started, or its
  output was not received.  The second is known here by its words
  only: running a tool does not come to it.
-/
inductive Failure where
  | spawn (program : Path) (fault : IoFault)
  | capture (fault : IoFault)
deriving DecidableEq, Repr

namespace Failure

/- The system's fault behind the failure. -/
def fault : Failure → IoFault
  | spawn _ fault => fault
  | capture fault => fault

/- The failure in words. -/
def message : Failure → String
  | spawn program fault =>
    "failed to run build tool " ++ program.display ++ ": " ++ fault.message
  | capture fault =>
    "failed to capture build tool output: " ++ fault.message

end Failure

end Tool

namespace Artifact

/- Why no artifact could be taken. -/
inductive Failure where
  | none (dir : Path)
  | read (path : Path) (fault : IoFault)
deriving DecidableEq, Repr

namespace Failure

/- The failure in words. -/
def message : Failure → String
  | none dir => "no jar artifact found in " ++ dir.display
  | read path fault =>
    "failed to read artifact " ++ path.display ++ ": " ++
      fault.message

end Failure

end Artifact

end PluginStudio

------------------------------------------------------------
-- Failures Of A Build
------------------------------------------------------------

namespace PluginStudio

namespace Build

/-
  Why a build did not deliver.  That a step died before it came to
  a result is not among the reasons, since every step has one.
-/
inductive Failure where
  | invalidRequest (reason : String)
  | project (failure : Project.Failure)
  | tool (failure : Tool.Failure)
  | unsuccessful (status : ExitStatus) (output : String)
  | artifact (failure : Artifact.Failure)
deriving DecidableEq, Repr

namespace Failure

/- The failure in words. -/
def message : Failure → String
  | invalidRequest reason => "invalid request: " ++ reason
  | project failure => failure.message
  | tool failure => failure.message
  | unsuccessful status output =>
    "Maven build failed: " ++ status.message ++ "\n" ++ output
  | artifact (.none _) =>
    "build succeeded but no jar artifact was found"
  | artifact (.read path fault) => (Artifact.Failure.read path fault).message

/- Was the request at fault, or something here? -/
def statusCode : Failure → Nat
  | invalidRequest _ => 400
  | _ => 500

/-
  The failure and what lies behind it, each in words, the
  outermost first.
-/
def chain (failure : Failure) : List String :=
  match failure with
  | project f => [f.message, f.fault.message]
  | tool f => [f.message, f.fault.message]
  | artifact (.read _ fault) => [failure.message, fault.message]
  | _ => [failure.message]

end Failure

end Build

end PluginStudio
