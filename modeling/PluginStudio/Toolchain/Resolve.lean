import PluginStudio.Toolchain
import PluginStudio.World

/-
  Choosing the build tool.

  Key definitions include:
    * `PluginStudio.Toolchain.bundled`
    * `PluginStudio.Toolchain.ensureExecutable`
    * `PluginStudio.Toolchain.resolve`

  A tool that is bundled in its home is preferred, and made
  executable if it is not.  Otherwise the tool is searched for
  by its name when it is run.
-/

------------------------------------------------------------
-- Bundled Tools
------------------------------------------------------------

namespace PluginStudio

namespace Toolchain

/- The program of a tool that is bundled in a home. -/
def bundled (home : Path) : Path :=
  (home.join "bin").join searchedProgram

/- Can anyone execute a file with the bits? -/
def isExecutable (mode : Nat) : Bool :=
  mode &&& 0o111 ≠ 0

/- Make a program executable.  Was it not? -/
def ensureExecutable
    (program : Path) : Studio (Except IoFault Bool) := do
  match ← Studio.inspect fun fs dir => fs.stat dir true program with
  | .error fault => return .error fault
  | .ok (_, node) =>
    if isExecutable node.mode then
      return .ok false
    else
      let result ← Studio.onFile fun fs dir =>
        fs.setMode dir program 0o755
      return result.map fun _ => true

/- Choose the tool for a home. -/
def resolve (home : Path) : Studio Toolchain := do
  let program := bundled home
  if ← Studio.inspect fun fs dir => fs.names dir Node.isFile program then
    match ← ensureExecutable program with
    | .ok true =>
      Studio.report .toolchain .info
        "restored executable permission on bundled Maven"
        [⟨"path", program.display, false⟩]
    | .ok false => pure ()
    | .error fault =>
      Studio.report .toolchain .warn
        "failed to make bundled Maven executable"
        [⟨"path", program.display, false⟩, ⟨"error", fault.message, false⟩]
    Studio.report .toolchain .info "using bundled Maven" [⟨"path", program.display, false⟩]
    return .direct program home
  else
    Studio.report .toolchain .info "bundled Maven not found, using mvn from PATH"
      [⟨"home", home.display, false⟩]
    return .direct searchedProgram home

end Toolchain

end PluginStudio
