import PluginStudio.Settings
import PluginStudio.Shell.Program
import PluginStudio.Tool.Invoke

/-
  A host on which commands can be run.

  Key definitions include:
    * `PluginStudio.Host.files`
    * `PluginStudio.Host.execute`
    * `PluginStudio.Host.performBy`
    * `PluginStudio.Host.perform`
    * `PluginStudio.Host.run`

  The host has the usual utilities and a shell.  A command is
  looked up in the directory it is run in, or where its
  variables say if its name has no slash.
-/

------------------------------------------------------------
-- Files
------------------------------------------------------------

namespace PluginStudio

namespace Host

/- The programs that are installed. -/
def programs : List String :=
  ["sh", "env"] ++ Utility.catalog.map fun entry => entry.1

/- The file of a program. -/
def programEntry (name : String) : Place × Node :=
  (["usr", "bin", name], .file 0o755 (Utility.image name))

/- The files of a fresh host. -/
def files : FileSystem where
  nodes :=
    [
      (["tmp"], .directory 0o1777),
      (["dev"], .directory 0o755),
      (["dev", "full"], .device .full),
      (["dev", "null"], .device .null),
      (["dev", "random"], .device .zero),
      (["dev", "stderr"], .device .problems),
      (["dev", "stdin"], .device .null),
      (["dev", "stdout"], .device .output),
      (["dev", "tty"], .device .terminal),
      (["dev", "urandom"], .device .zero),
      (["dev", "zero"], .device .zero),
      (["bin"], .link "usr/bin"),
      (["usr"], .directory 0o755),
      (["usr", "bin"], .directory 0o755),
      (["usr", "bin", "dash"], .link "sh")
    ] ++ programs.map programEntry

end Host

end PluginStudio

------------------------------------------------------------
-- Commands
------------------------------------------------------------

namespace PluginStudio

namespace Host

/- Does a text hold the character zero? -/
def hasZero (text : String) : Bool :=
  text.toList.contains '\x00'

/- Is there anything that cannot be handed to a program? -/
def isUnfit (command : Command) : Bool :=
  hasZero command.program || command.args.any hasZero ||
    hasZero command.dir ||
    command.vars.any fun v => hasZero v.1 || hasZero v.2

/- Where a program's name is searched for. -/
def searchDirs (vars : List (String × String)) : List Path :=
  ((Path.splitOn ':' ((vars.lookup "PATH").getD "/bin:/usr/bin").toList).map
    String.ofList).map fun dir => if dir = "" then "." else dir

/-
  Try directories one after another.  A program that may not be
  executed is passed over, but remembered.
-/
def searchAndLaunch
    (name : Path)
    (process : Process) :
    List Path → Errno → StateM Machine (Except IoFault ExitStatus)
  | [], errno => return .error (.system errno)
  | dir :: dirs, errno => do
    match ← Shell.launch (dir.join name) process with
    | .ok status => return .ok status
    | .error fault =>
      if fault = .system .noEntry || fault = .system .notDirectory then
        searchAndLaunch name process dirs errno
      else if fault = .system .permissionDenied then
        searchAndLaunch name process dirs .permissionDenied
      else
        return .error fault

/- Run a program by its name. -/
def execute
    (name : Path)
    (process : Process) : StateM Machine (Except IoFault ExitStatus) :=
  if name = "" then
    return .error (.system .noEntry)
  else if '/' ∈ name.toList then
    Shell.launch name process
  else
    searchAndLaunch name process (searchDirs process.vars) .noEntry

/- The variables that programs see, as texts of bytes. -/
def programVars
    (vars : Environment)
    (more : List (String × String)) : List (String × String) :=
  Shell.overlay
    (vars.map fun v => (Octets.ofString v.1, Octets.text v.2)) more

/- Change to the directory of a command. -/
def enterDir
    (files : FileSystem)
    (dir : Place)
    (p : Path) : Except IoFault Place := do
  let (place, node) ← files.stat dir true p
  if node.isDirectory then return place
  else .error (.system .notDirectory)

/-
  Run a command until it ends, where `exec` says how its program
  is run.  Its input is empty.  Its two outputs are kept as one,
  or apart.
-/
def performBy
    (exec : Shell.Launch)
    (vars : Environment)
    (apart : Bool)
    (command : Command) :
    Studio (Except IoFault (ExitStatus × Bytes × Bytes)) := fun world =>
  if isUnfit command then
    (.error .zeroInArgument, world)
  else
    match enterDir world.files world.dir command.dir with
    | .error fault => (.error fault, world)
    | .ok dir =>
      let machine : Machine :=
        { files := world.files
          clock := world.clock
          streams := #[.device .null, .pipe [], .pipe []] }
      let process : Process :=
        { args := command.program :: command.args
          vars := programVars vars command.vars
          dir := dir
          ports :=
            [(0, ⟨0, true, false⟩), (1, ⟨1, false, true⟩),
              (2, ⟨if apart then 2 else 1, false, true⟩)] }
      let (result, machine) := (exec command.program process).run machine
      let world :=
        { world with files := machine.files, clock := machine.clock }
      let output (i : Nat) : Bytes :=
        match machine.readAll ⟨i, true, false⟩ with
        | .ok (bytes, _) => bytes
        | .error _ => []
      (result.map fun status => (status, output 1, output 2), world)

/- Run a command, with its program run by its name. -/
def perform :
    Environment → Bool → Command →
      Studio (Except IoFault (ExitStatus × Bytes × Bytes)) :=
  performBy execute

/- Run a command and keep both its outputs as one. -/
def run (vars : Environment) : Tool.Runner := fun command => do
  let result ← perform vars false command
  return result.map fun (status, output, _) => ⟨status, output⟩

end Host

end PluginStudio
