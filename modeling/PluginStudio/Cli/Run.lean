import PluginStudio.Build.Coordinator
import PluginStudio.Cli.Reader
import PluginStudio.Http.Server
import PluginStudio.Launcher
import PluginStudio.Net.Network
import PluginStudio.Report.Amount
import PluginStudio.Report.Screen
import PluginStudio.Text.ControlSequence

/-
  Doing what a command line asks for.

  Key definitions include:
    * `PluginStudio.Cli.Failure`
    * `PluginStudio.Cli.Surroundings`
    * `PluginStudio.Cli.build`
    * `PluginStudio.Cli.serve`
    * `PluginStudio.Cli.run`
-/

------------------------------------------------------------
-- Failures
------------------------------------------------------------

namespace PluginStudio

namespace Cli

/- Why a task was not carried out. -/
inductive Failure where
  | unreadable (path : Path) (fault : IoFault)
  | malformed (path : Path) (reason : String)
  | noWorkspace (path : Path) (fault : IoFault)
  | build (failure : Build.Failure)
  | unwritable (path : Path) (fault : IoFault)
  | notListening (fault : IoFault)
deriving DecidableEq, Repr

namespace Failure

/- The failure and what lies behind it, the outermost first. -/
def chain : Failure → List String
  | unreadable path fault =>
    ["Failed to read request file " ++ path.display, fault.message]
  | malformed path reason =>
    ["Failed to parse request file " ++ path.display, reason]
  | noWorkspace path fault =>
    ["Failed to create build directory " ++ path.display, fault.message]
  | build failure => failure.chain
  | unwritable path fault =>
    ["Failed to write " ++ path.display, fault.message]
  | notListening fault => ["Failed to start server", fault.message]

/- The failure in words. -/
def message (failure : Failure) : String :=
  String.intercalate ": " failure.chain

end Failure

end Cli

end PluginStudio

------------------------------------------------------------
-- Surroundings
------------------------------------------------------------

namespace PluginStudio

namespace Cli

/-
  What the program is run with: its environment, the directory
  it is in, a way to run the build tool, a way to start another
  program and see its two outputs, a network, and the requests
  that arrive while the server is up.
-/
structure Surroundings where
  env : Environment
  programDir : Path
  run : Tool.Runner
  start : Command → Studio (Except IoFault (Bytes × Bytes))
  network : Net.Network
  visits : List Http.Request

/- Work that is seen on a screen and may fail. -/
abbrev Action :=
  ExceptT Failure Report.Shown

namespace Action

/- Do some work and show the events that it reports. -/
def watch
    {α : Type}
    (act : Studio α) : Action α :=
  ExceptT.lift (Report.Shown.watch act)

/- Work whose faults are failures. -/
def attempt
    {ε α : Type}
    (failure : ε → Failure)
    (act : Studio (Except ε α)) : Action α := do
  match ← watch act with
  | .ok a => return a
  | .error e => throw (failure e)

/- Show a status line. -/
def say
    (status : Report.Status)
    (message : String) : Action Unit :=
  ExceptT.lift (Report.Shown.say status message)

end Action

namespace Order

/- The settings that an order leads to. -/
def settings
    (order : Order)
    (around : Surroundings) : Settings :=
  let settings := Settings.ofProgramDir around.env around.programDir
  let settings :=
    match order.resourcesDir? with
    | some dir => settings.withResourcesDir around.env dir
    | none => settings
  match order.buildDir? with
  | some dir => settings.withWorkspace dir
  | none => settings

/- Which events are shown, and what is coloured. -/
def style
    (order : Order)
    (env : Environment) : Report.Style where
  filter :=
    ((env.text? "RUST_LOG").bind Report.Filter.read?).getD
      (Report.Filter.usual order.verbose)
  colourful := Report.isColourful env
  logColourful := Report.isLogColourful env

end Order

end Cli

end PluginStudio

------------------------------------------------------------
-- Building
------------------------------------------------------------

namespace PluginStudio

namespace Cli

/- Read the request in a file. -/
def readRequestFile (path : Path) : Action Request := do
  let bytes ← Action.attempt (Failure.unreadable path)
    (Studio.inspect fun fs dir => fs.read dir path)
  match Request.read bytes with
  | .ok request => return request
  | .error fault => throw (.malformed path (fault.message bytes))

/- Create the workspace. -/
def ensureWorkspace (settings : Settings) : Action Unit :=
  Action.attempt (Failure.noWorkspace settings.workspace)
    settings.ensureWorkspace

/- Where the artifact goes if the order does not say so. -/
def defaultOutput (request : Request) : Path :=
  .ofText (request.pluginName ++ ".jar")

/- Show bytes that were written to an output of the program. -/
def showWritten
    (path : Path)
    (bytes : Bytes) : Action Unit := do
  let text := String.ofList (Utf8.legible bytes)
  match ← Action.watch (Studio.inspect fun fs dir => fs.device? dir path) with
  | some .output => ExceptT.lift (Report.Shown.pass text "")
  | some .problems => ExceptT.lift (Report.Shown.pass "" text)
  | _ => return ()

/- Build what a file asks for, and write the artifact. -/
def build
    (around : Surroundings)
    (settings : Settings)
    (path : Path)
    (output? : Option Path) : Action Unit := do
  let started := (← Action.watch get).clock
  let request ← readRequestFile path
  ensureWorkspace settings
  Action.say .info ("Building " ++ request.pluginName)
  let coordinator ← Action.watch (Coordinator.ofSettings around.run settings)
  let artifact ← Action.attempt Failure.build (coordinator.build request)
  let output := output?.getD (defaultOutput request)
  Action.attempt (Failure.unwritable output)
    (Studio.onFile fun fs dir => fs.write dir output artifact.bytes)
  showWritten output artifact.bytes
  let elapsed := (← Action.watch get).clock - started
  Action.say .success
    ("Wrote " ++ output.display ++ " (" ++
      Amount.size artifact.bytes.length ++ ") in " ++
      Amount.duration (elapsed / 1000) (elapsed % 1000 * 1000000))

end Cli

end PluginStudio

------------------------------------------------------------
-- Serving
------------------------------------------------------------

namespace PluginStudio

namespace Cli

/- How often a new server is tried to be reached. -/
def readyAttempts : Nat := 20

/- Milliseconds between two tries. -/
def readyInterval : Nat := 100

/- Listen on an address. -/
def listen
    (network : Net.Network)
    (address : Net.Address) :
    Studio (Except IoFault (Net.Address × Net.Network)) := do
  match network.listen address with
  | .error fault => return .error fault
  | .ok (bound, network) =>
    Studio.report .server .info "server listening"
      [⟨"addr", bound.text, false⟩]
    return .ok (bound, network)

/- Wait until the server can be reached, but not for ever. -/
def waitUntilUp
    (network : Net.Network)
    (address : Net.Address) : Studio Unit := do
  let up ←
    Net.waitUntilReady network address readyAttempts readyInterval
  if !up then
    Studio.report .commandLine .warn
      "server did not report ready, continuing"
      [⟨"addr", address.text, false⟩]

/- Show the page. -/
def present
    (around : Surroundings)
    (launcher : Launcher)
    (url : String) : Action Unit := do
  match launcher with
  | .headless =>
    Action.watch (Studio.report .launch .info "running headless"
      [⟨"url", url, true⟩])
  | .browser =>
    let (program, args) := Launcher.opener url
    let command : Command :=
      ⟨.ofText program, args.map Octets.ofString, ".", []⟩
    match ← Action.watch (around.start command) with
    | .ok (out, err) =>
      Action.watch (Studio.report .launch .info "opened browser"
        [⟨"url", url, true⟩])
      ExceptT.lift
        (Report.Shown.pass (Console.text out) (Console.text err))
    | .error fault =>
      Action.watch (Studio.report .launch .warn
        "failed to open browser, open the URL manually"
        [⟨"url", url, true⟩, ⟨"error", fault.message, false⟩])

/- Answer requests, as far as they come through. -/
def answerAll
    (server : Http.Server)
    (network : Net.Network)
    (address : Net.Address) :
    List Http.Request → Studio (List (Except IoFault Http.Response))
  | [] => return []
  | request :: requests => do
    let answer ←
      match network.connect address with
      | .ok () => do
        let response ← server.handle request
        pure (Except.ok response)
      | .error fault => pure (Except.error fault)
    let answers ← answerAll server network address requests
    return answer :: answers

/- Serve the studio until the user asks for the end. -/
def serve
    (around : Surroundings)
    (settings : Settings)
    (address : Net.Address)
    (headless : Bool) :
    Action (List (Except IoFault Http.Response)) := do
  ensureWorkspace settings
  let coordinator ← Action.watch (Coordinator.ofSettings around.run settings)
  Action.say .info ("Maven: " ++ coordinator.tool.program.display)
  let (bound, network) ← Action.attempt Failure.notListening
    (listen around.network address)
  Action.watch (waitUntilUp network bound)
  Action.say .success ("Studio running at " ++ bound.url)
  let launcher := Launcher.detect headless around.env
  if launcher = .headless then
    Action.say .warning
      ("No browser will be opened, visit " ++ bound.url ++ " manually")
  Action.say .info "Press Ctrl+C to exit"
  present around launcher bound.url
  let server : Http.Server := ⟨coordinator, settings.staticDir⟩
  let answers ← Action.watch (answerAll server network bound around.visits)
  Action.watch (Studio.report .launch .info "exit requested" [])
  Action.watch (Studio.report .server .info "server shutting down" [])
  Action.say .info "Stopped"
  return answers

end Cli

end PluginStudio

------------------------------------------------------------
-- Runs
------------------------------------------------------------

namespace PluginStudio

namespace Cli

/- How a run of the program ended. -/
structure Ending where
  code : Nat
  screen : Report.Screen
  answers : List (Except IoFault Http.Response) := []

namespace Order

/- Carry an order out. -/
def follow
    (order : Order)
    (around : Surroundings) :
    Action (List (Except IoFault Http.Response)) := do
  let settings := order.settings around
  match order.task with
  | .build request output? =>
    build around settings request output?
    return []
  | .serve bind port headless =>
    serve around settings ⟨bind, port⟩ headless

end Order

/- Run the program with some arguments. -/
def run
    (around : Surroundings)
    (args : List String) : Studio Ending := do
  let shown (text : String) : String :=
    if Report.isUsageColourful around.env then text
    else ControlSequence.strip text
  match Order.read args with
  | .error (.shown text) => return ⟨0, ⟨shown text, ""⟩, []⟩
  | .error (.refused refusal) => return ⟨2, ⟨"", shown refusal.text⟩, []⟩
  | .ok order =>
    let style := order.style around.env
    let (result, screen) ← (((order.follow around).run).run style).run {}
    match result with
    | .ok answers => return ⟨0, screen, answers⟩
    | .error failure =>
      return ⟨1, screen.say style .error failure.message, []⟩

end Cli

end PluginStudio
