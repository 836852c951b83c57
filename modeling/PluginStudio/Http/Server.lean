import PluginStudio.Build.Coordinator
import PluginStudio.Http.Static
import PluginStudio.Request.Reader

/-
  The server's answers.

  Key definitions include:
    * `PluginStudio.Http.Server`
    * `PluginStudio.Http.Server.build`
    * `PluginStudio.Http.Server.handle`

  One path takes builds.  All others are files.
-/

------------------------------------------------------------
-- Builds
------------------------------------------------------------

namespace PluginStudio

namespace Build

/- The request that a body holds. -/
def readRequest (body : Bytes) : Except Failure Request :=
  match Request.read body with
  | .ok request => .ok request
  | .error fault =>
    .error (.invalidRequest ("invalid JSON: " ++ fault.message body))

end Build

namespace Http

/- What answers requests. -/
structure Server where
  coordinator : Coordinator
  staticDir : Path

namespace Server

/- The path that takes builds. -/
def buildPath : String := "/api/build"

/- The largest body of a build, in bytes. -/
def largestBody : Nat := 2 * 1024 * 1024

/- The answer to a body that is too large. -/
def tooLarge : Response :=
  { (Response.bare 413).withHeader "content-type"
      "text/plain; charset=utf-8" with
    body :=
      Utf8.encode
        "Failed to buffer the request body: length limit exceeded" }

/- Build what a body asks for. -/
def build
    (server : Server)
    (body : Bytes) : Studio Response := do
  match Build.readRequest body with
  | .error failure => return failure.response
  | .ok request =>
    Studio.report .server .info "build requested"
      [⟨"plugin", request.pluginName, false⟩]
    match ← server.coordinator.build request with
    | .error failure => return failure.response
    | .ok artifact =>
      Studio.report .server .info "sending artifact"
        [⟨"plugin", request.pluginName, false⟩,
          ⟨"bytes", toString artifact.bytes.length, false⟩]
      return Response.artifact request.pluginName artifact.bytes

/- The answer to a request for the path that takes builds. -/
def handleBuild
    (server : Server)
    (request : Request) : Studio Response := do
  if request.method ≠ "POST" then
    return ((Response.bare 405).withHeader "allow" "POST").withLength
  else if largestBody < request.body.length then
    return tooLarge.withLength
  else
    return (← server.build request.body).withLength

/-
  The answer to a request for a file.  Where there is no path
  from the root, it always tells the length of its body.
-/
def handleFile
    (fs : FileSystem)
    (cwd : Place)
    (now : Nat)
    (dir : Path)
    (request : Request) : Response :=
  let response := Static.respond fs cwd now dir request
  if (Uri.ofText request.uri).isRooted then response
  else if request.method = "HEAD" then response.sized.withoutBody
  else response.sized

/- The answer to a request. -/
def handle
    (server : Server)
    (request : Request) : Studio Response := do
  if (Uri.ofText request.uri).path = buildPath then
    server.handleBuild request
  else
    let now := (← get).clock / 1000
    Studio.inspect fun fs dir =>
      handleFile fs dir now server.staticDir request

end Server

end Http

end PluginStudio
