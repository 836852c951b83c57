import PluginStudio.Files.Operation
import PluginStudio.Http.Date
import PluginStudio.Http.MediaType
import PluginStudio.Http.Message
import PluginStudio.Http.Range
import PluginStudio.Http.Uri

/-
  Files that the server hands out.

  Key definitions include:
    * `PluginStudio.Http.Static.fileResponse`
    * `PluginStudio.Http.Static.Wish`
    * `PluginStudio.Http.Static.respond`

  Files are only read.  A directory is shown by its index, once
  its path ends with a slash.  When a file was changed is not
  known, and every file counts as changed right now.
-/

------------------------------------------------------------
-- Files
------------------------------------------------------------

namespace PluginStudio

namespace Http

namespace Static

/- The file that shows a directory. -/
def indexFile : String := "index.html"

/- Bytes from the first to the last of a place. -/
def slice
    (bytes : Bytes)
    (place : Nat × Nat) : Bytes :=
  (bytes.drop place.1).take (place.2 + 1 - place.1)

/- The header that tells the place of a part. -/
def partHeader
    (size : Nat)
    (place : Nat × Nat) : String :=
  "bytes " ++ toString place.1 ++ "-" ++ toString place.2 ++ "/" ++
    toString size

/- The header that tells a size only. -/
def sizeHeader (size : Nat) : String :=
  "bytes */" ++ toString size

/- An answer about a file, without its content. -/
def fileHeaders
    (status : Nat)
    (p : Path) : Response :=
  ((Response.bare status).withHeader "content-type"
    (MediaType.ofPath p)).withHeader "accept-ranges" "bytes"

/- The answer where no part can be given. -/
def unsatisfiable
    (p : Path)
    (size : Nat) : Response :=
  (fileHeaders 416 p).withHeader "content-range" (sizeHeader size)

/- A file, or the part of it that is asked for. -/
def fileResponse
    (p : Path)
    (bytes : Bytes)
    (range? : Option String) : Response :=
  let size := bytes.length
  match range? with
  | none =>
    { (fileHeaders 200 p).withHeader "content-length" (toString size) with
      body := bytes }
  | some range =>
    match Range.resolve? size range with
    | some [place] =>
      let part := slice bytes place
      let response := (fileHeaders 206 p).withHeader "content-range"
        (partHeader size place)
      let length := if size = 0 then 0 else place.2 + 1 - place.1
      { response.withHeader "content-length" (toString length) with
        body := part }
    | some (_ :: _) =>
      { unsatisfiable p size with
        body := Utf8.encode "Cannot serve multipart range requests" }
    | _ => unsatisfiable p size

/-
  The answer to a fault.  What is missing is not found.  A path
  that no file can have is a failure only where the file would
  not be opened.
-/
def faultResponse
    (opened : Bool)
    (fault : IoFault) : Response :=
  if fault = .system .noEntry || fault = .system .notDirectory ||
      fault = .system .permissionDenied ||
      fault = .system .notPermitted ||
      (opened && fault = .zeroInPath) then
    Response.bare 404
  else
    Response.bare 500

/- The bytes of a file, which has to be opened or only seen. -/
def contentOf
    (fs : FileSystem)
    (cwd : Place)
    (opened : Bool)
    (p : Path) : Except IoFault Bytes :=
  if !opened && (fs.device? cwd p).isSome then
    .ok []
  else
    fs.read cwd p

/-
  What a client wants of a file: its bytes or only to hear of
  them, a range of them, and dates that a change has to be
  before or after.
-/
structure Wish where
  opened : Bool
  range? : Option String
  unchangedSince? : Option Date
  changedSince? : Option Date
deriving DecidableEq, Repr

/- The answer where a wish about changes is not met. -/
def unmetResponse?
    (wish : Wish)
    (changed : Nat) : Option Response :=
  if wish.unchangedSince?.any fun date => date.seconds < changed then
    some (Response.bare 412)
  else if wish.changedSince?.any fun date => changed ≤ date.seconds then
    some (Response.bare 304)
  else
    none

/- The answer for a file. -/
def readResponse
    (fs : FileSystem)
    (cwd : Place)
    (now : Nat)
    (wish : Wish)
    (p : Path) : Response :=
  match contentOf fs cwd wish.opened p with
  | .ok bytes =>
    (unmetResponse? wish now).getD (fileResponse p bytes wish.range?)
  | .error fault => faultResponse wish.opened fault

end Static

end Http

end PluginStudio

------------------------------------------------------------
-- Requests
------------------------------------------------------------

namespace PluginStudio

namespace Http

namespace Request

/- The value of a header, whatever the case of its name. -/
def header?
    (request : Request)
    (name : String) : Option String :=
  (request.headers.find? fun h =>
    h.1.map Char.toLower = name).map fun h => h.2

/- Is the character a blank or a visible one of ASCII? -/
def isLegible (c : Char) : Bool :=
  c = '\t' || (' ' ≤ c && c ≤ '~')

/- The range of bytes that is asked for, if it is legible. -/
def range? (request : Request) : Option String :=
  (request.header? "range").filter fun value =>
    value.toList.all isLegible

/- What is wanted of a file. -/
def wish (request : Request) : Static.Wish where
  opened := request.method = "GET"
  range? := request.range?
  unchangedSince? :=
    (request.header? "if-unmodified-since").bind Date.read?
  changedSince? :=
    (request.header? "if-modified-since").bind Date.read?

end Request

namespace Static

/-
  An answer without the content of a file, as a HEAD request
  wants it.  The text of a refusal stays.
-/
def withoutContent (response : Response) : Response :=
  if response.status = 416 then response else response.withoutBody

/- The answer for the names of a path below a directory. -/
def respondAt
    (fs : FileSystem)
    (cwd : Place)
    (now : Nat)
    (dir : Path)
    (wish : Wish)
    (uri : Uri)
    (names : List String) : Response :=
  let p := names.foldl Path.join dir
  if fs.names cwd Node.isDirectory p then
    if uri.path.toList.getLast? = some '/' then
      readResponse fs cwd now wish (p.join indexFile)
    else
      match uri.withSlash? with
      | some location => (Response.bare 307).withHeader "location" location
      | none => Response.bare 500
  else
    readResponse fs cwd now wish p

/- The answer for a request to a directory of files, at a time. -/
def respond
    (fs : FileSystem)
    (cwd : Place)
    (now : Nat)
    (dir : Path)
    (request : Request) : Response :=
  if request.method ≠ "GET" && request.method ≠ "HEAD" then
    (Response.bare 405).withHeader "allow" "GET,HEAD"
  else
    let uri := Uri.ofText request.uri
    match uri.names? with
    | none => Response.bare 404
    | some names =>
      let response := respondAt fs cwd now dir request.wish uri names
      if request.wish.opened then response else withoutContent response

end Static

end Http

end PluginStudio
