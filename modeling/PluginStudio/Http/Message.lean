import PluginStudio.Build.Failure
import PluginStudio.Http.Disposition
import PluginStudio.Json.Printer

/-
  Requests to the server and its answers.

  Key definitions include:
    * `PluginStudio.Http.Request`
    * `PluginStudio.Http.Response`
    * `PluginStudio.Build.Failure.response`
    * `PluginStudio.Http.Response.artifact`
-/

------------------------------------------------------------
-- Messages
------------------------------------------------------------

namespace PluginStudio

namespace Http

/- Headers in the order in which they are sent. -/
abbrev Headers :=
  List (String × String)

/- What a client asks for. -/
structure Request where
  method : String
  uri : String
  headers : Headers
  body : Bytes
deriving DecidableEq, Repr

/- What a client is answered. -/
structure Response where
  status : Nat
  headers : Headers
  body : Bytes
deriving DecidableEq, Repr

namespace Response

/- An answer that is a status only. -/
def bare (status : Nat) : Response where
  status := status
  headers := []
  body := []

/- With one header more. -/
def withHeader
    (response : Response)
    (name value : String) : Response :=
  { response with headers := response.headers ++ [(name, value)] }

/- With the length of the body as a header. -/
def withLength (response : Response) : Response :=
  response.withHeader "content-length"
    (toString response.body.length)

/- With that header, unless there is one. -/
def sized (response : Response) : Response :=
  if response.headers.any fun h => h.1 = "content-length" then response
  else response.withLength

/- Without its body. -/
def withoutBody (response : Response) : Response :=
  { response with body := [] }

/- The media type of an archive. -/
def archiveType : String :=
  "application/java-archive"

/- A plugin's archive as a download. -/
def artifact
    (plugin : String)
    (bytes : Bytes) : Response where
  status := 200
  headers :=
    [("content-type", archiveType),
      ("content-disposition", Disposition.value plugin)]
  body := bytes

end Response

end Http

end PluginStudio

------------------------------------------------------------
-- Failures
------------------------------------------------------------

namespace PluginStudio

namespace Build

namespace Failure

/- The body that tells a client of a failure. -/
def body (failure : Failure) : Bytes :=
  Utf8.encode (Json.Printer.object [("error", failure.message)])

/- The answer that tells a client of a failure. -/
def response (failure : Failure) : Http.Response where
  status := failure.statusCode
  headers := [("content-type", "application/json")]
  body := failure.body

end Failure

end Build

end PluginStudio
