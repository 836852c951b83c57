import PluginStudio.Text.Percent
import PluginStudio.Path

/-
  What a request asks for.

  Key definitions include:
    * `PluginStudio.Http.Uri`
    * `PluginStudio.Http.Uri.ofText`
    * `PluginStudio.Http.Uri.withSlash?`
    * `PluginStudio.Http.Uri.names?`
-/

------------------------------------------------------------
-- Targets
------------------------------------------------------------

namespace PluginStudio

namespace Http

/- Scheme and authority, if given, then path and query. -/
structure Uri where
  origin : String
  path : String
  query? : Option String
deriving DecidableEq, Repr

namespace Uri

/- A text up to a character, and what follows the character. -/
def cutAt
    (c : Char)
    (cs : List Char) : List Char × Option (List Char) :=
  let front := cs.takeWhile fun d => d ≠ c
  match cs.drop front.length with
  | [] => (front, none)
  | _ :: rest => (front, some rest)

/- Where the path of an absolute target starts. -/
def originLength (cs : List Char) : Nat :=
  let scheme := cs.takeWhile fun c => c ≠ ':'
  if "://".toList.isPrefixOf (cs.drop scheme.length) then
    let rest := cs.drop (scheme.length + 3)
    let authority := rest.takeWhile fun c => c ≠ '/' && c ≠ '?'
    scheme.length + 3 + authority.length
  else
    0

/- Schemes whose letters have no case. -/
def knownSchemes : List String :=
  ["http", "https"]

/- An origin with a known scheme in its usual form. -/
def settled (origin : List Char) : List Char :=
  let scheme := origin.takeWhile fun c => c ≠ ':'
  let lowered := scheme.map Char.toLower
  if String.ofList lowered ∈ knownSchemes then
    lowered ++ origin.drop scheme.length
  else
    origin

/-
  The parts of a target.  What follows a hash is dropped.  A
  star is a path by itself, and what neither starts with a slash
  nor has a scheme is an authority without any path.
-/
def ofText (text : String) : Uri :=
  let cs := (cutAt '#' text.toList).1
  let size := if cs.head? = some '/' then 0 else originLength cs
  if size = 0 && cs.head? ≠ some '/' && cs ≠ ['*'] then
    { origin := String.ofList cs
      path := ""
      query? := none }
  else
    let (path, query?) := cutAt '?' (cs.drop size)
    { origin := String.ofList (settled (cs.take size))
      path := if path.isEmpty then "/" else String.ofList path
      query? := query?.map String.ofList }

/- Does the target have a path from the root? -/
def isRooted (uri : Uri) : Bool :=
  uri.path.toList.head? = some '/'

/-
  The target with a slash behind its path, as a text.  There is
  none for an authority alone.
-/
def withSlash? (uri : Uri) : Option String :=
  if uri.path.isEmpty then
    none
  else
    some (uri.origin ++ uri.path ++ "/" ++
      match uri.query? with
      | some query => "?" ++ query
      | none => "")

/- Names that lead to a file, if none of them leads up. -/
def checked? : List String → Option (List String)
  | [] => some []
  | name :: names =>
    if name = ".." then none
    else if name = "" || name = "." then checked? names
    else (checked? names).map fun more => name :: more

/-
  The names of a path below the root, with escapes resolved.
  Nothing if they are no text or lead up or to the root.
-/
def names? (uri : Uri) : Option (List String) := do
  let cs := uri.path.toList.dropWhile fun c => c = '/'
  let bytes := Percent.decode (Utf8.encode (String.ofList cs))
  let _ ← Utf8.decode? bytes
  let p : Path := Octets.text bytes
  if p.isAbsolute then none else checked? p.segments

end Uri

end Http

end PluginStudio
