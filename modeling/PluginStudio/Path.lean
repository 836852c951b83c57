import PluginStudio.Text.Octets

/-
  Paths as texts.

  Key definitions include:
    * `PluginStudio.Path.ofText`
    * `PluginStudio.Path.display`
    * `PluginStudio.Path.segments`
    * `PluginStudio.Path.join`
    * `PluginStudio.Path.parent?`
    * `PluginStudio.Path.fileName?`
    * `PluginStudio.Path.withFileName`
    * `PluginStudio.Path.extension?`

  A path is bytes, held by a text, and kept as it was written.
  Only where its parent or its last name is asked for do
  repeated and trailing slashes and segments of one dot not
  count.
-/

------------------------------------------------------------
-- Segments
------------------------------------------------------------

namespace PluginStudio

/- The bytes that name a place in the file system. -/
abbrev Path :=
  String

namespace Path

/- The path that a text writes. -/
def ofText (text : String) : Path :=
  Octets.ofString text

/- The path as it is shown. -/
def display (p : Path) : String :=
  Octets.legible p

/- The parts of a text between the occurrences of a character. -/
def splitOn
    (sep : Char)
    (cs : List Char) : List (List Char) :=
  cs.foldr
    (fun c parts =>
      if c = sep then
        [] :: parts
      else
        match parts with
        | [] => [[c]]
        | part :: parts => (c :: part) :: parts)
    [[]]

/- The texts between the slashes of a path. -/
def segments (p : Path) : List String :=
  (splitOn '/' p.toList).map String.ofList

/- The path with the given texts between its slashes. -/
def ofSegments (names : List String) : Path :=
  String.intercalate "/" names

/- Does the path start at the root? -/
def isAbsolute (p : Path) : Bool :=
  p.toList.head? = some '/'

/- Does a slash end the path? -/
def endsWithSlash (p : Path) : Bool :=
  p.toList.getLast? = some '/'

end Path

end PluginStudio

------------------------------------------------------------
-- Joining
------------------------------------------------------------

namespace PluginStudio

namespace Path

/-
  A path as seen from a directory.  An absolute path is itself,
  and any other is written after the directory.
-/
def join (dir p : Path) : Path :=
  if p.isAbsolute then p
  else if dir = "" ∨ dir.endsWithSlash then dir ++ p
  else dir ++ "/" ++ p

end Path

end PluginStudio

------------------------------------------------------------
-- Parents And Names
------------------------------------------------------------

namespace PluginStudio

namespace Path

/- Does the segment name nothing? -/
def isVoid (name : String) : Bool :=
  name = "" || name = "."

/- Segments from the last without those that name nothing. -/
def trimmedRev : List String → List String
  | [] => []
  | [name] => [name]
  | name :: names =>
    if isVoid name then trimmedRev names else name :: names

/- Segments up to the last that names something. -/
def trimmed (names : List String) : List String :=
  (trimmedRev names.reverse).reverse

/- The path of segments, where a lone empty one is the root. -/
def ofTrimmed
    (absolute : Bool)
    (names : List String) : Path :=
  if absolute && names = [""] then "/" else ofSegments names

/-
  The directory that holds the last named part.  The root and
  the empty path have none.
-/
def parent? (p : Path) : Option Path :=
  let names := trimmed p.segments
  match names with
  | [] => none
  | [name] =>
    if p.isAbsolute || name = "" then none else some ""
  | _ => some (ofTrimmed p.isAbsolute (trimmed names.dropLast))

/- The last name of a path, if it names a file or directory. -/
def fileName? (p : Path) : Option String :=
  match (trimmed p.segments).getLast? with
  | none => none
  | some name =>
    if isVoid name || name = ".." then none else some name

/- The path with another last name. -/
def withFileName
    (p : Path)
    (name : String) : Path :=
  if p.fileName?.isSome then
    ((p.parent?).getD "").join name
  else
    p.join name

/-
  What follows the last dot of a name, if anything stands in
  front of that dot.
-/
def extension? (p : Path) : Option String :=
  match p.fileName? with
  | none => none
  | some name =>
    let after := name.toList.reverse.takeWhile fun c => c ≠ '.'
    let before := name.toList.reverse.dropWhile fun c => c ≠ '.'
    if before.length ≤ 1 then
      none
    else
      some (String.ofList after.reverse)

end Path

end PluginStudio
