import PluginStudio.Http.MediaType.Application
import PluginStudio.Http.MediaType.Informal
import PluginStudio.Http.MediaType.Picture
import PluginStudio.Http.MediaType.Recording
import PluginStudio.Http.MediaType.Vendor
import PluginStudio.Http.MediaType.Writing
import PluginStudio.Path

/-
  Media types of files by the ends of their names.

  Key definitions include:
    * `PluginStudio.Http.MediaType.table`
    * `PluginStudio.Http.MediaType.ofExtension?`
    * `PluginStudio.Http.MediaType.ofPath`

  An extension tells of one type at most.
-/

------------------------------------------------------------
-- Media Types
------------------------------------------------------------

namespace PluginStudio

namespace Http

namespace MediaType

/- All types with their extensions, common ones first. -/
def table : List (String × List String) :=
  writing ++ picture ++ application ++ recording ++ informal ++ vendor

/- The type that an extension in small letters tells of. -/
def ofExtension? (ext : String) : Option String :=
  (table.find? fun entry => entry.2.contains ext).map fun entry => entry.1

/-
  A character without its case.  Ligatures and the like become
  the letters that they stand for.
-/
def folded (c : Char) : List Char :=
  match c.toNat with
  | 0xDF | 0x1E9E => ['s', 's']
  | 0x17F => ['s']
  | 0x212A => ['k']
  | 0xFB00 => ['f', 'f']
  | 0xFB01 => ['f', 'i']
  | 0xFB02 => ['f', 'l']
  | 0xFB03 => ['f', 'f', 'i']
  | 0xFB04 => ['f', 'f', 'l']
  | 0xFB05 | 0xFB06 => ['s', 't']
  | _ => [c.toLower]

/- The type of bytes of which nothing is known. -/
def unknown : String := "application/octet-stream"

/- The type of a file, whatever the case of its extension. -/
def ofPath (p : Path) : String :=
  match p.extension?.bind Octets.toString? with
  | none => unknown
  | some ext =>
    (ofExtension? (String.ofList (ext.toList.flatMap folded))).getD unknown

end MediaType

end Http

end PluginStudio
