import PluginStudio.Json.Skip
import PluginStudio.Request

/-
  Reading a build request from a JSON text.

  Key definitions include:
    * `PluginStudio.Request.Draft`
    * `PluginStudio.Request.readMembers`
    * `PluginStudio.Request.readElements`
    * `PluginStudio.Request.read`

  A request is an object with the names of fields, of which
  others are passed over, or an array with the texts of the
  fields in their order, of which the last may be missing.
-/

------------------------------------------------------------
-- Drafts
------------------------------------------------------------

namespace PluginStudio

namespace Request

/- The fields read so far. -/
abbrev Draft :=
  List (Field × String)

namespace Draft

/- Was the field read already? -/
def has
    (draft : Draft)
    (f : Field) : Bool :=
  draft.any fun entry => entry.1 = f

/- The text read for a field. -/
def text
    (draft : Draft)
    (f : Field) : String :=
  (draft.lookup f).getD ""

/- The request of what was read. -/
def toRequest (draft : Draft) : Request :=
  ofFields draft.text

end Draft

end Request

end PluginStudio

------------------------------------------------------------
-- Values
------------------------------------------------------------

namespace PluginStudio

namespace Request

open Json

/- The outcome of a scanner that only describes a value. -/
def mistypedScalar
    (expected : String) :
    Scan Found → Fault
  | .error fault => fault
  | .ok (found, rest) => .here (.wrongType found expected) rest

/- A word that stands for a value of its own. -/
def foundWord
    (found : Found)
    (letters : List Char)
    (rest : Bytes) : Scan Found :=
  match word letters rest with
  | .error fault => .error fault
  | .ok (_, rest) => .ok (found, rest)

/- A text that stands where another value was wanted. -/
def foundText (rest : Bytes) : Scan Found :=
  match Text.scan rest with
  | .error fault => .error fault
  | .ok (s, rest) => .ok (.text s, rest)

/- The fault of a value that is not of the expected kind. -/
def mistyped
    (expected : String)
    (b : UInt8)
    (rest : Bytes) : Fault :=
  if b = 'n'.toUInt8 then
    mistypedScalar expected (foundWord .null ['u', 'l', 'l'] rest)
  else if b = 't'.toUInt8 then
    mistypedScalar expected
      (foundWord (.boolean true) ['r', 'u', 'e'] rest)
  else if b = 'f'.toUInt8 then
    mistypedScalar expected
      (foundWord (.boolean false) ['a', 'l', 's', 'e'] rest)
  else if b = '-'.toUInt8 then
    mistypedScalar expected (Numeral.scan true rest)
  else if Numeral.isDigit b then
    mistypedScalar expected (Numeral.scan false (b :: rest))
  else if b = '"'.toUInt8 then
    mistypedScalar expected (foundText rest)
  else if b = '['.toUInt8 then
    .here (.wrongType .sequence expected) (b :: rest)
  else if b = '{'.toUInt8 then
    .here (.wrongType .map expected) (b :: rest)
  else
    .next .expectedValue (b :: rest)

/- The text of a field. -/
def readText (bytes : Bytes) : Scan String :=
  match skipBlanks bytes with
  | [] => .error (.next .endInValue [])
  | b :: rest =>
    if b = '"'.toUInt8 then
      Text.scan rest
    else
      .error (mistyped "a string" b rest)

/- The text of a field is followed by fewer bytes. -/
theorem readText_length_lt
    {bytes rest : Bytes}
    {s : String}
    (h : readText bytes = .ok (s, rest)) :
    rest.length < bytes.length := by
  have := skipBlanks_length_le bytes
  unfold readText at h
  grind [→ Text.scan_length_lt]

end Request

end PluginStudio

------------------------------------------------------------
-- Objects
------------------------------------------------------------

namespace PluginStudio

namespace Request

open Json

/-
  The unread bytes at which a repeated field is reported: past
  the blanks after its name, and past a brace there.
-/
def afterName (bytes : Bytes) : Bytes :=
  match skipBlanks bytes with
  | [] => []
  | b :: rest => if b = '}'.toUInt8 then rest else b :: rest

/- A member after its name. -/
def readMemberValue
    (draft : Draft)
    (name : String)
    (bytes : Bytes) : Scan Draft :=
  match Field.ofKey? name with
  | none =>
    match colon bytes with
    | .error fault => .error fault
    | .ok (_, rest) =>
      match skip rest with
      | .error fault => .error fault
      | .ok (_, rest) => .ok (draft, rest)
  | some f =>
    if draft.has f then
      .error (.here (.duplicateField f.key) (afterName bytes))
    else
      match colon bytes with
      | .error fault => .error fault
      | .ok (_, rest) =>
        match readText rest with
        | .error fault => .error fault
        | .ok (s, rest) => .ok ((f, s) :: draft, rest)

/- A member after the quote that opens its name. -/
def readMember
    (draft : Draft)
    (bytes : Bytes) : Scan Draft :=
  match Text.scan bytes with
  | .error fault => .error fault
  | .ok (name, rest) => readMemberValue draft name rest

/- A member is followed by fewer bytes. -/
theorem readMember_length_lt
    {draft draft' : Draft}
    {bytes rest : Bytes}
    (h : readMember draft bytes = .ok (draft', rest)) :
    rest.length < bytes.length := by
  unfold readMember readMemberValue at h
  grind [→ Text.scan_length_lt, → colon_length_lt, → skip_length_le, → readText_length_lt]

/- What comes after the members read so far. -/
inductive Upcoming where
  | member (rest : Bytes)
  | finish (rest : Bytes)
  | fault (fault : Fault)

/- What comes after a comma in an object. -/
def upcomingAfterComma (bytes : Bytes) : Upcoming :=
  match skipBlanks bytes with
  | [] => .fault (.next .endInValue [])
  | b :: rest =>
    if b = '"'.toUInt8 then
      .member rest
    else if b = '}'.toUInt8 then
      .fault (.next .trailingComma (b :: rest))
    else
      .fault (.next .keyNotText (b :: rest))

/- What comes next in an object. -/
def upcomingMember
    (first : Bool)
    (bytes : Bytes) : Upcoming :=
  match skipBlanks bytes with
  | [] => .fault (.next .endInObject [])
  | b :: rest =>
    if b = '}'.toUInt8 then
      .finish rest
    else if first then
      if b = '"'.toUInt8 then
        .member rest
      else
        .fault (.next .keyNotText (b :: rest))
    else if b = ','.toUInt8 then
      upcomingAfterComma rest
    else
      .fault (.next .expectedObjectEnd (b :: rest))

/- A member to come lies in the unread bytes. -/
theorem upcomingMember_length_lt
    {first : Bool}
    {bytes rest : Bytes}
    (h : upcomingMember first bytes = .member rest) :
    rest.length < bytes.length := by
  have := skipBlanks_length_le bytes
  unfold upcomingMember upcomingAfterComma at h
  grind [skipBlanks_length_le]

/- The members of an object, up to its end. -/
def readMembers
    (first : Bool)
    (draft : Draft)
    (bytes : Bytes) : Scan Draft :=
  match _h : upcomingMember first bytes with
  | .fault fault => .error fault
  | .finish rest => .ok (draft, rest)
  | .member rest =>
    match _h' : readMember draft rest with
    | .error fault => .error fault
    | .ok (draft, rest) => readMembers false draft rest
termination_by bytes.length
decreasing_by
  have := upcomingMember_length_lt _h
  have := readMember_length_lt _h'
  omega

end Request

end PluginStudio

------------------------------------------------------------
-- Arrays
------------------------------------------------------------

namespace PluginStudio

namespace Request

open Json

/- The end of an array that holds a text for every field. -/
def closeArray
    (draft : Draft)
    (bytes : Bytes) : Scan Draft :=
  match skipBlanks bytes with
  | [] => .error (.next .endInList [])
  | b :: rest =>
    if b = ']'.toUInt8 then
      .ok (draft, rest)
    else if b = ','.toUInt8 then
      let rest := skipBlanks rest
      if rest.head? = some ']'.toUInt8 then
        .error (.next .trailingComma rest)
      else
        .error (.next .trailingCharacters rest)
    else
      .error (.next .trailingCharacters (b :: rest))

/- What comes after a comma in an array. -/
def upcomingAfterListComma (bytes : Bytes) : Upcoming :=
  match skipBlanks bytes with
  | [] => .fault (.next .endInValue [])
  | b :: rest =>
    if b = ']'.toUInt8 then
      .fault (.next .trailingComma (b :: rest))
    else
      .member (b :: rest)

/- What comes next in an array. -/
def upcomingElement
    (first : Bool)
    (bytes : Bytes) : Upcoming :=
  match skipBlanks bytes with
  | [] => .fault (.next .endInList [])
  | b :: rest =>
    if b = ']'.toUInt8 then
      .finish rest
    else if first then
      .member (b :: rest)
    else if b = ','.toUInt8 then
      upcomingAfterListComma rest
    else
      .fault (.next .expectedListEnd (b :: rest))

/- The elements of an array, for the fields still missing. -/
def readElements
    (first : Bool)
    (draft : Draft) :
    List Field → Bytes → Scan Draft
  | [], bytes => closeArray draft bytes
  | f :: fs, bytes =>
    match upcomingElement first bytes with
    | .fault fault => .error fault
    | .finish rest => .ok (draft, rest)
    | .member rest =>
      match readText rest with
      | .error fault => .error fault
      | .ok (s, rest) => readElements false ((f, s) :: draft) fs rest

end Request

end PluginStudio

------------------------------------------------------------
-- Requests
------------------------------------------------------------

namespace PluginStudio

namespace Request

open Json

/- The fields of an object or of an array. -/
def readDraft (bytes : Bytes) : Scan Draft :=
  match skipBlanks bytes with
  | [] => .error (.next .endInValue [])
  | b :: rest =>
    if b = '['.toUInt8 then
      readElements true [] Field.all rest
    else if b = '{'.toUInt8 then
      readMembers true [] rest
    else
      .error (mistyped "struct BuildRequest" b rest)

/- A request, which is the whole of a text. -/
def read (input : Bytes) : Except Fault Request :=
  match readDraft input with
  | .error fault => .error fault
  | .ok (draft, rest) =>
    match skipBlanks rest with
    | [] => .ok draft.toRequest
    | b :: rest => .error (.next .trailingCharacters (b :: rest))

end Request

end PluginStudio
