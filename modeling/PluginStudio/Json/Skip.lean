import PluginStudio.Json.Numeral
import PluginStudio.Json.Text

/-
  Passing over a value of any kind and depth.

  Key definitions include:
    * `PluginStudio.Json.skipBlanks`
    * `PluginStudio.Json.word`
    * `PluginStudio.Json.Skipping`
    * `PluginStudio.Json.skip`

  The lists and objects that are still open stand on a stack,
  so that depth costs no recursion.  Each step of `Skipping`
  reads one scalar, one separator or one bracket.
-/

------------------------------------------------------------
-- Blanks And Words
------------------------------------------------------------

namespace PluginStudio

namespace Json

/- May the byte stand between tokens? -/
def isBlank (b : UInt8) : Bool :=
  b = ' '.toUInt8 || b = '\t'.toUInt8 ||
    b = '\n'.toUInt8 || b = '\r'.toUInt8

/- The bytes from the first token on. -/
def skipBlanks (bytes : Bytes) : Bytes :=
  bytes.dropWhile isBlank

/- Blanks are bytes of the text. -/
theorem skipBlanks_length_le (bytes : Bytes) :
    (skipBlanks bytes).length ≤ bytes.length :=
  Numeral.dropWhile_length_le isBlank bytes

/- The rest of a fixed word, given its expected letters. -/
def word : List Char → Bytes → Scan Unit
  | [], rest => .ok ((), rest)
  | _ :: _, [] => .error (.here .endInValue [])
  | c :: cs, b :: rest =>
    if b = c.toUInt8 then
      word cs rest
    else
      .error (.here .expectedWord rest)

/- A word never grows the unread bytes. -/
theorem word_length_le
    {cs : List Char}
    {bytes rest : Bytes}
    {u : Unit}
    (h : word cs bytes = .ok (u, rest)) :
    rest.length ≤ bytes.length := by
  fun_induction word cs bytes with
  | case1 => cases h; simp
  | case2 => cases h
  | case3 c cs r ih =>
    have := ih h
    simp only [List.length_cons]
    omega
  | case4 => cases h

end Json

end PluginStudio

------------------------------------------------------------
-- Open Lists And Objects
------------------------------------------------------------

namespace PluginStudio

namespace Json

/- A list or an object that is still open. -/
inductive Frame where
  | list
  | object
deriving DecidableEq, Repr

namespace Frame

/- The byte that closes it. -/
def close : Frame → UInt8
  | list => ']'.toUInt8
  | object => '}'.toUInt8

/- The fault of a text that ends inside it. -/
def unclosed : Frame → Cause
  | list => .endInList
  | object => .endInObject

/- The fault of a text that goes on without separator. -/
def unseparated : Frame → Cause
  | list => .expectedListEnd
  | object => .expectedObjectEnd

end Frame

/- A colon after a key. -/
def colon (bytes : Bytes) : Scan Unit :=
  match skipBlanks bytes with
  | [] => .error (.next .endInObject [])
  | b :: rest =>
    if b = ':'.toUInt8 then
      .ok ((), rest)
    else
      .error (.next .expectedColon (b :: rest))

/- A colon is a byte of the text. -/
theorem colon_length_lt
    {bytes rest : Bytes}
    {u : Unit}
    (h : colon bytes = .ok (u, rest)) :
    rest.length < bytes.length := by
  have := skipBlanks_length_le bytes
  unfold colon at h
  grind

/- Pass over the key in front of an object's next value. -/
def skipKey (bytes : Bytes) : Scan Unit :=
  match skipBlanks bytes with
  | [] => .error (.next .endInObject [])
  | b :: rest =>
    if b = '"'.toUInt8 then
      match Text.skip rest with
      | .error fault => .error fault
      | .ok (_, rest) => colon rest
    else
      .error (.next .keyNotText (b :: rest))

/- Pass over what stands in front of a value in its frame. -/
def Frame.skipLabel
    (frame : Frame)
    (bytes : Bytes) : Scan Unit :=
  match frame with
  | .list => .ok ((), bytes)
  | .object => skipKey bytes

/- A label never grows the unread bytes. -/
theorem Frame.skipLabel_length_le
    {frame : Frame}
    {bytes rest : Bytes}
    {u : Unit}
    (h : frame.skipLabel bytes = .ok (u, rest)) :
    rest.length ≤ bytes.length := by
  have := skipBlanks_length_le bytes
  unfold Frame.skipLabel skipKey at h
  grind [→ colon_length_lt, → Text.skip_length_lt]

end Json

end PluginStudio

------------------------------------------------------------
-- Steps
------------------------------------------------------------

namespace PluginStudio

namespace Json

/- What comes next, inside the frames that are open. -/
inductive Skipping where
  | value (frames : List Frame)
  | separator (frames : List Frame)
deriving DecidableEq, Repr

namespace Skipping

/- A list or an object was opened. -/
def opened
    (frame : Frame)
    (frames : List Frame)
    (bytes : Bytes) : Scan Skipping :=
  match skipBlanks bytes with
  | [] => .error (.next frame.unclosed [])
  | b :: rest =>
    if b = frame.close then
      .ok (.separator frames, rest)
    else
      match frame.skipLabel (b :: rest) with
      | .error fault => .error fault
      | .ok (_, rest) => .ok (.value (frame :: frames), rest)

/- A scalar was passed over, or was none. -/
def scalar
    (frames : List Frame) :
    Scan Unit → Scan Skipping
  | .error fault => .error fault
  | .ok (_, rest) => .ok (.separator frames, rest)

/- Read the start of a value. -/
def valueStep
    (frames : List Frame)
    (bytes : Bytes) : Scan Skipping :=
  match skipBlanks bytes with
  | [] => .error (.next .endInValue [])
  | b :: rest =>
    if b = 'n'.toUInt8 then
      scalar frames (word ['u', 'l', 'l'] rest)
    else if b = 't'.toUInt8 then
      scalar frames (word ['r', 'u', 'e'] rest)
    else if b = 'f'.toUInt8 then
      scalar frames (word ['a', 'l', 's', 'e'] rest)
    else if b = '-'.toUInt8 then
      scalar frames (Numeral.skip rest)
    else if Numeral.isDigit b then
      scalar frames (Numeral.skip (b :: rest))
    else if b = '"'.toUInt8 then
      scalar frames (Text.skip rest)
    else if b = '['.toUInt8 then
      opened .list frames rest
    else if b = '{'.toUInt8 then
      opened .object frames rest
    else
      .error (.next .expectedValue (b :: rest))

/- Read a comma or the end of the innermost frame. -/
def separatorStep
    (frame : Frame)
    (frames : List Frame)
    (bytes : Bytes) : Scan Skipping :=
  match skipBlanks bytes with
  | [] => .error (.next frame.unclosed [])
  | b :: rest =>
    if b = ','.toUInt8 then
      match frame.skipLabel rest with
      | .error fault => .error fault
      | .ok (_, rest) => .ok (.value (frame :: frames), rest)
    else if b = frame.close then
      .ok (.separator frames, rest)
    else
      .error (.next frame.unseparated (b :: rest))

/- An opened frame never grows the unread bytes. -/
theorem opened_length_le
    {frame : Frame}
    {frames : List Frame}
    {bytes rest : Bytes}
    {s : Skipping}
    (h : opened frame frames bytes = .ok (s, rest)) :
    rest.length ≤ bytes.length := by
  have := skipBlanks_length_le bytes
  unfold opened at h
  grind [→ Frame.skipLabel_length_le]

/- A scalar's unread bytes are those of its scanner. -/
theorem scalar_eq_ok_iff
    {frames : List Frame}
    {scan : Scan Unit}
    {s : Skipping}
    {rest : Bytes} :
    scalar frames scan = .ok (s, rest) ↔
      scan = .ok ((), rest) ∧ s = .separator frames := by
  unfold scalar
  split <;> simp [eq_comm, and_comm]

/- The start of a value is read. -/
theorem valueStep_length_lt
    {frames : List Frame}
    {bytes rest : Bytes}
    {s : Skipping}
    (h : valueStep frames bytes = .ok (s, rest)) :
    rest.length < bytes.length := by
  have := skipBlanks_length_le bytes
  unfold valueStep at h
  split at h
  · cases h
  · rename_i b r hb
    have hr : r.length + 1 ≤ bytes.length := by
      simpa [hb] using this
    repeat' split at h
    all_goals try rw [scalar_eq_ok_iff] at h
    · have := word_length_le h.1; omega
    · have := word_length_le h.1; omega
    · have := word_length_le h.1; omega
    · have := Numeral.skip_length_lt h.1; omega
    · have := Numeral.skip_length_lt h.1
      simp only [List.length_cons] at this
      omega
    · have := Text.skip_length_lt h.1; omega
    · have := opened_length_le h; omega
    · have := opened_length_le h; omega
    · cases h

/- A separator is read. -/
theorem separatorStep_length_lt
    {frame : Frame}
    {frames : List Frame}
    {bytes rest : Bytes}
    {s : Skipping}
    (h : separatorStep frame frames bytes = .ok (s, rest)) :
    rest.length < bytes.length := by
  have := skipBlanks_length_le bytes
  unfold separatorStep at h
  grind [→ Frame.skipLabel_length_le]

/- Read on until no frame is open. -/
def run
    (state : Skipping)
    (bytes : Bytes) : Scan Unit :=
  match state with
  | .separator [] => .ok ((), bytes)
  | .separator (frame :: frames) =>
    match _h : separatorStep frame frames bytes with
    | .error fault => .error fault
    | .ok (state, rest) => run state rest
  | .value frames =>
    match _h : valueStep frames bytes with
    | .error fault => .error fault
    | .ok (state, rest) => run state rest
termination_by bytes.length
decreasing_by
  · exact separatorStep_length_lt _h
  · exact valueStep_length_lt _h

/- Reading on never grows the unread bytes. -/
theorem run_length_le
    {state : Skipping}
    {bytes rest : Bytes}
    {u : Unit}
    (h : run state bytes = .ok (u, rest)) :
    rest.length ≤ bytes.length := by
  fun_induction run state bytes with
  | case1 => cases h; simp
  | case2 => cases h
  | case3 bytes frame frames s r hs ih =>
    have := separatorStep_length_lt hs
    have := ih h
    omega
  | case4 => cases h
  | case5 bytes frames s r hs ih =>
    have := valueStep_length_lt hs
    have := ih h
    omega

end Skipping

/- Pass over one value. -/
def skip (bytes : Bytes) : Scan Unit :=
  Skipping.run (.value []) bytes

/- A value passed over leaves no more bytes unread. -/
theorem skip_length_le
    {bytes rest : Bytes}
    {u : Unit}
    (h : skip bytes = .ok (u, rest)) :
    rest.length ≤ bytes.length :=
  Skipping.run_length_le h

end Json

end PluginStudio
