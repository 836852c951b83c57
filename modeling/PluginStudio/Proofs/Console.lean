import Mathlib.Data.List.Chain
import Mathlib.Data.List.Induction
import PluginStudio.Console
import PluginStudio.Proofs.Text.Validity

/-
  What a build tool wrote stays in its lines.

  Key definitions include:
    * `PluginStudio.Gb18030.Passes`
    * `PluginStudio.Gb18030.chars`
    * `PluginStudio.Console.signs`

  Main declarations:
    * `Gb18030.step_passes`
    * `Gb18030.toList_text_decode`
    * `Console.signs_chars`
    * `Console.text_append`
    * `Console.text_keepsLines`

  Line ends, tabs and blanks are single bytes in both encodings
  that a console may use.  However broken the bytes around them
  are, none is lost and none is made up.
-/

------------------------------------------------------------
-- Characters Of Four Bytes
------------------------------------------------------------

namespace PluginStudio

namespace Gb18030

/-
  The code points from the start of a run to that of the next are
  characters.
-/
def Unbroken (run next : Nat × Nat) : Prop :=
  run.2 + (next.1 - run.1) ≤ 0xD800 ∨
    0xE000 ≤ run.2 ∧ run.2 + (next.1 - run.1) ≤ 0x110000

instance (run next : Nat × Nat) : Decidable (Unbroken run next) :=
  inferInstanceAs (Decidable (_ ∨ _))

/- No run reaches into the surrogates, or past the last character. -/
theorem isChain_quadRanges :
    (quadRanges.toList ++ [(1237576, 0)]).IsChain Unbroken := by
  decide +kernel

/- The runs after the one that is found start too late. -/
theorem exists_of_quadRun?
    {ordinal : Nat}
    {run : Nat × Nat}
    (hRun : quadRun? ordinal = some run) :
    ∃ before after, quadRanges.toList = before ++ run :: after ∧
      run.1 ≤ ordinal ∧ ∀ next ∈ after, ordinal < next.1 := by
  rw [quadRun?, ← Array.foldl_toList] at hRun
  generalize quadRanges.toList = runs at hRun ⊢
  induction runs using List.reverseRecOn with
  | nil => contradiction
  | append_singleton runs last ih =>
      rw [List.foldl_append, List.foldl_cons, List.foldl_nil] at hRun
      split_ifs at hRun with hStart
      · obtain rfl := Option.some.inj hRun
        exact ⟨runs, [], rfl, hStart, by simp⟩
      · obtain ⟨before, after, rfl, hFirst, hAfter⟩ := ih hRun
        refine ⟨before, after ++ [last], by simp, hFirst, ?_⟩
        intro next hNext
        rcases List.mem_append.mp hNext with hNext | hNext
        · exact hAfter next hNext
        · rw [List.mem_singleton.mp hNext]
          omega

/- A code point that is found is that of a character. -/
theorem isValidChar_of_quadCodePoint?
    {ordinal n : Nat}
    (hPoint : quadCodePoint? ordinal = some n) :
    n.isValidChar := by
  rw [quadCodePoint?] at hPoint
  split_ifs at hPoint with hAssigned
  obtain ⟨run, hRun, rfl⟩ := Option.map_eq_some_iff.mp hPoint
  obtain ⟨before, after, hRuns, hStart, hAfter⟩ := exists_of_quadRun? hRun
  have hChain := isChain_quadRanges
  rw [hRuns, List.append_assoc, List.cons_append] at hChain
  obtain ⟨next, others, hNext⟩ :
      ∃ next others, after ++ [(1237576, 0)] = next :: others :=
    List.exists_cons_of_ne_nil (by simp)
  rw [hNext] at hChain
  have hUnbroken : Unbroken run next :=
    (List.isChain_append_cons_cons.mp hChain).2.1
  have hBefore : ordinal < next.1 := by
    have hMem : next ∈ after ++ [(1237576, 0)] := by simp [hNext]
    rcases List.mem_append.mp hMem with hMem | hMem
    · exact hAfter next hMem
    · rw [List.mem_singleton.mp hMem]
      omega
  rw [Unbroken] at hUnbroken
  rw [Nat.isValidChar]
  omega

theorem le_of_quad?
    {first second third fourth : UInt8}
    {c : Char}
    (hQuad : quad? first second third fourth = some c) :
    0x80 ≤ c.toNat := by
  simp only [quad?, Option.bind_eq_bind, Option.bind_eq_some_iff]
    at hQuad
  obtain ⟨n, hPoint, hChar⟩ := hQuad
  split_ifs at hChar with hLow
  rw [← Option.some.inj hChar, Char.ofNat,
    dif_pos (isValidChar_of_quadCodePoint? hPoint)]
  exact Nat.not_lt.mp hLow

theorem le_of_pair?
    {lead trail : UInt8}
    {c : Char}
    (hPair : pair? lead trail = some c) :
    0x80 ≤ c.toNat := by
  simp only [pair?, Option.bind_eq_bind, Option.bind_eq_some_iff]
    at hPair
  obtain ⟨column, -, row, -, d, -, hChar⟩ := hPair
  split_ifs at hChar with hLow
  rw [← Option.some.inj hChar]
  exact Nat.not_lt.mp hLow

end Gb18030

end PluginStudio

------------------------------------------------------------
-- One Step
------------------------------------------------------------

namespace PluginStudio

namespace Gb18030

/-
  Reading goes on past bytes none of which is below the digits, and
  a character that was read is no ASCII one.
-/
structure Passes
    (bytes : Bytes)
    (reading : Reading) : Prop where
  taken :
    ∃ taken, bytes = taken ++ reading.rest ∧
      ∀ b ∈ taken, 0x30 ≤ b.toNat
  foreign : ∀ c ∈ reading.char?, 0x80 ≤ c.toNat

theorem le_of_isDigit
    {b : UInt8}
    (hDigit : isDigit b = true) :
    0x30 ≤ b.toNat := by
  rw [isDigit, Bool.and_eq_true, decide_eq_true_iff,
    UInt8.le_iff_toNat_le] at hDigit
  exact hDigit.1

theorem le_of_isLead
    {b : UInt8}
    (hLead : isLead b = true) :
    0x30 ≤ b.toNat := by
  rw [isLead, Bool.and_eq_true, decide_eq_true_iff,
    UInt8.le_iff_toNat_le] at hLead
  exact Nat.le_trans (by decide) hLead.1

/- A fault, with the bytes that are given up for it. -/
theorem Passes.fault
    (taken : Bytes)
    (hTaken : ∀ b ∈ taken, 0x30 ≤ b.toNat)
    (rest : Bytes) :
    Passes (taken ++ rest) (.fault rest) where
  taken := ⟨taken, rfl, hTaken⟩
  foreign := by simp [Reading.fault]

/- A sequence of four bytes, whole or broken. -/
theorem quadStep_passes
    (lead : UInt8)
    {digit : UInt8}
    (hDigit : isDigit digit = true)
    (rest : Bytes) :
    Passes (digit :: rest) (quadStep lead digit rest) := by
  have hSecond := le_of_isDigit hDigit
  unfold quadStep
  split
  · exact .fault [digit] (by simpa using hSecond) []
  rename_i third rest
  split_ifs with hThird
  · exact .fault [] (by simp) _
  rw [Bool.not_eq_true, Bool.not_eq_false'] at hThird
  have hThird := le_of_isLead hThird
  split
  · exact .fault [digit, third] (by simpa using ⟨hSecond, hThird⟩) []
  rename_i fourth rest
  split_ifs with hFourth
  · exact .fault [] (by simp) _
  rw [Bool.not_eq_true, Bool.not_eq_false'] at hFourth
  have hFourth := le_of_isDigit hFourth
  exact
    { taken :=
        ⟨[digit, third, fourth], rfl,
          by simpa using ⟨hSecond, hThird, hFourth⟩⟩
      foreign := fun c => le_of_quad? }

theorem le_of_column?
    {trail : UInt8}
    {column : Nat}
    (hColumn : column? trail = some column) :
    0x30 ≤ trail.toNat := by
  rw [column?] at hColumn
  simp only [UInt8.le_iff_toNat_le] at hColumn
  split_ifs at hColumn with hLow hHigh
  · exact Nat.le_trans (by decide) hLow.1
  · exact Nat.le_trans (by decide) hHigh.1

theorem le_trail_of_pair?
    {lead trail : UInt8}
    {c : Char}
    (hPair : pair? lead trail = some c) :
    0x30 ≤ trail.toNat := by
  simp only [pair?, Option.bind_eq_bind, Option.bind_eq_some_iff]
    at hPair
  obtain ⟨column, hColumn, -⟩ := hPair
  exact le_of_column? hColumn

/- A sequence that a lead byte starts. -/
theorem leadStep_passes
    (lead : UInt8)
    (rest : Bytes) :
    Passes rest (leadStep lead rest) := by
  unfold leadStep
  split
  · exact .fault [] (by simp) []
  rename_i second rest
  by_cases hDigit : isDigit second = true
  · rw [if_pos hDigit]
    exact quadStep_passes lead hDigit rest
  rw [if_neg hDigit]
  split
  · rename_i c hPair
    exact
      { taken := ⟨[second], rfl, by simpa using le_trail_of_pair? hPair⟩
        foreign := by simpa [Reading.found] using le_of_pair? hPair }
  split_ifs with hAscii
  · exact .fault [] (by simp) _
  · refine .fault [second] ?_ rest
    simpa using Nat.le_trans (by decide) (Utf8.le_toNat_of_not_lt hAscii)

/- A step from a byte that is no ASCII one. -/
theorem step_passes
    {b : UInt8}
    (hHigh : ¬ b < 0x80)
    (rest : Bytes) :
    Passes rest (step b rest) := by
  rw [step, if_neg hHigh]
  split_ifs
  · exact
      { taken := ⟨[], rfl, by simp⟩
        foreign := by
          rintro c hChar
          obtain rfl := Option.some.inj hChar
          decide }
  · exact leadStep_passes b rest
  · exact .fault [] (by simp) rest

end Gb18030

end PluginStudio

------------------------------------------------------------
-- All Characters
------------------------------------------------------------

namespace PluginStudio

namespace Gb18030

/- The characters of bytes, with a mark for each fault. -/
def chars : Bytes → List Char
  | [] => []
  | b :: rest =>
    (step b rest).char?.getD replacement :: chars (step b rest).rest
termination_by bytes => bytes.length
decreasing_by
  have := step_rest_length_le b rest
  simp only [List.length_cons]
  omega

theorem toList_text_decodeFrom
    (read : List Char)
    (faulty : Bool)
    (bytes : Bytes) :
    (decodeFrom read faulty bytes).text.toList =
      read.reverse ++ chars bytes := by
  fun_induction decodeFrom read faulty bytes with
  | case1 => simp [chars]
  | case2 read faulty b rest reading c hChar ih =>
      have hStep : (step b rest).char? = some c := hChar
      rw [ih, chars, hStep, Option.getD_some, List.reverse_cons,
        List.append_assoc, List.singleton_append]
  | case3 read faulty b rest reading hChar ih =>
      have hStep : (step b rest).char? = none := hChar
      rw [ih, chars, hStep, Option.getD_none, List.reverse_cons,
        List.append_assoc, List.singleton_append]

theorem toList_text_decode (bytes : Bytes) :
    (decode bytes).text.toList = chars bytes :=
  toList_text_decodeFrom [] false bytes

/- An ASCII byte is itself, whatever follows it. -/
theorem chars_cons_of_lt
    {b : UInt8}
    (hAscii : b < 0x80)
    (rest : Bytes) :
    chars (b :: rest) = Char.ofNat b.toNat :: chars rest := by
  have hStep : step b rest = .found (Char.ofNat b.toNat) rest := by
    rw [step, if_pos hAscii]
  rw [chars, hStep]
  rfl

end Gb18030

end PluginStudio

------------------------------------------------------------
-- Signs That Make Lines
------------------------------------------------------------

namespace PluginStudio

namespace Console

/-
  Of some codes those below the digits: line ends, tabs, blanks and
  other signs.
-/
def signs (codes : List Nat) : List Nat :=
  codes.filter fun code => code < 0x30

@[simp] theorem signs_append (codes more : List Nat) :
    signs (codes ++ more) = signs codes ++ signs more :=
  List.filter_append codes more

theorem signs_eq_nil
    {codes : List Nat}
    (hHigh : ∀ code ∈ codes, 0x30 ≤ code) :
    signs codes = [] := by
  rw [signs, List.filter_eq_nil_iff]
  intro code hMem
  simpa using hHigh code hMem

theorem signs_cons
    (code : Nat)
    (codes : List Nat) :
    signs (code :: codes) = signs [code] ++ signs codes :=
  signs_append [code] codes

/- Nothing beyond ASCII is a sign. -/
theorem signs_singleton
    {code : Nat}
    (hHigh : 0x80 ≤ code) :
    signs [code] = [] := by
  apply signs_eq_nil
  simp only [List.mem_singleton, forall_eq]
  omega

/- One step keeps the signs of the bytes that it reads. -/
theorem signs_step
    (b : UInt8)
    (rest : Bytes) :
    signs [((Gb18030.step b rest).char?.getD
          Gb18030.replacement).toNat] ++
        signs ((Gb18030.step b rest).rest.map UInt8.toNat) =
      signs ((b :: rest).map UInt8.toNat) := by
  rw [List.map_cons, signs_cons b.toNat]
  by_cases hAscii : b < 0x80
  · have hStep :
        Gb18030.step b rest = .found (Char.ofNat b.toNat) rest := by
      rw [Gb18030.step, if_pos hAscii]
    rw [hStep, Gb18030.Reading.found, Option.getD_some,
      Octets.toNat_ofNat_byte]
  · have hPasses := Gb18030.step_passes hAscii rest
    obtain ⟨taken, hRest, hTaken⟩ := hPasses.taken
    have hByte : 0x80 ≤ b.toNat := Utf8.le_toNat_of_not_lt hAscii
    have hChar :
        0x80 ≤ ((Gb18030.step b rest).char?.getD
          Gb18030.replacement).toNat := by
      cases hFound : (Gb18030.step b rest).char? with
      | none => decide
      | some c => exact hPasses.foreign c hFound
    have hNone : signs (taken.map UInt8.toNat) = [] := by
      apply signs_eq_nil
      simpa using hTaken
    rw [signs_singleton hChar, signs_singleton hByte]
    conv_rhs => rw [hRest, List.map_append, signs_append, hNone]
    rfl

/- So reading in the national encoding keeps all signs. -/
theorem signs_chars (bytes : Bytes) :
    signs ((Gb18030.chars bytes).map Char.toNat) =
      signs (bytes.map UInt8.toNat) := by
  fun_induction Gb18030.chars bytes with
  | case1 => rfl
  | case2 b rest ih =>
      rw [List.map_cons, signs_cons, ih, signs_step]

theorem signs_encodeChar (c : Char) :
    signs ((Utf8.encodeChar c).map UInt8.toNat) = signs [c.toNat] := by
  by_cases hAscii : c.toNat < 0x80
  · rw [Utf8.encodeChar_of_lt hAscii, List.map_singleton,
      Utf8.toNat_byte (by omega)]
  · have hMany : 0x80 ≤ c.toNat := Nat.not_lt.mp hAscii
    have hBytes :
        ∀ code ∈ (Utf8.encodeChar c).map UInt8.toNat, 0x30 ≤ code := by
      intro code hMem
      obtain ⟨b, hByte, rfl⟩ := List.mem_map.mp hMem
      exact Nat.le_trans (by decide)
        (Octets.le_of_mem_encodeChar hMany hByte)
    rw [signs_eq_nil hBytes, signs_singleton hMany]

/- Texts have the signs of their bytes. -/
theorem signs_encode (s : String) :
    signs ((Utf8.encode s).map UInt8.toNat) =
      signs (s.toList.map Char.toNat) := by
  rw [Utf8.encode]
  induction s.toList with
  | nil => rfl
  | cons c cs ih =>
      rw [List.flatMap_cons, List.map_append, signs_append,
        signs_encodeChar, ih, List.map_cons, ← signs_cons]

end Console

end PluginStudio

------------------------------------------------------------
-- Console Output
------------------------------------------------------------

namespace PluginStudio

namespace Console

theorem text_of_decode?_eq_some
    {output : Bytes}
    {s : String}
    (hDecode : Utf8.decode? output = some s) :
    text output = s := by
  rw [text, decode, hDecode]

/- Output that is well-formed Unicode is taken as it is. -/
theorem text_encode (s : String) : text (Utf8.encode s) = s :=
  text_of_decode?_eq_some (Utf8.decode?_encode s)

theorem toList_text_of_decode?_eq_none
    {output : Bytes}
    (hDecode : Utf8.decode? output = none) :
    (text output).toList = Gb18030.chars output := by
  rw [text, decode, hDecode, Gb18030.toList_text_decode]

theorem signs_text (output : Bytes) :
    signs ((text output).toList.map Char.toNat) =
      signs (output.map UInt8.toNat) := by
  cases hDecode : Utf8.decode? output with
  | none =>
      rw [toList_text_of_decode?_eq_none hDecode, signs_chars]
  | some s =>
      rw [text_of_decode?_eq_some hDecode, ← signs_encode,
        Utf8.decode?_eq_some_iff.mp hDecode]

/-
  An ASCII byte in front changes neither the choice of the encoding
  nor what is read after it.
-/
theorem toList_text_cons
    {b : UInt8}
    (hAscii : b < 0x80)
    (output : Bytes) :
    (text (b :: output)).toList =
      Char.ofNat b.toNat :: (text output).toList := by
  have hFront := Utf8.decode?_cons_of_lt hAscii output
  cases hDecode : Utf8.decode? output with
  | none =>
      rw [hDecode, Option.map_none] at hFront
      rw [toList_text_of_decode?_eq_none hFront,
        toList_text_of_decode?_eq_none hDecode,
        Gb18030.chars_cons_of_lt hAscii]
  | some s =>
      rw [hDecode, Option.map_some] at hFront
      rw [text_of_decode?_eq_some hFront,
        text_of_decode?_eq_some hDecode, String.toList_ofList]

theorem text_append
    {ascii : Bytes}
    (hAscii : ∀ b ∈ ascii, b < 0x80)
    (output : Bytes) :
    text (ascii ++ output) = Octets.text ascii ++ text output := by
  apply String.toList_inj.mp
  rw [String.toList_append, Octets.text, String.toList_ofList]
  induction ascii with
  | nil => rfl
  | cons b ascii ih =>
      rw [List.cons_append, toList_text_cons (hAscii b (by simp)),
        ih fun c hMem => hAscii c (by simp [hMem])]
      rfl

/-
  The text of an output is written as the output where that is
  Unicode.  It has the line ends, blanks and other signs of the
  output, in their order, whatever the output is; and ASCII in front
  of an output is in front of its text.
-/
theorem text_keepsLines :
    (∀ output : Bytes, output.toByteArray.IsValidUTF8 →
        Utf8.encode (text output) = output) ∧
      (∀ output : Bytes,
        signs ((text output).toList.map Char.toNat) =
          signs (output.map UInt8.toNat)) ∧
      ∀ ascii output : Bytes, (∀ b ∈ ascii, b < 0x80) →
        text (ascii ++ output) = Octets.text ascii ++ text output := by
  refine ⟨fun output hValid => ?_, signs_text,
    fun ascii output hAscii => text_append hAscii output⟩
  obtain ⟨s, rfl⟩ := (Utf8.isValidUTF8_iff output).mp hValid
  rw [text_encode]

/-
  A line end that breaks a sequence of four bytes off, behind ASCII
  and as part of Unicode.
-/
theorem text_keepsLines_of_broken :
    Utf8.encode (text [0xC3, 0xA9, 0x0A]) = [0xC3, 0xA9, 0x0A] ∧
      signs ((text [0x81, 0x30, 0x81, 0x0A, 0xFF]).toList.map Char.toNat) =
        [0x0A] ∧
      text ([0x41, 0x0A] ++ [0x81, 0x30, 0x81, 0x0A, 0xFF]) =
        "A\n" ++ text [0x81, 0x30, 0x81, 0x0A, 0xFF] := by
  obtain ⟨hWritten, hSigns, hFront⟩ := text_keepsLines
  refine ⟨hWritten _ ⟨['é', '\n'], rfl⟩, hSigns _, ?_⟩
  exact hFront [0x41, 0x0A] _ (by simp)

end Console

end PluginStudio
