import PluginStudio.Text.Alphanumeric
import PluginStudio.Text.Blank

/-
  Values that a directive can ask a field for.

  Key definitions include:
    * `PluginStudio.Report.ValuePattern.Flags`
    * `PluginStudio.Report.ValuePattern.Atom`
    * `PluginStudio.Report.ValuePattern.readClass?`
    * `PluginStudio.Report.ValuePattern.Draft`
    * `PluginStudio.Report.ValuePattern.isPattern`
    * `PluginStudio.Report.ValuePattern.isValue`

  A value is a number or a regular expression.  Expressions are
  only checked here.  They are made of characters, classes,
  groups, alternatives and repetitions, and flags in a group
  hold up to its end.  No tables of scripts are at hand, so that
  letters cannot be matched whatever their case, nor words or
  digits of all scripts, unless a flag limits an expression to
  ASCII.  Braces and commas end a field, so that a repetition
  has no counts.
-/

------------------------------------------------------------
-- Flags
------------------------------------------------------------

namespace PluginStudio

namespace Report

namespace ValuePattern

/-
  What holds at a place: case does not count, characters are not
  limited to ASCII, white space and comments are passed over.
-/
structure Flags where
  foldsCase : Bool
  unicode : Bool
  spaced : Bool
deriving DecidableEq, Repr

namespace Flags

/- The flags at the start of an expression. -/
def initial : Flags where
  foldsCase := false
  unicode := true
  spaced := false

/- The letters of flags.  Some have no effect on what is legal. -/
def letters : List Char :=
  ['i', 'm', 's', 'U', 'u', 'R', 'x']

/- A flag after a change, where those behind a dash are unset. -/
def changed
    (items : List Char)
    (letter : Char)
    (old : Bool) : Bool :=
  if items.contains letter then
    (items.takeWhile fun c => c ≠ '-').contains letter
  else
    old

/- The flags after a change. -/
def change
    (flags : Flags)
    (items : List Char) : Flags where
  foldsCase := changed items 'i' flags.foldsCase
  unicode := changed items 'u' flags.unicode
  spaced := changed items 'x' flags.spaced

/- Would all forms of a letter have to be known? -/
def needsForms (flags : Flags) : Bool :=
  flags.foldsCase && flags.unicode

end Flags

/-
  The flags up to the colon or bracket that ends them, whether
  it was a colon, and what follows.  No flag is given twice.
-/
def readFlags?
    (seen : List Char) :
    List Char → Option (List Char × Bool × List Char)
  | [] => none
  | c :: cs =>
    if c = ':' || c = ')' then
      if seen.head? = some '-' then none
      else some (seen.reverse, c = ':', cs)
    else if seen.contains c then
      none
    else if c = '-' || Flags.letters.contains c then
      readFlags? (c :: seen) cs
    else
      none

/- Without white space and comments at the front. -/
def withoutBlanks
    (inComment : Bool) :
    List Char → List Char
  | [] => []
  | c :: cs =>
    if inComment then withoutBlanks (c ≠ '\n') cs
    else if Blank.contains c then withoutBlanks false cs
    else if c = '#' then withoutBlanks true cs
    else c :: cs

/- What is read next. -/
def Flags.next
    (flags : Flags)
    (cs : List Char) : List Char :=
  if flags.spaced then withoutBlanks false cs else cs

end ValuePattern

end Report

end PluginStudio

------------------------------------------------------------
-- Atoms
------------------------------------------------------------

namespace PluginStudio

namespace Report

namespace ValuePattern

/-
  What matches by itself: a character, which may be written as
  a byte, a class that has a letter, or the edge of a text or of
  a word.
-/
inductive Atom where
  | char (c : Char) (asByte : Bool)
  | named (negated : Bool)
  | edge (ofWord : Bool)
deriving DecidableEq, Repr

/- The number that a digit of base sixteen stands for. -/
def hexValue? (c : Char) : Option Nat :=
  if '0' ≤ c && c ≤ '9' then some (c.toNat - 48)
  else if 'a' ≤ c && c ≤ 'f' then some (c.toNat - 87)
  else if 'A' ≤ c && c ≤ 'F' then some (c.toNat - 55)
  else none

/- A number of digits, and what follows. -/
def readHex?
    (flags : Flags) :
    Nat → Nat → List Char → Option (Nat × List Char)
  | 0, value, cs => some (value, cs)
  | _ + 1, _, [] => none
  | more + 1, value, c :: cs => do
    let digit ← hexValue? c
    readHex? flags more (value * 16 + digit) (flags.next cs)

/- A character by its number. -/
def readCode?
    (flags : Flags)
    (digits : Nat)
    (cs : List Char) : Option (Atom × List Char) := do
  let (value, rest) ← readHex? flags digits 0 (flags.next cs)
  if value.isValidChar then
    some (.char (Char.ofNat value) (digits = 2), rest)
  else
    none

/- May a backslash stand in front of the character itself? -/
def isEscapable (c : Char) : Bool :=
  c.toNat < 0x80 && !c.isAlphanum && c ≠ '<' && c ≠ '>'

/- Letters that stand for a character behind a backslash. -/
def controls : List (Char × Char) :=
  [
    ('a', '\x07'),
    ('f', '\x0c'),
    ('t', '\t'),
    ('n', '\n'),
    ('r', '\r'),
    ('v', '\x0b')
  ]

/- What a backslash and the characters after it mean. -/
def readEscape?
    (flags : Flags) :
    List Char → Option (Atom × List Char)
  | [] => none
  | c :: cs =>
    if isEscapable c then
      some (.char c false, cs)
    else if c = 'x' then
      readCode? flags 2 cs
    else if c = 'u' then
      readCode? flags 4 cs
    else if c = 'U' then
      readCode? flags 8 cs
    else if ['d', 's', 'w'].contains c then
      some (.named false, cs)
    else if ['D', 'S', 'W'].contains c then
      some (.named true, cs)
    else if ['A', 'z'].contains c then
      some (.edge false, cs)
    else if ['b', 'B', '<', '>'].contains c then
      some (.edge true, cs)
    else
      (controls.lookup c).map fun d => (.char d false, cs)

namespace Atom

/- Can the atom stand outside of a class? -/
def isLegal
    (flags : Flags) :
    Atom → Bool
  | char c asByte =>
    !flags.needsForms && (flags.unicode || !asByte || c.toNat < 0x80)
  | named negated => !flags.unicode && !negated
  | edge ofWord => !ofWord || !flags.unicode

/- The character that can stand in a class. -/
def member?
    (flags : Flags) :
    Atom → Option Char
  | char c _ =>
    if flags.needsForms then none
    else if flags.unicode || c.toNat < 0x80 then some c
    else none
  | _ => none

/- Can the atom stand in a class by itself? -/
def isMember
    (flags : Flags)
    (atom : Atom) : Bool :=
  match atom with
  | char _ _ => (atom.member? flags).isSome
  | named negated => !flags.unicode && !negated
  | edge _ => false

end Atom

end ValuePattern

end Report

end PluginStudio

------------------------------------------------------------
-- Classes
------------------------------------------------------------

namespace PluginStudio

namespace Report

namespace ValuePattern

/- How deep parts side by side are, where one alone adds nothing. -/
def sideBySide : List Nat → Nat
  | [] => 0
  | [depth] => depth
  | depths => depths.foldl max 0 + 1

/-
  A class while it is read: how deep its members are, whether
  only dashes were read, how deep what stands in front of an
  operator is, and the classes that it is in.
-/
structure ClassDraft where
  members : List Nat
  atFront : Bool
  left? : Option Nat
  outer : List (List Nat × Option Nat)
deriving Repr

namespace ClassDraft

/- Right after the bracket that starts an outermost class. -/
def start : ClassDraft where
  members := []
  atFront := true
  left? := none
  outer := []

/- With a member that holds no others. -/
def add (draft : ClassDraft) : ClassDraft :=
  { draft with members := 0 :: draft.members, atFront := false }

/- With a dash at the front. -/
def addDash (draft : ClassDraft) : ClassDraft :=
  { draft with members := 0 :: draft.members }

/- How deep all that was read is. -/
def depth (draft : ClassDraft) : Nat :=
  match draft.left? with
  | none => sideBySide draft.members
  | some left => max left (sideBySide draft.members) + 1

/- After an operator. -/
def operate (draft : ClassDraft) : ClassDraft :=
  { draft with
    members := []
    atFront := false
    left? := some draft.depth }

/- Inside a new class. -/
def enter (draft : ClassDraft) : ClassDraft where
  members := []
  atFront := true
  left? := none
  outer := (draft.members, draft.left?) :: draft.outer

/- After the end of a class, or how deep the outermost one was. -/
def leave (draft : ClassDraft) : ClassDraft ⊕ Nat :=
  match draft.outer with
  | [] => .inr (draft.depth + 1)
  | (members, left?) :: outer =>
    .inl
      { members := (draft.depth + 1) :: members
        atFront := false
        left? := left?
        outer := outer }

end ClassDraft

/- Classes of ASCII characters that have a name. -/
def asciiClasses : List String :=
  ["alnum", "alpha", "ascii", "blank", "cntrl", "digit", "graph",
    "lower", "print", "punct", "space", "upper", "word", "xdigit"]

/- The name between colons, whether it is negated, and what follows. -/
def readAsciiClass? : List Char → Option (Bool × List Char)
  | ':' :: cs =>
    let negated := cs.head? = some '^'
    let cs := if negated then cs.drop 1 else cs
    let name := cs.takeWhile fun c => c ≠ ':'
    match cs.drop name.length with
    | ':' :: ']' :: rest =>
      if asciiClasses.contains (String.ofList name) then
        some (negated, rest)
      else
        none
    | _ => none
  | _ => none

/- A character of a class, and what follows. -/
def readMember?
    (flags : Flags) :
    List Char → Option (Atom × List Char)
  | [] => none
  | '\\' :: cs => readEscape? flags cs
  | c :: cs => some (.char c false, cs)

/- What follows a dash, where a comment is not passed over. -/
def peek
    (flags : Flags)
    (cs : List Char) : Option Char :=
  if flags.spaced then
    match cs.dropWhile Blank.contains with
    | '#' :: rest => (rest.dropWhile Blank.contains).head?
    | rest => rest.head?
  else
    cs.head?

/- A member or a range of members.  The rest follows it. -/
def readRange?
    (flags : Flags)
    (cs : List Char) : Option (List Char) := do
  let (first, rest) ← readMember? flags cs
  match flags.next rest with
  | [] => none
  | '-' :: more =>
    let after? := peek flags more
    if after? = some ']' || after? = some '-' then
      if first.isMember flags then some ('-' :: more) else none
    else
      let (last, rest) ← readMember? flags (flags.next more)
      let a ← first.member? flags
      let b ← last.member? flags
      if a ≤ b then some rest else none
  | rest => if first.isMember flags then some rest else none

/- What follows the start of a class, which may be negated. -/
def afterOpening?
    (flags : Flags)
    (cs : List Char) : Option (List Char) :=
  match flags.next cs with
  | '^' :: rest => if flags.unicode then some rest else none
  | rest => some rest

/-
  Read a class from behind its first bracket.  How deep is it?
  Every step reads at least one character.
-/
def readClass?
    (flags : Flags) :
    Nat → ClassDraft → List Char → Option (Nat × List Char)
  | 0, _, _ => none
  | fuel + 1, draft, cs =>
    match flags.next cs with
    | [] => none
    | c :: rest =>
      if draft.atFront && c = '-' then
        if flags.needsForms then none
        else readClass? flags fuel draft.addDash rest
      else if draft.atFront && draft.members.isEmpty && c = ']' then
        if flags.needsForms then none
        else readClass? flags fuel draft.add rest
      else if c = ']' then
        match draft.leave with
        | .inl draft => readClass? flags fuel draft rest
        | .inr depth => some (depth, rest)
      else if c = '[' then
        match readAsciiClass? rest with
        | some (negated, rest) =>
          if flags.needsForms || (negated && !flags.unicode) then none
          else readClass? flags fuel draft.add rest
        | none => do
          let rest ← afterOpening? flags rest
          readClass? flags fuel draft.enter rest
      else if ['&', '-', '~'].contains c && rest.head? = some c then
        readClass? flags fuel draft.operate (rest.drop 1)
      else do
        let rest ← readRange? flags (c :: rest)
        readClass? flags fuel draft.add rest

end ValuePattern

end Report

end PluginStudio

------------------------------------------------------------
-- Expressions
------------------------------------------------------------

namespace PluginStudio

namespace Report

namespace ValuePattern

/- How deep parts may be nested. -/
def deepest : Nat := 250

/- A part of an alternative. -/
structure Part where
  depth : Nat
  repeatable : Bool
deriving DecidableEq, Repr

/- What was read before a group: flags, parts, and alternatives. -/
structure Frame where
  flags : Flags
  parts : List Part
  alternatives : List Nat
deriving DecidableEq, Repr

/-
  An expression while it is read: the flags that hold, the parts
  of the alternative that is being read, how deep those before
  it were, the groups around it, and the names of groups.
-/
structure Draft where
  flags : Flags
  parts : List Part
  alternatives : List Nat
  outer : List Frame
  names : List (List Char)
deriving DecidableEq, Repr

namespace Draft

/- Before the first character. -/
def start : Draft where
  flags := .initial
  parts := []
  alternatives := []
  outer := []
  names := []

/- With another part. -/
def add
    (draft : Draft)
    (depth : Nat)
    (repeatable : Bool) : Draft :=
  { draft with parts := ⟨depth, repeatable⟩ :: draft.parts }

/- How deep the alternative that is being read is. -/
def partsDepth (draft : Draft) : Nat :=
  sideBySide (draft.parts.map fun part => part.depth)

/- How deep all that was read in the group is. -/
def depth (draft : Draft) : Nat :=
  sideBySide (draft.partsDepth :: draft.alternatives)

/- At the start of another alternative. -/
def branch (draft : Draft) : Draft :=
  { draft with
    parts := []
    alternatives := draft.partsDepth :: draft.alternatives }

/- With the last part repeated, if there is one. -/
def repeat? (draft : Draft) : Option Draft :=
  match draft.parts with
  | part :: parts =>
    if part.repeatable then
      some { draft with parts := ⟨part.depth + 1, true⟩ :: parts }
    else
      none
  | [] => none

/- Inside a new group, with flags of its own. -/
def enter
    (draft : Draft)
    (items : List Char) : Draft :=
  { draft with
    flags := draft.flags.change items
    parts := []
    alternatives := []
    outer := ⟨draft.flags, draft.parts, draft.alternatives⟩ :: draft.outer }

/- After the end of a group, if there is one. -/
def leave? (draft : Draft) : Option Draft :=
  match draft.outer with
  | [] => none
  | frame :: outer =>
    some
      { draft with
        flags := frame.flags
        parts := ⟨draft.depth + 1, true⟩ :: frame.parts
        alternatives := frame.alternatives
        outer := outer }

/- With a name for a group, which is a new one. -/
def named?
    (draft : Draft)
    (name : List Char) : Option Draft :=
  if draft.names.contains name then none
  else some { draft with names := name :: draft.names }

end Draft

/- Can the character be part of a name? -/
def isNameChar (c : Char) : Bool :=
  ['_', '.', '[', ']'].contains c || Alphanumeric.contains c

/- A name before an angle bracket, and what follows that. -/
def readName? (cs : List Char) : Option (List Char × List Char) :=
  let name := cs.takeWhile isNameChar
  match name, cs.drop name.length with
  | first :: _, '>' :: rest =>
    if first = '_' || Alphanumeric.isLetter first then
      some (name, rest)
    else
      none
  | _, _ => none

/- What follows a group's bracket that looks around. -/
def lookings : List String :=
  ["?=", "?!", "?<=", "?<!"]

/- The text behind one of the beginnings that it can have. -/
def behind?
    (beginnings : List String)
    (cs : List Char) : Option (List Char) :=
  beginnings.findSome? fun beginning =>
    if beginning.toList.isPrefixOf cs then
      some (cs.drop beginning.length)
    else
      none

/- Read the start of a group, or flags, from behind the bracket. -/
def openGroup?
    (draft : Draft)
    (cs : List Char) : Option (Draft × List Char) :=
  let cs := draft.flags.next cs
  if (behind? lookings cs).isSome then
    none
  else
    match behind? ["?P<", "?<"] cs with
    | some rest => do
      let (name, rest) ← readName? rest
      let draft ← draft.named? name
      some (draft.enter [], rest)
    | none =>
      match cs with
      | '?' :: rest => do
        let (items, isGroup, rest) ← readFlags? [] rest
        if isGroup then
          some (draft.enter items, rest)
        else if items.isEmpty then
          none
        else
          some
            (Draft.add { draft with flags := draft.flags.change items }
              0 false, rest)
      | _ => some (draft.enter [], cs)

/- Add an atom that can stand here. -/
def addAtom?
    (draft : Draft)
    (atom : Atom)
    (rest : List Char) : Option (Draft × List Char) :=
  if atom.isLegal draft.flags then some (draft.add 0 true, rest) else none

/- Read from a character on. -/
def step?
    (draft : Draft)
    (c : Char)
    (cs : List Char) : Option (Draft × List Char) :=
  match c with
  | '(' => openGroup? draft cs
  | ')' => draft.leave?.map fun draft => (draft, cs)
  | '|' => some (draft.branch, cs)
  | '[' => do
    let rest ← afterOpening? draft.flags cs
    let (depth, rest) ←
      readClass? draft.flags (rest.length + 1) .start rest
    some (draft.add depth true, rest)
  | '?' | '*' | '+' => do
    let draft ← draft.repeat?
    some (draft, if cs.head? = some '?' then cs.drop 1 else cs)
  | '\x7b' => none
  | '\\' => do
    let (atom, rest) ← readEscape? draft.flags cs
    addAtom? draft atom rest
  | '.' => if draft.flags.unicode then some (draft.add 0 true, cs) else none
  | '^' | '$' => some (draft.add 0 true, cs)
  | c => addAtom? draft (.char c false) cs

/- Read to the end.  Every step reads at least one character. -/
def read? : Nat → Draft → List Char → Option Draft
  | 0, _, _ => none
  | fuel + 1, draft, cs =>
    match draft.flags.next cs with
    | [] => some draft
    | c :: rest => do
      let (draft, rest) ← step? draft c rest
      read? fuel draft rest

/- Is the text a regular expression? -/
def isPattern (text : String) : Bool :=
  match read? (text.length + 1) .start text.toList with
  | some draft => draft.outer.isEmpty && draft.depth ≤ deepest
  | none => false

end ValuePattern

end Report

end PluginStudio

------------------------------------------------------------
-- Numbers
------------------------------------------------------------

namespace PluginStudio

namespace Report

namespace ValuePattern

/- A text without the sign in front of it. -/
def unsigned : List Char → List Char
  | '+' :: cs => cs
  | '-' :: cs => cs
  | cs => cs

/- Is the text digits, of which there may be none? -/
def isDigits (cs : List Char) : Bool :=
  cs.all Char.isDigit

/- Is the text nothing, or an exponent? -/
def isExponent : List Char → Bool
  | [] => true
  | c :: cs =>
    let digits := unsigned cs
    (c = 'e' || c = 'E') && !digits.isEmpty && isDigits digits

/- Is the text a decimal numeral without a sign? -/
def isDecimal (cs : List Char) : Bool :=
  let whole := cs.takeWhile Char.isDigit
  let rest := cs.drop whole.length
  let part :=
    if rest.head? = some '.' then
      (rest.drop 1).takeWhile Char.isDigit
    else
      []
  let after :=
    if rest.head? = some '.' then rest.drop (part.length + 1) else rest
  !(whole ++ part).isEmpty && isExponent after

/- Names of numbers that have no digits, in lower case. -/
def numberNames : List String :=
  ["inf", "infinity", "nan"]

/- Is the text a number? -/
def isNumber (text : String) : Bool :=
  let cs := unsigned text.toList
  isDecimal cs ||
    numberNames.contains (String.ofList (cs.map Char.toLower))

/- Can a field be asked for the value? -/
def isValue (text : String) : Bool :=
  isNumber text || isPattern text

end ValuePattern

end Report

end PluginStudio
