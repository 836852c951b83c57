import PluginStudio.Utility.Regex
import PluginStudio.Utility.Texts

/-
  Utilities that search lines and edit them.

  Key definitions include:
    * `PluginStudio.Utility.searchLines`
    * `PluginStudio.Utility.editLines`
-/

------------------------------------------------------------
-- Searching
------------------------------------------------------------

namespace PluginStudio

namespace Utility

open Program

/- A letter in the other case. -/
def otherCase (c : Char) : Char :=
  if c.isUpper then c.toLower else c.toUpper

/- How cases are taken together. -/
def folding (letters : List Char) : Char → Char :=
  if 'i' ∈ letters || 'I' ∈ letters then otherCase else id

/- A text in which nothing has a meaning but itself. -/
def plainPattern (text : String) : Regex :=
  text.toList.foldl
    (fun pattern c => .chain pattern (.set ⟨false, [(c, c)]⟩)) .empty

/- The patterns on the lines of a text. -/
def patterns?
    (letters : List Char)
    (text : String) : Option (List Regex) :=
  (Path.splitOn '\n' text.toList).mapM fun cs =>
    let part := String.ofList cs
    let pattern? :=
      if 'F' ∈ letters then some (plainPattern part)
      else Regex.read? ('E' ∈ letters) part
    pattern?.map fun pattern =>
      if 'x' ∈ letters then .chain .atStart (.chain pattern .atEnd)
      else pattern

/- All matches of a pattern in a line. -/
def allMatches
    (fold : Char → Char)
    (pattern : Regex) : Nat → List Char → List (List Char)
  | 0, _ => []
  | fuel + 1, cs =>
    match pattern.find? fold cs with
    | none => []
    | some found =>
      if found.text.isEmpty then
        []
      else
        found.text :: allMatches fold pattern fuel found.after

/- What a search shows of a file, and the number of lines found. -/
def searchText
    (letters : List Char)
    (patterns : List Regex)
    (label text : String) : String × Nat :=
  let fold := folding letters
  let matching (line : String) : Bool :=
    (patterns.any fun p => (p.find? fold line.toList).isSome) !=
      ('v' ∈ letters)
  let found := ((linesOf text).1.zipIdx 1).filter fun entry =>
    matching entry.1
  let number (n : Nat) : String :=
    if 'n' ∈ letters then toString n ++ ":" else ""
  let shown :=
    if 'q' ∈ letters || 'l' ∈ letters then []
    else if 'c' ∈ letters then [label ++ toString found.length]
    else if 'o' ∈ letters then
      found.flatMap fun entry =>
        patterns.flatMap fun p =>
          (allMatches fold p (entry.1.length + 1) entry.1.toList).map
            fun part => label ++ number entry.2 ++ String.ofList part
    else
      found.map fun entry => label ++ number entry.2 ++ entry.1
  (lines shown, found.length)

/- Show the lines that hold a pattern. -/
def searchLines (args : List String) : Program Nat := do
  let o := given ['e', 'm'] args none {}
  let (pattern?, names) : Option String × List String :=
    match o.values.lookup 'e', o.names with
    | some pattern, names => (some pattern, names)
    | none, pattern :: names => (some pattern, names)
    | none, [] => (none, [])
  match pattern? with
  | none =>
    complain "Usage: grep [OPTION]... PATTERNS [FILE]..."
    complain "Try 'grep --help' for more information."
    return 2
  | some text =>
    match patterns? o.letters text with
    | none =>
      complain "grep: Invalid regular expression"
      return 2
    | some patterns =>
      let mut failed := false
      let mut found := false
      for name in (if names.isEmpty then ["-"] else names) do
        let many := 1 < names.length || 'H' ∈ o.letters
        let label := if many && 'h' ∉ o.letters then name ++ ":" else ""
        match ← content name with
        | .error fault =>
          if 's' ∉ o.letters then
            complain ("grep: " ++ name ++ ": " ++ reason fault)
          failed := true
        | .ok bytes =>
          let (shown, n) :=
            searchText o.letters patterns label (Octets.text bytes)
          if 0 < n then found := true
          put shown
          if 'l' ∈ o.letters && 0 < n then put (name ++ "\n")
      if failed && !('q' ∈ o.letters && found) then return 2
      else return if found then 0 else 1

end Utility

end PluginStudio

------------------------------------------------------------
-- Edits
------------------------------------------------------------

namespace PluginStudio

namespace Utility

/- Lines that an edit is for. -/
inductive Address where
  | line (n : Nat)
  | last
  | matching (pattern : Regex)
deriving Repr

/- Parts of what a match is replaced by. -/
inductive Piece where
  | char (c : Char)
  | group (index : Nat)
deriving Repr

/- What is done to a line. -/
inductive Deed where
  | replace (pattern : Regex) (pieces : List Piece) (flags : List Char)
  | show
  | drop
  | stop
deriving Repr

/- A deed for some lines. -/
structure Edit where
  first? : Option Address
  second? : Option Address
  inverted : Bool
  deed : Deed
deriving Repr

/- A text up to a delimiter that is not behind a backslash. -/
def upTo
    (delimiter : Char) :
    List Char → List Char → Option (List Char × List Char)
  | _, [] => none
  | acc, '\\' :: c :: cs =>
    if c = delimiter then upTo delimiter (c :: acc) cs
    else if c = 'n' then upTo delimiter ('\n' :: acc) cs
    else upTo delimiter (c :: '\\' :: acc) cs
  | acc, c :: cs =>
    if c = delimiter then some (acc.reverse, cs)
    else upTo delimiter (c :: acc) cs

/- The pieces that a replacement is written with. -/
def pieces : List Char → List Piece
  | [] => []
  | '\\' :: c :: cs =>
    (if c.isDigit then .group (c.toNat - 48) else .char c) :: pieces cs
  | '&' :: cs => .group 0 :: pieces cs
  | c :: cs => .char c :: pieces cs

/- The address in front of an edit. -/
def address?
    (extended : Bool)
    (cs : List Char) : Option (Address × List Char) :=
  match cs with
  | '$' :: rest => some (.last, rest)
  | '/' :: rest => do
    let (text, rest) ← upTo '/' [] rest
    let pattern ← Regex.read? extended (String.ofList text)
    return (.matching pattern, rest)
  | _ =>
    let ds := cs.takeWhile Char.isDigit
    if ds.isEmpty then none
    else some (.line (Regex.digitsValue ds), cs.drop ds.length)

/- The deed of an edit. -/
def deed?
    (extended : Bool)
    (cs : List Char) : Option (Deed × List Char) :=
  match cs with
  | 'p' :: rest => some (.show, rest)
  | 'd' :: rest => some (.drop, rest)
  | 'q' :: rest => some (.stop, rest)
  | 's' :: delimiter :: rest => do
    let (text, rest) ← upTo delimiter [] rest
    let (replacement, rest) ← upTo delimiter [] rest
    let flags := rest.takeWhile Char.isAlphanum
    let pattern ← Regex.read? extended (String.ofList text)
    return (.replace pattern (pieces replacement) flags,
      rest.drop flags.length)
  | _ => none

/- Without blanks in front. -/
def skipBlanks (cs : List Char) : List Char :=
  cs.dropWhile fun c => c = ' ' || c = '\t'

/- One edit of a script. -/
def edit?
    (extended : Bool)
    (cs : List Char) : Option (Edit × List Char) := do
  let (first?, cs) : Option Address × List Char :=
    match address? extended cs with
    | some (address, rest) => (some address, rest)
    | none => (none, cs)
  let (second?, cs) : Option Address × List Char :=
    match first?, cs with
    | some _, ',' :: more =>
      match address? extended (skipBlanks more) with
      | some (address, rest) => (some address, rest)
      | none => (none, cs)
    | _, _ => (none, cs)
  let cs := skipBlanks cs
  let inverted := cs.head? = some '!'
  let cs := skipBlanks (if inverted then cs.drop 1 else cs)
  let (deed, rest) ← deed? extended cs
  return (⟨first?, second?, inverted, deed⟩, rest)

/- The edits of a script. -/
def edits? (extended : Bool) :
    Nat → List Char → Option (List Edit)
  | 0, _ => none
  | fuel + 1, cs =>
    match cs.dropWhile fun c => c = ' ' || c = '\t' || c = ';' || c = '\n' with
    | [] => some []
    | rest => do
      let (edit, rest) ← edit? extended rest
      match skipBlanks rest with
      | [] => return [edit]
      | c :: more =>
        if c = ';' || c = '\n' then
          return edit :: (← edits? extended fuel more)
        else
          none

end Utility

end PluginStudio

------------------------------------------------------------
-- Editing
------------------------------------------------------------

namespace PluginStudio

namespace Utility

open Program

/- What stands in the place of a match. -/
def replacement
    (pieces : List Piece)
    (found : Regex.Match) : List Char :=
  pieces.flatMap fun piece =>
    match piece with
    | .char c => [c]
    | .group 0 => found.text
    | .group n => (found.groups.lookup n).getD []

/- Replace the first match, or all. -/
def replaceIn
    (fold : Char → Char)
    (pattern : Regex)
    (pieces : List Piece)
    (every : Bool) :
    Nat → Bool → List Char → Option (List Char)
  | 0, _, _ => none
  | fuel + 1, fresh, cs =>
    match pattern.findFrom fold fresh [] cs with
    | none => none
    | some found =>
      let front := found.before ++ replacement pieces found
      if !every then
        some (front ++ found.after)
      else if found.text.isEmpty then
        match found.after with
        | [] => some front
        | c :: rest =>
          some (front ++ c ::
            (replaceIn fold pattern pieces every fuel false rest).getD rest)
      else
        some (front ++
          (replaceIn fold pattern pieces every fuel false found.after).getD
            found.after)

/- Is an address for a line? -/
def Address.isFor
    (address : Address)
    (n total : Nat)
    (line : List Char) : Bool :=
  match address with
  | .line m => m = n
  | .last => n = total
  | .matching pattern => (pattern.find? id line).isSome

/- Is an edit for a line?  The flag says that its range is open. -/
def Edit.applies
    (edit : Edit)
    (isOpen : Bool)
    (n total : Nat)
    (line : List Char) : Bool × Bool :=
  match edit.first?, edit.second? with
  | none, _ => (true, false)
  | some first, none => (first.isFor n total line, false)
  | some first, some second =>
    if isOpen then
      (true, !second.isFor n total line)
    else if first.isFor n total line then
      let closes :=
        match second with
        | .line m => m ≤ n
        | _ => false
      (true, !closes)
    else
      (false, false)

/- The progress of edits on one line. -/
structure Progress where
  line : List Char
  shown : List String := []
  dropped : Bool := false
  stopped : Bool := false

/- Do what an edit says. -/
def Edit.act
    (edit : Edit)
    (p : Progress) : Progress :=
  match edit.deed with
  | .show => { p with shown := p.shown ++ [String.ofList p.line] }
  | .drop => { p with dropped := true }
  | .stop => { p with stopped := true }
  | .replace pattern pieces flags =>
    match replaceIn (folding flags) pattern pieces ('g' ∈ flags)
        (p.line.length + 1) true p.line with
    | none => p
    | some line =>
      { p with
        line := line
        shown :=
          if 'p' ∈ flags then p.shown ++ [String.ofList line] else p.shown }

/- Apply edits to a line, with the flags of their ranges. -/
def applyEdits
    (n total : Nat) :
    List Edit → List Bool → Progress → Progress × List Bool
  | edit :: edits, isOpen :: more, p =>
    if p.dropped || p.stopped then
      (p, isOpen :: more)
    else
      let (applies, isOpen) := edit.applies isOpen n total p.line
      let p := if applies != edit.inverted then edit.act p else p
      let (p, flags) := applyEdits n total edits more p
      (p, isOpen :: flags)
  | _, flags, p => (p, flags)

/- Edit lines one after another. -/
def editAll
    (quiet : Bool)
    (edits : List Edit)
    (total : Nat) :
    Nat → List Bool → List String → List String
  | _, _, [] => []
  | n, flags, line :: rest =>
    let (p, flags) := applyEdits n total edits flags ⟨line.toList, [], false, false⟩
    let shown :=
      p.shown ++ (if quiet || p.dropped then [] else [String.ofList p.line])
    if p.stopped then shown
    else shown ++ editAll quiet edits total (n + 1) flags rest

/- Edit the lines of files, and show them. -/
def editLines (args : List String) : Program Nat := do
  let o := given ['e'] args none {}
  let scripts := o.values.map fun value => value.2
  let (script, names) : String × List String :=
    match scripts, o.names with
    | [], script :: names => (script, names)
    | _, names => (String.intercalate "\n" scripts, names)
  let extended := 'E' ∈ o.letters || 'r' ∈ o.letters
  match edits? extended (script.length + 1) script.toList with
  | none =>
    complain "sed: -e expression #1, char 0: no previous regular expression"
    return 1
  | some edits =>
    let mut text := ""
    let mut status := 0
    for name in (if names.isEmpty then ["-"] else names) do
      match ← content name with
      | .ok bytes => text := text ++ Octets.text bytes
      | .error fault =>
        complain ("sed: can't read " ++ name ++ ": " ++ reason fault)
        status := 2
    let (all, ended) := linesOf text
    let shown :=
      editAll ('n' ∈ o.letters) edits all.length 1
        (edits.map fun _ => false) all
    put (if ended then lines shown else String.intercalate "\n" shown)
    return status

end Utility

end PluginStudio

------------------------------------------------------------
-- Supplies
------------------------------------------------------------

namespace PluginStudio

namespace Utility

open Program

/- How often an endless text is told before its reader is served. -/
def endlessRounds : Nat := 100000

/- Tell a line over and over. -/
def repeatForever (args : List String) : Program Nat := do
  let line := if args.isEmpty then "y" else String.intercalate " " args
  put (lines (List.replicate endlessRounds line))
  return 0

/- The value of a named operand. -/
def operand?
    (name : String)
    (args : List String) : Option String :=
  args.findSome? fun arg =>
    if (name ++ "=").toList.isPrefixOf arg.toList then
      some (String.ofList (arg.toList.drop (name.length + 1)))
    else
      none

/- Copy blocks of bytes. -/
def copyBlocks (args : List String) : Program Nat := do
  let size := ((operand? "bs" args).bind numeral?).getD 512
  let most := ((operand? "count" args).bind numeral?).map fun n => n * size
  let result ←
    match operand? "if" args, most with
    | some name, some n => fileSome name n
    | some name, none => content name
    | none, some n => readSome 0 n
    | none, none => readFrom 0
  match result with
  | .error fault =>
    complain ("dd: failed to open " ++
      quote ((operand? "if" args).getD "") ++ ": " ++ reason fault)
    return 1
  | .ok bytes =>
    let size := max size 1
    let tally := toString (bytes.length / size) ++ "+" ++
      (if bytes.length % size = 0 then "0" else "1")
    match operand? "of" args with
    | none => put (Octets.text bytes)
    | some name =>
      let _ ← change fun fs dir => fs.write dir name bytes
    if operand? "status" args ≠ some "none" then
      complain (tally ++ " records in")
      complain (tally ++ " records out")
      if operand? "status" args ≠ some "noxfer" then
        complain (toString bytes.length ++ " bytes copied, 0 s, 0 B/s")
    return 0

end Utility

end PluginStudio
