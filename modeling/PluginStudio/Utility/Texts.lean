import PluginStudio.Utility.Files

/-
  Utilities that work on texts.

  Key definitions include:
    * `PluginStudio.Utility.concatenate`
    * `PluginStudio.Utility.head`
    * `PluginStudio.Utility.transliterate`
    * `PluginStudio.Utility.count`
    * `PluginStudio.Utility.sort`
-/

------------------------------------------------------------
-- Inputs
------------------------------------------------------------

namespace PluginStudio

namespace Utility

open Program

/- Work on each named file, or on the input if none is named. -/
def onContents
    (tool : String)
    (names : List String)
    (work : String → String → Program Nat) : Program Nat :=
  each (if names.isEmpty then ["-"] else names) fun name => do
    match ← content name with
    | .ok bytes => work name (Octets.text bytes)
    | .error fault =>
      complain (tool ++ ": " ++ quoteIfNeeded name ++ ": " ++ reason fault)
      return 1

/- The lines of a text.  The flag says that the last has an end. -/
def linesOf (text : String) : List String × Bool :=
  match (Path.splitOn '\n' text.toList).reverse with
  | [] :: rest => ((rest.reverse).map String.ofList, true)
  | all => ((all.reverse).map String.ofList, false)

/- A number that an option gives. -/
def numeral? (text : String) : Option Nat :=
  let cs := text.toList
  let ds := cs.takeWhile Char.isDigit
  let n := ds.foldl (fun n c => n * 10 + (c.toNat - 48)) 0
  if ds.isEmpty then
    none
  else
    match String.ofList (cs.drop ds.length) with
    | "" => some n
    | "k" | "K" => some (n * 1024)
    | "M" => some (n * 1024 * 1024)
    | "b" => some (n * 512)
    | _ => none

/- The last of a list. -/
def takeLast
    {α : Type}
    (n : Nat)
    (items : List α) : List α :=
  items.drop (items.length - n)

/- A character in signs that can be seen. -/
def visible
    (tabs : Bool)
    (c : Char) : String :=
  let n := c.toNat
  if c = '\n' then "\n"
  else if c = '\t' then (if tabs then "^I" else "\t")
  else if 160 ≤ n && n < 255 then "M-" ++ String.singleton (Char.ofNat (n - 128))
  else if n = 255 then "M-^?"
  else if 128 ≤ n then "M-^" ++ String.singleton (Char.ofNat (n - 64))
  else if n < 32 then "^" ++ String.singleton (Char.ofNat (n + 64))
  else if n = 127 then "^?"
  else String.singleton c

/- A line as the options of a utility want it shown. -/
def shownLine
    (letters : List Char)
    (line : String) : String :=
  let isFull := 'A' ∈ letters
  let ends := isFull || 'E' ∈ letters || 'e' ∈ letters
  let signs := isFull || 'v' ∈ letters || 'e' ∈ letters || 't' ∈ letters
  let tabs := isFull || 'T' ∈ letters || 't' ∈ letters
  let text :=
    if signs then String.join (line.toList.map (visible tabs))
    else if tabs then line.replace "\t" "^I"
    else line
  if ends then text ++ "$" else text

/- A number in front of a line. -/
def numberedLine
    (n : Nat)
    (line : String) : String :=
  "".pushn ' ' (6 - (toString n).length) ++ toString n ++ "\t" ++ line

/- Lines with their numbers.  Empty ones may have none. -/
def numbered
    (skipEmpty : Bool) : Nat → List String → List String
  | _, [] => []
  | n, line :: rest =>
    if skipEmpty && line = "" then
      line :: numbered skipEmpty n rest
    else
      numberedLine n line :: numbered skipEmpty (n + 1) rest

/- Show files one after another. -/
def concatenate (args : List String) : Program Nat := do
  let (letters, names) := split args
  onContents "cat" names fun _ text => do
    if letters.isEmpty then
      put text
    else
      let (all, ended) := linesOf text
      let shown := all.map (shownLine letters)
      let shown :=
        if 'n' ∈ letters || 'b' ∈ letters then
          numbered ('b' ∈ letters) 1 shown
        else
          shown
      put (if ended then lines shown else String.intercalate "\n" shown)
    return 0

/- Show files with their lines in the opposite order. -/
def reversedLines (args : List String) : Program Nat := do
  let (_, names) := split args
  onContents "tac" names fun _ text => do
    let (all, ended) := linesOf text
    match ended, all.reverse with
    | false, last :: rest => put (last ++ lines rest)
    | _, shown => put (lines shown)
    return 0

/- Show files with each line read from its end. -/
def backwards (args : List String) : Program Nat := do
  let (_, names) := split args
  onContents "rev" names fun _ text => do
    let (all, ended) := linesOf text
    let shown := all.map fun line => String.ofList line.toList.reverse
    put (if ended then lines shown else String.intercalate "\n" shown)
    return 0

end Utility

end PluginStudio

------------------------------------------------------------
-- Parts Of Files
------------------------------------------------------------

namespace PluginStudio

namespace Utility

open Program

/-
  What is shown of a file: bytes or lines, from where, how many,
  or all but so many.
-/
structure Extract where
  bytes : Bool := false
  count : Nat := 10
  onward : Bool := false
  butLast : Bool := false
  names : List String := []
  wrong? : Option String := none

/- The amount that an argument gives. -/
def amount
    (e : Extract)
    (bytes : Bool)
    (text : String) : Extract :=
  let (sign?, digits) : Option Char × List Char :=
    match text.toList with
    | '+' :: cs => (some '+', cs)
    | '-' :: cs => (some '-', cs)
    | cs => (none, cs)
  match numeral? (String.ofList digits) with
  | some n =>
    { e with
      bytes := bytes
      count := n
      onward := sign? = some '+'
      butLast := sign? = some '-' }
  | none => { e with bytes := bytes, wrong? := some text }

/- What the arguments ask for. -/
def extract : List String → Extract → Extract
  | "-c" :: n :: args, e => extract args (amount e true n)
  | "-n" :: n :: args, e => extract args (amount e false n)
  | arg :: args, e =>
    match arg.toList with
    | '-' :: 'c' :: cs => extract args (amount e true (String.ofList cs))
    | '-' :: 'n' :: cs => extract args (amount e false (String.ofList cs))
    | '-' :: d :: cs =>
      if d.isDigit then
        extract args (amount e false (String.ofList (d :: cs)))
      else
        extract args e
    | _ => extract args { e with names := e.names ++ [arg] }
  | [], e => e

/- The first lines of a text. -/
def firstLines
    (n : Nat)
    (text : String) : String :=
  let (all, ended) := linesOf text
  if n < all.length || ended then
    lines (all.take n)
  else
    String.intercalate "\n" all

/- The last lines of a text. -/
def lastLines
    (n : Nat)
    (text : String) : String :=
  let (all, ended) := linesOf text
  let kept := takeLast n all
  if ended then lines kept else String.intercalate "\n" kept

/- The first part of a text that is asked for. -/
def firstPartOf
    (e : Extract)
    (text : String) : String :=
  if e.bytes then
    if e.butLast then
      String.ofList (text.toList.take (text.length - e.count))
    else
      String.ofList (text.toList.take e.count)
  else if e.butLast then
    firstLines ((linesOf text).1.length - e.count) text
  else
    firstLines e.count text

/- Tell that a file could not be shown. -/
def notShown
    (tool name : String)
    (fault : IoFault) : Program Nat := do
  if fault = .system .isDirectory then
    complain (tool ++ ": error reading " ++ quote name ++ ": " ++
      reason fault)
  else
    complain (tool ++ ": cannot open " ++ quote name ++ " for reading: " ++
      reason fault)
  return 1

/- Work on the part of each file that is asked for. -/
def onParts
    (tool : String)
    (args : List String)
    (fetch : Extract → String → Program (Except IoFault Bytes))
    (part : Extract → String → String) : Program Nat := do
  let e := extract args {}
  match e.wrong? with
  | some text =>
    let what := if e.bytes then "bytes" else "lines"
    complain (tool ++ ": invalid number of " ++ what ++ ": " ++
      quoteEscaped text)
    return 1
  | none =>
    let names := if e.names.isEmpty then ["-"] else e.names
    each names fun name => do
      match ← fetch e name with
      | .error fault => notShown tool name fault
      | .ok bytes =>
        if 1 < names.length then
          put ((if names.head? = some name then "" else "\n") ++
            "==> " ++ name ++ " <==\n")
        put (part e (Octets.text bytes))
        return 0

/- Show the first part of files. -/
def head (args : List String) : Program Nat :=
  onParts "head" args
    (fun e name =>
      if e.bytes && !e.butLast then
        if name = "-" then readSome 0 e.count else fileSome name e.count
      else
        content name)
    firstPartOf

/- The last part of a text that is asked for. -/
def lastPartOf
    (e : Extract)
    (text : String) : String :=
  let cs := text.toList
  if e.bytes then
    String.ofList
      (if e.onward then cs.drop (e.count - 1) else takeLast e.count cs)
  else if e.onward then
    let (all, ended) := linesOf text
    let kept := all.drop (e.count - 1)
    if ended then lines kept else String.intercalate "\n" kept
  else
    lastLines e.count text

/- Show the last part of files. -/
def tail (args : List String) : Program Nat :=
  onParts "tail" args (fun _ name => content name) lastPartOf

end Utility

end PluginStudio

------------------------------------------------------------
-- Transliterating
------------------------------------------------------------

namespace PluginStudio

namespace Utility

open Program

/- The characters between two others. -/
def charRange (a b : Char) : List Char :=
  (List.range (b.toNat + 1 - a.toNat)).map fun i =>
    Char.ofNat (a.toNat + i)

/- One character of a set, which may be escaped. -/
def setChar (cs : List Char) : Option (Char × List Char) :=
  match cs with
  | [] => none
  | '\\' :: c :: more =>
    let ds := ((c :: more).take 3).takeWhile fun d => '0' ≤ d && d ≤ '7'
    if ds.isEmpty then
      let d :=
        match c with
        | 'n' => '\n'
        | 't' => '\t'
        | 'r' => '\r'
        | 'a' => Char.ofNat 7
        | 'b' => Char.ofNat 8
        | 'f' => Char.ofNat 12
        | 'v' => Char.ofNat 11
        | _ => c
      some (d, more)
    else
      some (Char.ofNat
          ((ds.foldl (fun n d => n * 8 + (d.toNat - 48)) 0) % 256),
        (c :: more).drop ds.length)
  | c :: more => some (c, more)

/- Named sets. -/
def namedSet (name : String) : List Char :=
  match name with
  | "alpha" => charRange 'A' 'Z' ++ charRange 'a' 'z'
  | "upper" => charRange 'A' 'Z'
  | "lower" => charRange 'a' 'z'
  | "digit" => charRange '0' '9'
  | "alnum" => charRange '0' '9' ++ charRange 'A' 'Z' ++ charRange 'a' 'z'
  | "space" => charRange '\t' '\r' ++ [' ']
  | "blank" => ['\t', ' ']
  | _ => []

/- The characters of a set. -/
def setChars : Nat → List Char → List Char
  | 0, _ => []
  | fuel + 1, cs =>
    match cs with
    | '[' :: ':' :: more =>
      let name := more.takeWhile Char.isAlpha
      namedSet (String.ofList name) ++
        setChars fuel (more.drop (name.length + 2))
    | _ =>
      match setChar cs with
      | none => []
      | some (c, '-' :: d :: more) =>
        match setChar (d :: more) with
        | some (e, rest) => charRange c e ++ setChars fuel rest
        | none => [c]
      | some (c, rest) => c :: setChars fuel rest

/- The place of an item in a list. -/
def position? (c : Char) : Nat → List Char → Option Nat
  | _, [] => none
  | i, d :: ds => if c = d then some i else position? c (i + 1) ds

/- Text with runs of characters of a set told once. -/
def squeeze
    (set : List Char) : List Char → List Char → List Char
  | [], acc => acc.reverse
  | c :: cs, acc =>
    if acc.head? = some c && c ∈ set then
      squeeze set cs acc
    else
      squeeze set cs (c :: acc)

/- Replace characters of the input. -/
def transliterate (args : List String) : Program Nat := do
  let (letters, sets) := split args
  let all := charRange (Char.ofNat 0) (Char.ofNat 255)
  let chars (text : String) : List Char :=
    setChars (text.length + 1) text.toList
  match sets with
  | [] =>
    missingOperand "tr"
  | first :: others =>
    let taken := chars first
    let taken :=
      if 'c' ∈ letters || 'C' ∈ letters then
        all.filter fun c => c ∉ taken
      else
        taken
    let text ← input
    match others with
    | [] =>
      if 'd' ∈ letters then
        put (String.ofList (text.toList.filter fun c => c ∉ taken))
        return 0
      else if 's' ∈ letters then
        put (String.ofList (squeeze taken text.toList []))
        return 0
      else
        complain ("tr: missing operand after " ++ quoteEscaped first)
        complain "Two strings must be given when translating."
        complain "Try 'tr --help' for more information."
        return 1
    | second :: _ =>
      let given := chars second
      let image (c : Char) : Char :=
        match position? c 0 taken with
        | none => c
        | some i =>
          match given[i]? with
          | some d => d
          | none => given.getLast?.getD c
      let result := text.toList.map image
      put (String.ofList
        (if 's' ∈ letters then squeeze given result [] else result))
      return 0

end Utility

end PluginStudio

------------------------------------------------------------
-- Counting And Sorting
------------------------------------------------------------

namespace PluginStudio

namespace Utility

open Program

/- Number of words of a text. -/
def wordCount (cs : List Char) : Nat :=
  let isSpace (c : Char) : Bool := c = ' ' || ('\t' ≤ c && c ≤ '\r')
  (cs.foldl
    (fun (n, inside) c =>
      if isSpace c then (n, false)
      else if inside then (n, true)
      else (n + 1, true))
    (0, false)).1

/- A number brought to a width. -/
def column
    (width n : Nat) : String :=
  let digits := toString n
  "".pushn ' ' (width - digits.length) ++ digits

/- The counts of a text that letters ask for. -/
def countsOf
    (letters : List Char)
    (text : String) : List Nat :=
  let wants (c : Char) : Bool :=
    if letters.isEmpty then c ≠ 'm' else c ∈ letters
  let cs := text.toList
  (if wants 'l' then [(cs.filter fun c => c = '\n').length] else []) ++
    (if wants 'w' then [wordCount cs] else []) ++
    (if wants 'c' || 'm' ∈ letters then [cs.length] else [])

/- The size of a file, unless it is not a regular one. -/
def regularSize?
    (name : String) : Program (Except IoFault (Option Nat)) := do
  if name = "-" then
    let process ← read
    let machine ← get
    let stream? := (process.ports.lookup 0).bind fun port =>
      machine.streams[port.stream]?
    match stream? with
    | some (.file place _ _) =>
      match machine.files.node? place with
      | some (.file _ bytes) => return .ok (some bytes.length)
      | _ => return .ok none
    | _ => return .ok none
  else
    look fun fs dir =>
      (fs.stat dir true name).map fun (_, node) =>
        match node with
        | .file _ bytes => some bytes.length
        | _ => none

/-
  The width of columns of counts.  It fits the sizes of all
  files, and is larger if a size is not known.
-/
def countWidth
    (single : Bool)
    (sizes : List (Except IoFault (Option Nat))) : Nat :=
  match sizes with
  | [_] => if single then 1 else width
  | .error _ :: _ => 1
  | _ => width
where
  width : Nat :=
    let known := sizes.filterMap Except.toOption
    let total := (known.filterMap id).foldl Nat.add 0
    if known.any Option.isNone then max 7 (toString total).length
    else (toString total).length

/- Sums of counts, place by place. -/
def addCounts
    (first second : List Nat) : List Nat :=
  List.zipWith (fun a b => a + b) first second

/- Count lines, words and bytes. -/
def count (args : List String) : Program Nat := do
  let (letters, names) := split args
  let files := if names.isEmpty then ["-"] else names
  let sizes ← files.mapM regularSize?
  let zeros := countsOf letters ""
  let width := countWidth (zeros.length = 1) sizes
  let line (numbers : List Nat) (name : String) : String :=
    String.intercalate " " (numbers.map (column width)) ++
      (if name = "" then "" else " " ++ name) ++ "\n"
  let mut status := 0
  let mut totals := zeros
  for file in files do
    let name := if names.isEmpty then "" else file
    match ← content file with
    | .ok bytes =>
      let numbers := countsOf letters (Octets.text bytes)
      totals := addCounts totals numbers
      put (line numbers name)
    | .error fault =>
      complain ("wc: " ++ quoteIfNeeded file ++ ": " ++ reason fault)
      status := 1
      if fault = .system .isDirectory then put (line zeros name)
  if 1 < files.length then put (line totals "total")
  return status

/- The number that a line starts with. -/
def leadingNumber (line : String) : Int :=
  let cs := line.toList.dropWhile fun c => c = ' ' || c = '\t'
  let (negative, ds) :=
    match cs with
    | '-' :: more => (true, more)
    | _ => (false, cs)
  let n : Nat := (ds.takeWhile Char.isDigit).foldl
    (fun n c => n * 10 + (c.toNat - 48)) 0
  if negative then -(n : Int) else n

/- Neighbouring equal lines told once, with their number. -/
def grouped : List String → List (Nat × String)
  | [] => []
  | line :: rest =>
    match grouped rest with
    | (n, other) :: groups =>
      if line = other then (n + 1, other) :: groups
      else (1, line) :: (n, other) :: groups
    | [] => [(1, line)]

/- Sort lines. -/
def sort (args : List String) : Program Nat := do
  let (letters, names) := split args
  let mut all : List String := []
  let mut status := 0
  for name in (if names.isEmpty then ["-"] else names) do
    match ← content name with
    | .ok bytes => all := all ++ (linesOf (Octets.text bytes)).1
    | .error fault =>
      complain ("sort: cannot read: " ++ quoteIfNeeded name ++ ": " ++
        reason fault)
      status := 2
  if status ≠ 0 then
    return status
  else
    let ordered :=
      if 'n' ∈ letters then
        all.mergeSort fun a b =>
          leadingNumber a < leadingNumber b ||
            (leadingNumber a = leadingNumber b && a ≤ b)
      else
        all.mergeSort fun a b => a ≤ b
    let ordered := if 'r' ∈ letters then ordered.reverse else ordered
    let ordered :=
      if 'u' ∈ letters then (grouped ordered).map fun g => g.2
      else ordered
    put (lines ordered)
    return 0

/- Tell neighbouring equal lines once. -/
def unique (args : List String) : Program Nat := do
  let (letters, names) := split args
  onContents "uniq" names fun _ text => do
    let groups := grouped (linesOf text).1
    let groups :=
      if 'd' ∈ letters then groups.filter fun g => 1 < g.1
      else if 'u' ∈ letters then groups.filter fun g => g.1 = 1
      else groups
    put (lines (groups.map fun g =>
      if 'c' ∈ letters then column 7 g.1 ++ " " ++ g.2 else g.2))
    return 0

end Utility

end PluginStudio

------------------------------------------------------------
-- Names, Numbers And Copies
------------------------------------------------------------

namespace PluginStudio

namespace Utility

open Program

/- A name without slashes at its end. -/
def withoutSlashes (cs : List Char) : List Char :=
  (cs.reverse.dropWhile fun c => c = '/').reverse

/- The last part of a name. -/
def lastPart (name : String) : String :=
  let cs := withoutSlashes name.toList
  if cs.isEmpty then
    if name = "" then "" else "/"
  else
    String.ofList (cs.reverse.takeWhile fun c => c ≠ '/').reverse

/- All but the last part of a name. -/
def firstPart (name : String) : String :=
  let cs := withoutSlashes name.toList
  let dir := withoutSlashes (cs.reverse.dropWhile fun c => c ≠ '/').reverse
  if dir.isEmpty then
    if name.toList.head? = some '/' then "/" else "."
  else
    String.ofList dir

/- Show the last part of a name, without an ending. -/
def baseName (args : List String) : Program Nat := do
  match args with
  | [] => missingOperand "basename"
  | name :: endings =>
    let base := lastPart name
    let ending := endings.head?.getD ""
    let cut :=
      if ending ≠ "" && ending ≠ base && base.endsWith ending then
        String.ofList (base.toList.take (base.length - ending.length))
      else
        base
    put (cut ++ "\n")
    return 0

/- Show all but the last part of names. -/
def dirName (args : List String) : Program Nat := do
  if args.isEmpty then
    missingOperand "dirname"
  else
    put (lines (args.map firstPart))
    return 0

/- Numbers from one to another in steps. -/
def numberRow (first step last : Int) : List Int :=
  if step = 0 || (last - first) * step < 0 then
    []
  else
    (List.range (((last - first).tdiv step).toNat + 1)).map fun (i : Nat) =>
      first + step * (i : Int)

/- Is the argument an option, and not a number below zero? -/
def isSequenceOption (arg : String) : Bool :=
  match arg.toList with
  | '-' :: c :: _ => !c.isDigit
  | _ => false

/- The separator that options give, and the other arguments. -/
def sequenceOptions :
    List String → String → String × List String
  | "-s" :: separator :: args, _ => sequenceOptions args separator
  | arg :: args, separator =>
    match arg.toList with
    | '-' :: 's' :: cs => sequenceOptions args (String.ofList cs)
    | _ =>
      let (separator, more) := sequenceOptions args separator
      (separator, if isSequenceOption arg then more else arg :: more)
  | [], separator => (separator, [])

/- Show numbers in a row. -/
def sequence (args : List String) : Program Nat := do
  let (separator, operands) := sequenceOptions args "\n"
  let row : List Int :=
    match operands.filterMap fun arg => arg.toInt? with
    | [last] => numberRow 1 1 last
    | [first, last] => numberRow first 1 last
    | [first, step, last] => numberRow first step last
    | _ => []
  if operands.isEmpty then
    missingOperand "seq"
  else
    match operands.find? fun arg => arg.toInt?.isNone with
    | some arg =>
      complain ("seq: invalid floating point argument: " ++
        quoteEscaped arg)
      complain "Try 'seq --help' for more information."
      return 1
    | none =>
      if !row.isEmpty then
        put (String.intercalate separator (row.map toString) ++ "\n")
      return 0

/- Copy the input to files, too. -/
def tee (args : List String) : Program Nat := do
  let (letters, names) := split args
  let text ← input
  let closed ← each names fun name => do
    match descriptor? name with
    | some _ => return 0
    | none =>
      let result ← change fun fs dir => do
        let (_, files) ← fs.openToWrite dir
          (fun old => if 'a' ∈ letters then old else []) name
        return files
      match result with
      | .ok () => return 0
      | .error fault =>
        complain ("tee: " ++ quoteIfNeeded name ++ ": " ++ reason fault)
        return 1
  put text
  let failed ← each names fun name => do
    match descriptor? name with
    | some descriptor =>
      let _ ← emit descriptor text
      return 0
    | none =>
      let bytes := Octets.bytes text
      let result ← change fun fs dir => do
        let (place, files) ← fs.openToWrite dir
          (fun old => old ++ bytes) name
        files.withRoom place bytes
      match result with
      | .error (.system .noSpace) =>
        complain ("tee: " ++ quoteIfNeeded name ++ ": " ++
          reason (.system .noSpace))
        return 1
      | _ => return 0
  return max closed failed

/- The parts of lines that a list of fields names. -/
def fieldRanges (text : String) : List (Nat × Nat) :=
  (Path.splitOn ',' text.toList).map fun part =>
    let first := part.takeWhile Char.isDigit
    let n := (numeral? (String.ofList first)).getD 1
    match part.drop first.length with
    | [] => (n, n)
    | _ :: [] => (n, 1000000)
    | _ :: last => (n, (numeral? (String.ofList last)).getD 1000000)

/- Options of a utility that cuts lines. -/
structure Cutting where
  delimiter : Char := '\t'
  ranges : List (Nat × Nat) := []
  fields : Bool := false
  names : List String := []

/- What the arguments ask to be cut. -/
def cutting : List String → Cutting → Cutting
  | "-d" :: d :: args, c =>
    cutting args { c with delimiter := (d.toList.head?).getD '\t' }
  | "-f" :: r :: args, c =>
    cutting args { c with ranges := fieldRanges r, fields := true }
  | "-c" :: r :: args, c => cutting args { c with ranges := fieldRanges r }
  | "-b" :: r :: args, c => cutting args { c with ranges := fieldRanges r }
  | arg :: args, c =>
    match arg.toList with
    | '-' :: 'd' :: d :: _ => cutting args { c with delimiter := d }
    | '-' :: 'f' :: cs =>
      cutting args
        { c with ranges := fieldRanges (String.ofList cs), fields := true }
    | '-' :: 'c' :: cs =>
      cutting args { c with ranges := fieldRanges (String.ofList cs) }
    | _ => cutting args { c with names := c.names ++ [arg] }
  | [], c => c

/- The items whose numbers lie in some range. -/
def chosen
    {α : Type}
    (ranges : List (Nat × Nat))
    (items : List α) : List α :=
  (items.zipIdx 1).filterMap fun (item, i) =>
    if ranges.any fun range => range.1 ≤ i && i ≤ range.2 then
      some item
    else
      none

/- Show parts of lines. -/
def cut (args : List String) : Program Nat := do
  let c := cutting args {}
  onContents "cut" c.names fun _ text => do
    put (lines ((linesOf text).1.map fun line =>
      if c.fields then
        let parts := Path.splitOn c.delimiter line.toList
        if parts.length ≤ 1 then line
        else
          String.intercalate c.delimiter.toString
            ((chosen c.ranges parts).map String.ofList)
      else
        String.ofList (chosen c.ranges line.toList)))
    return 0

end Utility

end PluginStudio
