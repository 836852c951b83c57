import PluginStudio.Shell.Script

/-
  Reading the words of a script.

  Key definitions include:
    * `PluginStudio.Shell.SyntaxFault`
    * `PluginStudio.Shell.Source`
    * `PluginStudio.Shell.Reader`
    * `PluginStudio.Shell.readWord`

  How the commands of a substitution are read is a parameter
  here, since commands hold words and words hold commands.
-/

------------------------------------------------------------
-- Sources
------------------------------------------------------------

namespace PluginStudio

namespace Shell

/- What is wrong with a script, and on which line. -/
structure SyntaxFault where
  line : Nat
  message : String
deriving DecidableEq, Repr

/-
  What is left of a script.  `skipped` counts lines that were
  taken out behind the current one.
-/
structure Source where
  rest : List Char
  line : Nat
  skipped : Nat
deriving Repr

/- Steps of reading. -/
abbrev Reader :=
  StateT Source (Except SyntaxFault)

namespace Reader

/- Give up. -/
def refuse
    {α : Type}
    (message : String) : Reader α := do
  throw ⟨(← get).line, message⟩

/- What is left. -/
def rest : Reader (List Char) := do
  return (← get).rest

/- The current line. -/
def line : Reader Nat := do
  return (← get).line

/- The next character, which is taken. -/
def next? : Reader (Option Char) := do
  let source ← get
  match source.rest with
  | [] => return none
  | c :: cs =>
    if c = '\n' then
      set { source with
        rest := cs
        line := source.line + 1 + source.skipped
        skipped := 0 }
    else
      set { source with rest := cs }
    return some c

/- Pass over so many characters. -/
def skip : Nat → Reader Unit
  | 0 => return
  | n + 1 => do
    let _ ← next?
    skip n

end Reader

end Shell

end PluginStudio

------------------------------------------------------------
-- Characters
------------------------------------------------------------

namespace PluginStudio

namespace Shell

/- The sign around commands whose output is taken. -/
def backquote : Char := Char.ofNat 96

/- Can a name start with the character? -/
def startsName (c : Char) : Bool :=
  c.isAlpha || c = '_'

/- Can a name go on with the character? -/
def inName (c : Char) : Bool :=
  c.isAlphanum || c = '_'

/- Is the character a blank? -/
def isBlank (c : Char) : Bool :=
  c = ' ' || c = '\t'

/- Does the character end a bare word? -/
def endsWord (c : Char) : Bool :=
  isBlank c || c = '\n' || c = '&' || c = '|' || c = ';' ||
    c = '<' || c = '>' || c = '(' || c = ')'

/- Is the text a name? -/
def isName (name : String) : Bool :=
  match name.toList with
  | [] => false
  | c :: cs => startsName c && cs.all inName

/- Parameters whose name is a single sign. -/
def isSign (c : Char) : Bool :=
  c = '@' || c = '*' || c = '#' || c = '?' || c = '-' || c = '$' ||
    c = '!'

/- Parts with neighbouring parts of one kind joined. -/
def joinPieces : List Piece → List Piece
  | .bare a :: .bare b :: pieces => joinPieces (.bare (a ++ b) :: pieces)
  | piece :: pieces => piece :: joinPieces pieces
  | [] => []
termination_by pieces => pieces.length

end Shell

end PluginStudio

------------------------------------------------------------
-- Quotes And Expansions
------------------------------------------------------------

namespace PluginStudio

namespace Shell

/- Where in a script a word stands. -/
inductive Context where
  | plain
  | quotes
  | braces (quoted : Bool)
  | sum (depth : Nat)
  | document
deriving DecidableEq, Repr

namespace Context

/- Are expansions in this place quoted? -/
def isQuoted : Context → Bool
  | plain => false
  | braces quoted => quoted
  | _ => true

/- Does a double quote start a quoted part here? -/
def opensQuotes : Context → Bool
  | plain => true
  | braces _ => true
  | _ => false

/- Does the character end a word in this place? -/
def endsAt : Context → Char → Bool
  | plain, c => endsWord c
  | quotes, c => c = '"'
  | braces _, c => c = '}'
  | _, _ => false

/- Characters that a backslash takes the meaning from. -/
def escapable : Context → Char → Bool
  | plain, _ => true
  | braces false, _ => true
  | quotes, c => c = '$' || c = backquote || c = '"' || c = '\\'
  | braces true, c =>
    c = '$' || c = backquote || c = '"' || c = '\\' || c = '}'
  | sum _, c => c = '$' || c = backquote || c = '\\'
  | document, c => c = '$' || c = backquote || c = '\\'

end Context

/- Text up to the next single quote, which is passed over. -/
def readSingle : Nat → List Char → Reader String
  | 0, _ => Reader.refuse "Unterminated quoted string"
  | fuel + 1, acc => do
    match ← Reader.next? with
    | none => Reader.refuse "Unterminated quoted string"
    | some '\'' => return String.ofList acc.reverse
    | some c => readSingle fuel (c :: acc)

/- Text between back quotes, where backslashes protect a few. -/
def readBackquoted (quoted : Bool) : Nat → List Char → Reader String
  | 0, _ => Reader.refuse "EOF in backquote substitution"
  | fuel + 1, acc => do
    match ← Reader.next? with
    | none => Reader.refuse "EOF in backquote substitution"
    | some '\\' =>
      match ← Reader.next? with
      | none => Reader.refuse "EOF in backquote substitution"
      | some '\n' => readBackquoted quoted fuel acc
      | some c =>
        if c = '\\' || c = backquote || c = '$' || (quoted && c = '"') then
          readBackquoted quoted fuel (c :: acc)
        else
          readBackquoted quoted fuel (c :: '\\' :: acc)
    | some c =>
      if c = backquote then
        return String.ofList acc.reverse
      else
        readBackquoted quoted fuel (c :: acc)

/- The name of a parameter in braces. -/
def readBraceName : Reader String := do
  let cs ← Reader.rest
  match cs with
  | [] => return ""
  | c :: _ =>
    if startsName c then
      let name := cs.takeWhile inName
      Reader.skip name.length
      return String.ofList name
    else if c.isDigit then
      let digits := cs.takeWhile Char.isDigit
      Reader.skip digits.length
      return String.ofList digits
    else if isSign c then
      Reader.skip 1
      return c.toString
    else
      return ""

/- A word and the use that it is for, told by a sign. -/
def useOf?
    (strict : Bool)
    (sign : Char)
    (word : Word) : Option Use :=
  match sign with
  | '-' => some (.orElse strict word)
  | '=' => some (.orAssign strict word)
  | '?' => some (.orFail strict word)
  | '+' => some (.ifGiven strict word)
  | _ => none

/- Is the sign one of those that take a word? -/
def takesWord (sign : Char) : Bool :=
  sign = '-' || sign = '=' || sign = '?' || sign = '+'

mutual

/-
  The parts of a word up to its end, which depends on where it
  stands.  `commands` reads up to the end of a substitution, and
  `inner` reads a text of its own.
-/
def readPieces
    (commands : Reader Command)
    (inner : String → Reader Command) :
    Nat → Context → List Piece → Reader (List Piece)
  | 0, _, _ => Reader.refuse "word too long"
  | fuel + 1, context, acc => do
    let go := readPieces commands inner fuel context
    let literal (text : String) : Piece :=
      if context.isQuoted then .quoted text else .bare text
    let cs ← Reader.rest
    match cs with
    | [] =>
      match context with
      | .plain => return acc.reverse
      | .document => return acc.reverse
      | .quotes => Reader.refuse "Unterminated quoted string"
      | .braces _ => Reader.refuse "Missing '\x7d'"
      | .sum _ => Reader.refuse "Missing '))'"
    | c :: more =>
      if context.endsAt c then
        return acc.reverse
      else if c = '\\' then
        Reader.skip 1
        match more with
        | [] => go (literal "\\" :: acc)
        | d :: _ =>
          if d = '\n' then
            Reader.skip 1
            go acc
          else if context.escapable d then
            Reader.skip 1
            go (.quoted d.toString :: acc)
          else
            Reader.skip 1
            go (.quoted ("\\" ++ d.toString) :: acc)
      else if c = '\'' && !context.isQuoted then
        Reader.skip 1
        let text ← readSingle (more.length + 1) []
        go (.quoted text :: acc)
      else if c = '"' && context.opensQuotes then
        Reader.skip 1
        let pieces ← readPieces commands inner fuel .quotes []
        Reader.skip 1
        go (pieces.reverse ++ .quoted "" :: acc)
      else if c = backquote then
        Reader.skip 1
        let text ← readBackquoted context.isQuoted (more.length + 1) []
        let command ← inner text
        go (.output command context.isQuoted :: acc)
      else if c = '$' then
        Reader.skip 1
        let piece ← readDollar commands inner fuel context.isQuoted
        go (piece :: acc)
      else
        match context with
        | .sum depth =>
          if c = '(' then
            Reader.skip 1
            readPieces commands inner fuel (.sum (depth + 1))
              (literal "(" :: acc)
          else if c = ')' then
            if depth = 0 then
              if more.head? = some ')' then
                Reader.skip 2
                return acc.reverse
              else
                Reader.refuse "Missing '))'"
            else
              Reader.skip 1
              readPieces commands inner fuel (.sum (depth - 1))
                (literal ")" :: acc)
          else
            Reader.skip 1
            go (literal c.toString :: acc)
        | _ =>
          Reader.skip 1
          go (literal c.toString :: acc)

/- What follows a dollar sign. -/
def readDollar
    (commands : Reader Command)
    (inner : String → Reader Command) :
    Nat → Bool → Reader Piece
  | 0, _ => Reader.refuse "word too long"
  | fuel + 1, quoted => do
    let cs ← Reader.rest
    match cs with
    | '(' :: '(' :: _ =>
      Reader.skip 2
      let pieces ← readPieces commands inner fuel (.sum 0) []
      return .sum pieces quoted
    | '(' :: _ =>
      Reader.skip 1
      let command ← commands
      return .output command quoted
    | '{' :: '#' :: '}' :: _ =>
      Reader.skip 3
      return .variable "#" .value quoted
    | '{' :: '#' :: _ =>
      Reader.skip 2
      let name ← readBraceName
      let after ← Reader.rest
      match after with
      | '}' :: _ =>
        Reader.skip 1
        return .variable name .length quoted
      | _ =>
        let _ ← readPieces commands inner fuel (.braces quoted) []
        Reader.skip 1
        return .variable name .unreadable quoted
    | '{' :: _ =>
      Reader.skip 1
      let name ← readBraceName
      let after ← Reader.rest
      if name = "" then
        let _ ← readPieces commands inner fuel (.braces quoted) []
        Reader.skip 1
        return .variable name .unreadable quoted
      else
        match after with
        | '}' :: _ =>
          Reader.skip 1
          return .variable name .value quoted
        | ':' :: sign :: _ =>
          Reader.skip 2
          let word ← readPieces commands inner fuel (.braces quoted) []
          Reader.skip 1
          return .variable name
            ((useOf? true sign word).getD .unreadable) quoted
        | '#' :: '#' :: _ =>
          Reader.skip 2
          let word ← readPieces commands inner fuel (.braces false) []
          Reader.skip 1
          return .variable name (.without .front true word) quoted
        | '#' :: _ =>
          Reader.skip 1
          let word ← readPieces commands inner fuel (.braces false) []
          Reader.skip 1
          return .variable name (.without .front false word) quoted
        | '%' :: '%' :: _ =>
          Reader.skip 2
          let word ← readPieces commands inner fuel (.braces false) []
          Reader.skip 1
          return .variable name (.without .back true word) quoted
        | '%' :: _ =>
          Reader.skip 1
          let word ← readPieces commands inner fuel (.braces false) []
          Reader.skip 1
          return .variable name (.without .back false word) quoted
        | sign :: _ =>
          if takesWord sign then
            Reader.skip 1
            let word ← readPieces commands inner fuel (.braces quoted) []
            Reader.skip 1
            return .variable name
              ((useOf? false sign word).getD .unreadable) quoted
          else
            let _ ← readPieces commands inner fuel (.braces quoted) []
            Reader.skip 1
            return .variable name .unreadable quoted
        | [] => Reader.refuse "Missing '\x7d'"
    | c :: _ =>
      if startsName c then
        let name := cs.takeWhile inName
        Reader.skip name.length
        return .variable (String.ofList name) .value quoted
      else if c.isDigit || isSign c then
        Reader.skip 1
        return .variable c.toString .value quoted
      else if quoted then
        return .quoted "$"
      else
        return .bare "$"
    | [] => return if quoted then .quoted "$" else .bare "$"

end

/- The next word, if one starts here. -/
def readWord
    (commands : Reader Command)
    (inner : String → Reader Command) : Reader Word := do
  let cs ← Reader.rest
  let pieces ← readPieces commands inner (2 * cs.length + 2) .plain []
  return joinPieces pieces

end Shell

end PluginStudio
