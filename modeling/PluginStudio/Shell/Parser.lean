import PluginStudio.Shell.Reader

/-
  Reading the commands of a script.

  Key definitions include:
    * `PluginStudio.Shell.readList`
    * `PluginStudio.Shell.readCommand`
    * `PluginStudio.Shell.readNext?`

  A script is read command line by command line, so that the
  lines before a mistake are carried out.
-/

------------------------------------------------------------
-- Tokens
------------------------------------------------------------

namespace PluginStudio

namespace Shell

/- Words with a meaning of their own where commands start. -/
def keywords : List String :=
  ["!", "case", "do", "done", "elif", "else", "esac", "fi", "for",
    "if", "in", "then", "until", "while", "\x7b", "\x7d"]

/- Keywords that end a list of commands. -/
def listEnders : List String :=
  ["then", "else", "elif", "fi", "do", "done", "esac", "\x7d"]

/- Passes over blanks, comments and broken lines. -/
def skipBlanks : Nat → Reader Unit
  | 0 => return
  | fuel + 1 => do
    match ← Reader.rest with
    | '\\' :: '\n' :: _ =>
      Reader.skip 2
      skipBlanks fuel
    | c :: cs =>
      if isBlank c then
        Reader.skip 1
        skipBlanks fuel
      else if c = '#' then
        Reader.skip (cs.takeWhile fun d => d ≠ '\n').length
        Reader.skip 1
        skipBlanks fuel
      else
        return
    | [] => return

/- Passes over blanks. -/
def blanks : Reader Unit := do
  let cs ← Reader.rest
  skipBlanks (cs.length + 1)

/- Passes over line ends, too. -/
def skipLines : Nat → Reader Unit
  | 0 => return
  | fuel + 1 => do
    blanks
    match ← Reader.rest with
    | '\n' :: _ =>
      Reader.skip 1
      skipLines fuel
    | _ => return

/- Passes over blanks and line ends. -/
def newlines : Reader Unit := do
  let cs ← Reader.rest
  skipLines (cs.length + 1)

/- Is the character part of a word that is no keyword? -/
def marksWord (c : Char) : Bool :=
  c = '\'' || c = '"' || c = '\\' || c = '$' || c = backquote

/- The bare text of the next word, if all of it is bare. -/
def bareAhead? (cs : List Char) : Option String :=
  let text := cs.takeWhile fun c => !endsWord c && !marksWord c
  match cs.drop text.length with
  | [] => some (String.ofList text)
  | c :: _ => if marksWord c then none else some (String.ofList text)

/- The keyword that comes next. -/
def keyword? : Reader (Option String) := do
  match bareAhead? (← Reader.rest) with
  | some text => return if text ∈ keywords then some text else none
  | none => return none

/- The next token in words. -/
def tokenName : Reader String := do
  let quote (text : String) := "\"" ++ text ++ "\""
  match ← Reader.rest with
  | [] => return "end of file"
  | '\n' :: _ => return "newline"
  | ';' :: ';' :: _ => return quote ";;"
  | ';' :: _ => return quote ";"
  | '&' :: '&' :: _ => return quote "&&"
  | '&' :: _ => return quote "&"
  | '|' :: '|' :: _ => return quote "||"
  | '|' :: _ => return quote "|"
  | '(' :: _ => return quote "("
  | ')' :: _ => return quote ")"
  | '<' :: _ => return "redirection"
  | '>' :: _ => return "redirection"
  | _ =>
    match ← keyword? with
    | some text => return quote text
    | none => return "word"

/- Give up at the next token. -/
def unexpected {α : Type} : Reader α := do
  let token ← tokenName
  if token = "newline" then Reader.skip 1
  Reader.refuse (token ++ " unexpected")

/- Give up at the next token, where another was due. -/
def expecting {α : Type} (due : String) : Reader α := do
  let token ← tokenName
  Reader.refuse
    (token ++ " unexpected (expecting \"" ++ due ++ "\")")

/- Pass over a keyword that is due. -/
def expectKeyword (due : String) : Reader Unit := do
  newlines
  if (← keyword?) = some due then
    Reader.skip due.length
  else
    expecting due

end Shell

end PluginStudio

------------------------------------------------------------
-- Documents
------------------------------------------------------------

namespace PluginStudio

namespace Shell

/- The text of a word as it was written, and whether in quotes. -/
def delimiter (word : Word) : String × Bool :=
  word.foldl
    (fun (text, quoted) piece =>
      match piece with
      | .bare t => (text ++ t, quoted)
      | .quoted t => (text ++ t, true)
      | .variable name _ _ => (text ++ "$" ++ name, quoted)
      | _ => (text, quoted))
    ("", false)

/- The lines of a document, and what follows its end. -/
def documentLines
    (stop : List Char)
    (trim : Bool) :
    Nat → List Char → List Char × Nat × List Char
  | 0, cs => ([], 0, cs)
  | fuel + 1, cs =>
    let raw := cs.takeWhile fun c => c ≠ '\n'
    let after := (cs.drop raw.length).drop 1
    let line := if trim then raw.dropWhile fun c => c = '\t' else raw
    if line = stop then
      ([], 1, after)
    else if cs.length ≤ raw.length then
      (line, 0, [])
    else
      let (lines, count, rest) := documentLines stop trim fuel after
      (line ++ '\n' :: lines, count + 1, rest)

/- Take a document out from behind the current line. -/
def takeDocument
    (stop : String)
    (trim : Bool) : Reader String := do
  let source ← get
  let line := source.rest.takeWhile fun c => c ≠ '\n'
  let behind := (source.rest.drop line.length).drop 1
  let (lines, count, rest) :=
    documentLines stop.toList trim (behind.length + 1) behind
  set { source with
    rest := line ++ '\n' :: rest
    skipped := source.skipped + count }
  return String.ofList lines

end Shell

end PluginStudio

------------------------------------------------------------
-- Commands
------------------------------------------------------------

namespace PluginStudio

namespace Shell

/- Where a list of commands stands. -/
inductive Extent where
  | line
  | block
  | loose
deriving DecidableEq, Repr

/- One command after another, if there is one before. -/
def after
    (first? : Option Command)
    (second : Command) : Command :=
  match first? with
  | none => second
  | some first => .chain first second

/- A name and its value, if the word assigns one. -/
def assignment? (word : Word) : Option (String × Word) :=
  match word with
  | .bare text :: pieces =>
    let name := text.toList.takeWhile inName
    match text.toList.drop name.length with
    | '=' :: value =>
      if isName (String.ofList name) then
        let first : Word :=
          if value.isEmpty then [] else [.bare (String.ofList value)]
        some (String.ofList name, first ++ pieces)
      else
        none
    | _ => none
  | _ => none

/- The sign of a redirection, with the descriptor it is for. -/
def channelOf? (cs : List Char) : Option (Channel × Nat × Nat × Bool) :=
  match cs with
  | '<' :: '<' :: '-' :: _ => some (.document, 0, 3, true)
  | '<' :: '<' :: _ => some (.document, 0, 2, false)
  | '<' :: '&' :: _ => some (.duplicate, 0, 2, false)
  | '<' :: '>' :: _ => some (.both, 0, 2, false)
  | '<' :: _ => some (.input, 0, 1, false)
  | '>' :: '>' :: _ => some (.append, 1, 2, false)
  | '>' :: '&' :: _ => some (.duplicate, 1, 2, false)
  | '>' :: '|' :: _ => some (.clobber, 1, 2, false)
  | '>' :: _ => some (.output, 1, 1, false)
  | _ => none

/- The redirection ahead, and whether a digit stands before it. -/
def redirectionAhead?
    (cs : List Char) : Option (Channel × Nat × Nat × Bool) :=
  match cs with
  | d :: more =>
    if d.isDigit then
      match channelOf? more with
      | some (channel, _, size, trim) =>
        some (channel, d.toNat - '0'.toNat, size + 1, trim)
      | none => none
    else
      channelOf? cs
  | [] => none

/- What has been read of a simple command. -/
structure Draft where
  assignments : List (String × Word)
  words : List Word
  redirections : List Redirection

/- Name of the function that a draft starts to define. -/
def Draft.functionName? (draft : Draft) : Option (Option String) :=
  match draft.assignments, draft.words, draft.redirections with
  | [], [word], [] =>
    match bareText? word with
    | some name => some (if isName name then some name else none)
    | none => some none
  | _, _, _ => none

mutual

/- Words of a script, with commands read by the same budget. -/
def readScriptWord : Nat → Reader Word
  | 0 => Reader.refuse "script too long"
  | fuel + 1 =>
    readWord (readSubstitution fuel) (readInner fuel)

/- Commands up to the closing bracket of a substitution. -/
def readSubstitution : Nat → Reader Command
  | 0 => Reader.refuse "script too long"
  | fuel + 1 => do
    let command ← readList fuel .loose none
    newlines
    match ← Reader.rest with
    | ')' :: _ =>
      Reader.skip 1
      return command
    | _ => expecting ")"

/- Commands in a text of their own. -/
def readInner : Nat → String → Reader Command
  | 0, _ => Reader.refuse "script too long"
  | fuel + 1, text => do
    let outer ← get
    set { outer with rest := text.toList, skipped := 0 }
    let command ← readList fuel .loose none
    newlines
    if !(← Reader.rest).isEmpty then unexpected
    set outer
    return command

/- Commands one after another. -/
def readList : Nat → Extent → Option Command → Reader Command
  | 0, _, _ => Reader.refuse "script too long"
  | fuel + 1, extent, before? => do
    if extent = .line then blanks else newlines
    let cs ← Reader.rest
    let ends ← listEnd
    if extent = .line && cs.head? = some '\n' then
      Reader.skip 1
      return before?.getD .nothing
    else if cs.isEmpty then
      return before?.getD .nothing
    else if ends &&
        (extent = .loose || (extent = .block && before?.isSome)) then
      return before?.getD .nothing
    else
      let command ← readAndOr fuel
      blanks
      match ← Reader.rest with
      | ';' :: ';' :: _ =>
        if extent = .line then unexpected
        return after before? command
      | ';' :: _ =>
        Reader.skip 1
        readList fuel extent (after before? command)
      | '&' :: _ =>
        Reader.skip 1
        readList fuel extent (after before? (.background command))
      | '\n' :: _ => readList fuel extent (after before? command)
      | [] => return after before? command
      | _ =>
        if extent = .line then unexpected
        return after before? command

/- Does a list of commands end here? -/
def listEnd : Reader Bool := do
  match ← Reader.rest with
  | ')' :: _ => return true
  | ';' :: ';' :: _ => return true
  | _ =>
    match ← keyword? with
    | some text => return text ∈ listEnders
    | none => return false

/- Pipelines of which each depends on the one before. -/
def readAndOr : Nat → Reader Command
  | 0 => Reader.refuse "script too long"
  | fuel + 1 => do
    let first ← readPipeline fuel
    readAndOrRest fuel first

/- The rest of such pipelines. -/
def readAndOrRest : Nat → Command → Reader Command
  | 0, _ => Reader.refuse "script too long"
  | fuel + 1, first => do
    blanks
    match ← Reader.rest with
    | '&' :: '&' :: _ =>
      Reader.skip 2
      newlines
      let second ← readPipeline fuel
      readAndOrRest fuel (.both first second)
    | '|' :: '|' :: _ =>
      Reader.skip 2
      newlines
      let second ← readPipeline fuel
      readAndOrRest fuel (.either first second)
    | _ => return first

/- Commands of which each reads what the one before writes. -/
def readPipeline : Nat → Reader Command
  | 0 => Reader.refuse "script too long"
  | fuel + 1 => do
    blanks
    if (← keyword?) = some "!" then
      Reader.skip 1
      let command ← readPipeline fuel
      return .negated command
    else
      let first ← readCommand fuel
      let commands ← readPipes fuel [first]
      match commands with
      | [command] => return command
      | _ => return .pipeline commands

/- The rest of such commands. -/
def readPipes : Nat → List Command → Reader (List Command)
  | 0, _ => Reader.refuse "script too long"
  | fuel + 1, acc => do
    blanks
    match ← Reader.rest with
    | '|' :: '|' :: _ => return acc.reverse
    | '|' :: _ =>
      Reader.skip 1
      newlines
      let command ← readCommand fuel
      readPipes fuel (command :: acc)
    | _ => return acc.reverse

/- One redirection, if one comes next. -/
def readRedirection? : Nat → Reader (Option Redirection)
  | 0 => Reader.refuse "script too long"
  | fuel + 1 => do
    blanks
    match redirectionAhead? (← Reader.rest) with
    | none => return none
    | some (channel, descriptor, size, trim) =>
      Reader.skip size
      blanks
      let word ← readScriptWord fuel
      if word.isEmpty then
        unexpected
      else if channel = .document then
        let (stop, isQuoted) := delimiter word
        let text ← takeDocument stop trim
        if isQuoted then
          return some (.mk descriptor channel [.quoted text])
        else
          let outer ← get
          set { outer with rest := text.toList, skipped := 0 }
          let pieces ← readPieces (readSubstitution fuel)
            (readInner fuel) (2 * text.length + 2) .document []
          set outer
          return some (.mk descriptor channel pieces)
      else
        return some (.mk descriptor channel word)

/- Redirections behind a command. -/
def readRedirections :
    Nat → List Redirection → Reader (List Redirection)
  | 0, _ => Reader.refuse "script too long"
  | fuel + 1, acc => do
    match ← readRedirection? fuel with
    | none => return acc.reverse
    | some redirection => readRedirections fuel (redirection :: acc)

/- A simple command, as far as it has been read. -/
def readSimple : Nat → Nat → Draft → Reader Command
  | 0, _, _ => Reader.refuse "script too long"
  | fuel + 1, line, draft => do
    let finished : Command :=
      .simple line draft.assignments.reverse draft.words.reverse
        draft.redirections.reverse
    match ← readRedirection? fuel with
    | some redirection =>
      readSimple fuel line
        { draft with redirections := redirection :: draft.redirections }
    | none =>
      match ← Reader.rest with
      | [] => return finished
      | '(' :: _ =>
        match draft.functionName? with
        | none => return finished
        | some name? =>
          Reader.skip 1
          blanks
          match ← Reader.rest with
          | ')' :: _ =>
            Reader.skip 1
            match name? with
            | none => Reader.refuse "Bad function name"
            | some name =>
              newlines
              let body ← readCommand fuel
              return .function name body
          | _ => expecting ")"
      | c :: _ =>
        if endsWord c then
          return finished
        else
          let word ← readScriptWord fuel
          match draft.words, assignment? word with
          | [], some assignment =>
            readSimple fuel line
              { draft with assignments := assignment :: draft.assignments }
          | _, _ =>
            readSimple fuel line { draft with words := word :: draft.words }

/- The alternatives of a condition, after its keyword. -/
def readBranches : Nat → Reader Command
  | 0 => Reader.refuse "script too long"
  | fuel + 1 => do
    let condition ← readList fuel .block none
    expectKeyword "then"
    let yes ← readList fuel .block none
    newlines
    match ← keyword? with
    | some "elif" =>
      Reader.skip 4
      let no ← readBranches fuel
      return .branch condition yes no []
    | some "else" =>
      Reader.skip 4
      let no ← readList fuel .block none
      expectKeyword "fi"
      return .branch condition yes no []
    | some "fi" =>
      Reader.skip 2
      return .branch condition yes .nothing []
    | _ => expecting "fi"

/- The words that a loop goes through. -/
def readWords : Nat → List Word → Reader (List Word)
  | 0, _ => Reader.refuse "script too long"
  | fuel + 1, acc => do
    blanks
    match ← Reader.rest with
    | [] => return acc.reverse
    | c :: _ =>
      if endsWord c then
        return acc.reverse
      else
        let word ← readScriptWord fuel
        readWords fuel (word :: acc)

/- The patterns of an arm. -/
def readPatterns : Nat → List Word → Reader (List Word)
  | 0, _ => Reader.refuse "script too long"
  | fuel + 1, acc => do
    blanks
    let word ← readScriptWord fuel
    if word.isEmpty then expecting ")"
    blanks
    match ← Reader.rest with
    | '|' :: _ =>
      Reader.skip 1
      readPatterns fuel (word :: acc)
    | ')' :: _ =>
      Reader.skip 1
      return (word :: acc).reverse
    | _ => expecting ")"

/- The arms of a choice up to its end. -/
def readArms :
    Nat → List (List Word × Command) →
    Reader (List (List Word × Command))
  | 0, _ => Reader.refuse "script too long"
  | fuel + 1, acc => do
    newlines
    if (← keyword?) = some "esac" then
      Reader.skip 4
      return acc.reverse
    else
      if (← Reader.rest).head? = some '(' then Reader.skip 1
      let patterns ← readPatterns fuel []
      let body ← readList fuel .loose none
      newlines
      match ← Reader.rest with
      | ';' :: ';' :: _ =>
        Reader.skip 2
        readArms fuel ((patterns, body) :: acc)
      | _ =>
        if (← keyword?) = some "esac" then
          Reader.skip 4
          return ((patterns, body) :: acc).reverse
        else
          expecting ";;"

/- The body of a loop. -/
def readBody : Nat → Reader Command
  | 0 => Reader.refuse "script too long"
  | fuel + 1 => do
    expectKeyword "do"
    let body ← readList fuel .block none
    expectKeyword "done"
    return body

/- A command of any kind. -/
def readCommand : Nat → Reader Command
  | 0 => Reader.refuse "script too long"
  | fuel + 1 => do
    blanks
    let line ← Reader.line
    match ← Reader.rest with
    | '(' :: _ =>
      Reader.skip 1
      let body ← readList fuel .block none
      newlines
      match ← Reader.rest with
      | ')' :: _ =>
        Reader.skip 1
        return .subshell line body (← readRedirections fuel [])
      | _ => expecting ")"
    | cs =>
      match ← keyword? with
      | some "if" =>
        Reader.skip 2
        let command ← readBranches fuel
        return .group command (← readRedirections fuel [])
      | some "while" =>
        Reader.skip 5
        let condition ← readList fuel .block none
        let body ← readBody fuel
        return .loop false condition body (← readRedirections fuel [])
      | some "until" =>
        Reader.skip 5
        let condition ← readList fuel .block none
        let body ← readBody fuel
        return .loop true condition body (← readRedirections fuel [])
      | some "\x7b" =>
        Reader.skip 1
        let body ← readList fuel .block none
        expectKeyword "\x7d"
        return .group body (← readRedirections fuel [])
      | some "for" =>
        Reader.skip 3
        blanks
        let word ← readScriptWord fuel
        let name := (bareText? word).getD ""
        if !isName name then
          Reader.refuse "Bad for loop variable"
        newlines
        let words? : Option (List Word) ←
          if (← keyword?) = some "in" then do
            Reader.skip 2
            let words ← readWords fuel []
            match ← Reader.rest with
            | ';' :: _ => Reader.skip 1
            | '\n' :: _ => Reader.skip 1
            | _ => unexpected
            pure (some words)
          else do
            blanks
            if (← Reader.rest).head? = some ';' then Reader.skip 1
            pure none
        let body ← readBody fuel
        return .each line name words? body (← readRedirections fuel [])
      | some "case" =>
        Reader.skip 4
        blanks
        let subject ← readScriptWord fuel
        if subject.isEmpty then unexpected
        expectKeyword "in"
        let arms ← readArms fuel []
        return .choice line subject arms (← readRedirections fuel [])
      | some _ => unexpected
      | none =>
        match cs, redirectionAhead? cs with
        | [], _ => unexpected
        | c :: _, none =>
          if endsWord c then
            unexpected
          else
            readSimple fuel line ⟨[], [], []⟩
        | _, some _ => readSimple fuel line ⟨[], [], []⟩

end

end Shell

end PluginStudio

------------------------------------------------------------
-- Scripts
------------------------------------------------------------

namespace PluginStudio

namespace Shell

/- The next command line, if there is one. -/
def readNext? : Reader (Option Command) := do
  newlines
  let cs ← Reader.rest
  if cs.isEmpty then
    return none
  else
    let command ← readList (16 * cs.length + 64) .line none
    return some command

/- The source of a text. -/
def Source.ofText (text : String) : Source where
  rest := text.toList
  line := 1
  skipped := 0

end Shell

end PluginStudio
