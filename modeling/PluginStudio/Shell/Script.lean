/-
  Shell scripts.

  Key definitions include:
    * `PluginStudio.Shell.Piece`
    * `PluginStudio.Shell.Use`
    * `PluginStudio.Shell.Redirection`
    * `PluginStudio.Shell.Command`

  Texts in a script hold bytes, one for each character.
-/

------------------------------------------------------------
-- Words And Commands
------------------------------------------------------------

namespace PluginStudio

namespace Shell

/- Which side of a value a pattern is cut from. -/
inductive Side where
  | front
  | back
deriving DecidableEq, Repr

/- How a redirection uses its word. -/
inductive Channel where
  | input
  | output
  | clobber
  | append
  | both
  | duplicate
  | document
deriving DecidableEq, Repr

mutual

/-
  A part of a word.  Quoted parts are neither split into fields
  nor matched against file names.
-/
inductive Piece where
  | bare (text : String)
  | quoted (text : String)
  | variable (name : String) (use : Use) (quoted : Bool)
  | output (command : Command) (quoted : Bool)
  | sum (expression : List Piece) (quoted : Bool)

/-
  What is made of a parameter.  `strict` says that an empty
  value counts as none.
-/
inductive Use where
  | value
  | length
  | orElse (strict : Bool) (word : List Piece)
  | orAssign (strict : Bool) (word : List Piece)
  | orFail (strict : Bool) (word : List Piece)
  | ifGiven (strict : Bool) (word : List Piece)
  | without (side : Side) (longest : Bool) (pattern : List Piece)
  | unreadable

/- A descriptor and what it is connected to. -/
inductive Redirection where
  | mk (descriptor : Nat) (channel : Channel) (word : List Piece)

/- A command.  Simple ones know the line that they stand on. -/
inductive Command where
  | simple (line : Nat)
      (assignments : List (String × List Piece))
      (words : List (List Piece))
      (redirections : List Redirection)
  | pipeline (commands : List Command)
  | negated (command : Command)
  | both (first second : Command)
  | either (first second : Command)
  | chain (first second : Command)
  | background (command : Command)
  | subshell (line : Nat) (body : Command)
      (redirections : List Redirection)
  | group (body : Command) (redirections : List Redirection)
  | branch (condition yes no : Command)
      (redirections : List Redirection)
  | loop (inverted : Bool) (condition body : Command)
      (redirections : List Redirection)
  | each (line : Nat) (name : String)
      (words? : Option (List (List Piece))) (body : Command)
      (redirections : List Redirection)
  | choice (line : Nat) (subject : List Piece)
      (arms : List (List (List Piece) × Command))
      (redirections : List Redirection)
  | function (name : String) (body : Command)
  | nothing

end

/- A word is its parts in their order. -/
abbrev Word :=
  List Piece

instance : Inhabited Command := ⟨.nothing⟩

end Shell

end PluginStudio

------------------------------------------------------------
-- Bare Words
------------------------------------------------------------

namespace PluginStudio

namespace Shell

/- The text of a word that has bare parts only. -/
def bareText? : Word → Option String
  | [] => none
  | [.bare text] => some text
  | _ => none

end Shell

end PluginStudio
