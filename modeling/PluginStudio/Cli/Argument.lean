import PluginStudio.Cli.Emphasis

/-
  Arguments that the command line takes.

  Key definitions include:
    * `PluginStudio.Cli.Arg`
    * `PluginStudio.Cli.Arg.label`
    * `PluginStudio.Cli.Scope`
    * `PluginStudio.Cli.Scope.usage`
    * `PluginStudio.Cli.Scope.helpText`
    * `PluginStudio.Cli.Scope.usageWith`
-/

------------------------------------------------------------
-- Arguments
------------------------------------------------------------

namespace PluginStudio

namespace Cli

/- The name of the program. -/
def programName : String :=
  "redstone"

/- The version of the program. -/
def version : String :=
  "0.1.0"

/- Options, and arguments known by their places. -/
inductive Arg where
  | resourcesDir
  | buildDir
  | verbose
  | help
  | version
  | bind
  | port
  | headless
  | request
  | output
  | topics
deriving DecidableEq, Repr

namespace Arg

/- The long name of an option. -/
def long? : Arg → Option String
  | resourcesDir => some "resources-dir"
  | buildDir => some "build-dir"
  | verbose => some "verbose"
  | help => some "help"
  | version => some "version"
  | bind => some "bind"
  | port => some "port"
  | headless => some "headless"
  | output => some "output"
  | request => none
  | topics => none

/- The short name of an option. -/
def short? : Arg → Option Char
  | verbose => some 'v'
  | help => some 'h'
  | version => some 'V'
  | port => some 'p'
  | output => some 'o'
  | _ => none

/- What stands for the value of an argument that has one. -/
def value? : Arg → Option String
  | resourcesDir => some "<RESOURCES_DIR>"
  | buildDir => some "<BUILD_DIR>"
  | bind => some "<BIND>"
  | port => some "<PORT>"
  | output => some "<OUTPUT>"
  | request => some "<REQUEST>"
  | topics => some "[COMMAND]..."
  | _ => none

/- Does the argument have a value? -/
def takesValue (arg : Arg) : Bool :=
  arg.value?.isSome

/- Is the argument known by its place? -/
def isPositional (arg : Arg) : Bool :=
  arg.long?.isNone

/- The argument as messages write it. -/
def label (arg : Arg) : String :=
  match arg.long?, arg.value? with
  | some name, some value => "--" ++ name ++ " " ++ value
  | some name, none => "--" ++ name
  | none, some value => value
  | none, none => ""

/- The argument as usages write it. -/
def styled (arg : Arg) : String :=
  match arg.long?, arg.value? with
  | some name, some value => Emphasis.literal.on ("--" ++ name) ++ " " ++ value
  | some name, none => Emphasis.literal.on ("--" ++ name)
  | none, some value => value
  | none, none => ""

/- The argument as one of several that belong together. -/
def member (arg : Arg) : String :=
  match arg with
  | request => "REQUEST"
  | _ => arg.label

/- What the argument is for. -/
def about : Arg → String
  | resourcesDir => "Directory holding the UI files and the bundled Maven"
  | buildDir => "Directory where plugin projects are materialized"
  | verbose => "Enable verbose output"
  | help => "Print help"
  | version => "Print version"
  | bind => "Address to bind [default: 127.0.0.1]"
  | port => "Port to listen on (0 picks a free port) [default: 0]"
  | headless => "Do not open a browser"
  | output => "Output jar path (default: <pluginName>.jar)"
  | request => "Path to the request JSON (same shape as POST /api/build)"
  | topics => "Print help for the subcommand(s)"

end Arg

end Cli

end PluginStudio

------------------------------------------------------------
-- Scopes
------------------------------------------------------------

namespace PluginStudio

namespace Cli

/- The program itself, and its commands. -/
inductive Scope where
  | top
  | serve
  | build
  | help
deriving DecidableEq, Repr

namespace Scope

/- The word that selects a scope. -/
def word : Scope → String
  | top => programName
  | serve => "serve"
  | build => "build"
  | help => "help"

/- The words that lead to a scope. -/
def command (scope : Scope) : String :=
  match scope with
  | top => programName
  | _ => programName ++ " " ++ scope.word

/- The commands of a scope. -/
def commands : Scope → List Scope
  | top => [serve, build, help]
  | _ => []

/- The command with a name. -/
def command?
    (scope : Scope)
    (name : String) : Option Scope :=
  scope.commands.find? fun sub => sub.word = name

/- What the scope does. -/
def about : Scope → String
  | top => "redstone - local build studio for Bukkit/Spigot plugins"
  | serve => "Start the studio server and open the UI (default)"
  | build => "Build a plugin from a JSON request file and write the jar"
  | help => "Print this message or the help of the given subcommand(s)"

/- Options that every command shares. -/
def shared : List Arg :=
  [.resourcesDir, .buildDir, .verbose]

/- Options in the order they are searched. -/
def options : Scope → List Arg
  | top => shared ++ [.help, .version]
  | serve => [.bind, .port, .headless] ++ shared ++ [.help]
  | build => [.output] ++ shared ++ [.help]
  | help => []

/- Options in the order they are listed. -/
def listed : Scope → List Arg
  | serve =>
    [.bind, .resourcesDir, .buildDir, .port, .headless, .verbose, .help]
  | scope => scope.options

/- Arguments known by their places. -/
def positionals : Scope → List Arg
  | build => [.request]
  | help => [.topics]
  | _ => []

/- Arguments that may not be left out. -/
def required : Scope → List Arg
  | build => [.request]
  | _ => []

/- Arguments of the scope itself, which belong together. -/
def group : Scope → List Arg
  | top => shared
  | serve => [.bind, .port, .headless]
  | build => [.request, .output]
  | help => []

/- The option with a long name. -/
def long?
    (scope : Scope)
    (name : String) : Option Arg :=
  scope.options.find? fun arg => arg.long? = some name

/- The option with a short name. -/
def short?
    (scope : Scope)
    (c : Char) : Option Arg :=
  scope.options.find? fun arg => arg.short? = some c

/- The long names of all options. -/
def longs (scope : Scope) : List String :=
  scope.options.filterMap Arg.long?

end Scope

end Cli

end PluginStudio

------------------------------------------------------------
-- Usage
------------------------------------------------------------

namespace PluginStudio

namespace Cli

namespace Scope

/- How the scope is used, in general. -/
def usage (scope : Scope) : String :=
  let options := if scope.options.isEmpty then [] else ["[OPTIONS]"]
  let commands := if scope.commands.isEmpty then [] else ["[COMMAND]"]
  String.intercalate " "
    ([Emphasis.literal.on scope.command] ++ options ++
      scope.positionals.map Arg.styled ++ commands)

/- All arguments that belong together, as a choice. -/
def choice (scope : Scope) : String :=
  "<" ++ String.intercalate "|" (scope.group.map Arg.member) ++ ">"

/-
  How the scope is used with some arguments.  Those that may not
  be left out are added.  `together` has arguments that belong
  together shown as a choice.
-/
def usageWith
    (scope : Scope)
    (used : List Arg)
    (together : Bool) : String :=
  if used.isEmpty then
    scope.usage
  else
    let single (arg : Arg) : Bool := !(together && scope.group.contains arg)
    let options := (used.filter fun arg => !arg.isPositional).eraseDups
    String.intercalate " "
      ([Emphasis.literal.on scope.command] ++
        (options.filter single).map Arg.styled ++
        (if together then [scope.choice] else []) ++
        (scope.required.filter single).map Arg.styled)

/- How the scope is used, with a heading. -/
def titled (usage : String) : String :=
  Emphasis.heading.on "Usage:" ++ " " ++ usage

/- A line of a list: its name, the name's width, and a text. -/
structure Entry where
  name : String
  width : Nat
  about : String

/- An option in the list of options. -/
def optionEntry (arg : Arg) : Entry :=
  let short :=
    match arg.short? with
    | some c => Emphasis.literal.on ("-" ++ String.singleton c) ++ ", "
    | none => "    "
  ⟨short ++ arg.styled, 4 + arg.label.length, arg.about⟩

/- A command in the list of commands. -/
def commandEntry (scope : Scope) : Entry :=
  ⟨Emphasis.literal.on scope.word, scope.word.length, scope.about⟩

/- An argument in the list of those known by their places. -/
def placeEntry (arg : Arg) : Entry :=
  ⟨arg.styled, arg.label.length, arg.about⟩

/- Entries below a title, in two columns. -/
def table
    (title : String)
    (entries : List Entry) : String :=
  let width := (entries.map Entry.width).foldl max 0
  let line (entry : Entry) : String :=
    let blanks := List.replicate (width - entry.width) ' '
    "  " ++ entry.name ++ String.ofList blanks ++ "  " ++ entry.about ++ "\n"
  if entries.isEmpty then ""
  else
    "\n" ++ Emphasis.heading.on (title ++ ":") ++ "\n" ++
      String.join (entries.map line)

/- All there is to know about a scope. -/
def helpText (scope : Scope) : String :=
  scope.about ++ "\n\n" ++ titled scope.usage ++ "\n" ++
    table "Commands" (scope.commands.map commandEntry) ++
    table "Arguments" (scope.positionals.map placeEntry) ++
    table "Options" (scope.listed.map optionEntry)

end Scope

end Cli

end PluginStudio
