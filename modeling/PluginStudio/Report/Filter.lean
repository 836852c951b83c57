import PluginStudio.Event
import PluginStudio.Path
import PluginStudio.Report.ValuePattern
import PluginStudio.Text.Utf8

/-
  Which events are shown.

  Key definitions include:
    * `PluginStudio.Report.Directive`
    * `PluginStudio.Report.Filter`
    * `PluginStudio.Report.Filter.read?`
    * `PluginStudio.Report.Filter.usual`
    * `PluginStudio.Report.Filter.shows`

  A filter is a list of directives between commas.  Each sets
  the least weight of the events whose topic it names the
  start of, or of all events, and may ask for fields that an
  event has to have.  The longest name counts, then the most
  fields.
-/

------------------------------------------------------------
-- Topics
------------------------------------------------------------

namespace PluginStudio

namespace Topic

/- The name that directives know a topic by. -/
def path : Topic → String
  | project => "redstone_lib::project"
  | artifact => "redstone_lib::artifact"
  | toolchain => "redstone_lib::toolchain"
  | invocation => "redstone_lib::invoke"
  | console => "redstone_lib::decode"
  | build => "redstone_lib::coordinator"
  | server => "redstone_lib::server"
  | launch => "redstone_lib::launch"
  | commandLine => "redstone::cmd::serve"

end Topic

end PluginStudio

------------------------------------------------------------
-- Bounds
------------------------------------------------------------

namespace PluginStudio

namespace Report

/- The least weight of what is shown, or nothing at all. -/
abbrev Bound :=
  Option Level

namespace Bound

/- Is an event of a level shown? -/
def shows
    (bound : Bound)
    (level : Level) : Bool :=
  match bound with
  | some least => level.rank ≤ least.rank
  | none => false

/- Bounds by their names. -/
def named : List (String × Bound) :=
  [
    ("off", none),
    ("error", some .error),
    ("warn", some .warn),
    ("info", some .info),
    ("debug", some .debug),
    ("trace", some .trace)
  ]

/- A number of digits, possibly after a plus sign. -/
def number? : List Char → Option Nat
  | '+' :: cs => plain? cs
  | cs => plain? cs
where
  plain? (cs : List Char) : Option Nat :=
    if cs.isEmpty || !cs.all Char.isDigit then none
    else some (cs.foldl (fun n c => n * 10 + (c.toNat - 48)) 0)

/- The bound that a name or a number stands for. -/
def read? (text : String) : Option Bound :=
  match number? text.toList with
  | some n => (named[n]?).map fun entry => entry.2
  | none =>
    if text = "" then some (some .error)
    else named.lookup (String.ofList (text.toList.map Char.toLower))

end Bound

end Report

end PluginStudio

------------------------------------------------------------
-- Directives
------------------------------------------------------------

namespace PluginStudio

namespace Report

/-
  A bound for the topics that a name starts, or for all.  It
  may be for events that have some fields only.  One that is
  limited to the inside of some activity, or by the value of a
  field, shows nothing, since events are not reported from inside
  of any.
-/
structure Directive where
  target? : Option String
  fields : List String
  bound : Bound
  limited : Bool
deriving DecidableEq, Repr

namespace Directive

/- A bound for the topics that a name starts. -/
def forTarget
    (target : String)
    (bound : Bound) : Directive :=
  ⟨some target, [], bound, false⟩

/- A bound for all events. -/
def forAll (bound : Bound) : Directive :=
  ⟨none, [], bound, false⟩

/- May a directive start with this character? -/
def mayStart (c : Char) : Bool :=
  c = '-' || c = ':' || c = '_' || Alphanumeric.contains c

/-
  How far the reading of a directive has come.  Places where a
  part starts are counted in bytes.
-/
inductive Progress where
  | start
  | word (first : Nat)
  | span (first : Nat)
  | field (first : Nat)
  | fieldsOver
  | spanOver
  | bound (first : Nat)
deriving DecidableEq, Repr

/- What is known of a directive while it is read. -/
structure Draft where
  target? : Option String := none
  span? : Option String := none
  fields : List String := []

/- The text of the bytes from one place to before another. -/
def piece?
    (bytes : Bytes)
    (first last : Nat) : Option String :=
  Utf8.decode? ((bytes.take last).drop first)

/- The texts of a field between its equals signs. -/
def fieldTexts (field : String) : List String :=
  (Path.splitOn '=' field.toList).map String.ofList

namespace Draft

/- With a field.  What follows its name has to be a value. -/
def withField?
    (draft : Draft)
    (field : String) : Option Draft :=
  let legal :=
    match fieldTexts field with
    | _ :: value :: _ => ValuePattern.isValue value
    | _ => field ≠ ""
  if legal then some { draft with fields := draft.fields ++ [field] }
  else none

/- Read a character, which stands at a place. -/
def step?
    (bytes : Bytes)
    (draft : Draft)
    (progress : Progress)
    (i : Nat)
    (c : Char) : Option (Draft × Progress) := do
  match progress with
  | .start =>
    if c = '[' then some (draft, .span (i + 1))
    else if mayStart c then some (draft, .word i)
    else none
  | .word first =>
    if c = '=' || c = '[' then
      let target ← piece? bytes first i
      some ({ draft with target? := some target },
        if c = '=' then .bound (i + 1) else .span (i + 1))
    else some (draft, progress)
  | .span first =>
    if c = ']' then
      let name ← piece? bytes first i
      some ({ draft with span? := some name }, .spanOver)
    else if c = '\x7b' then
      let name ← piece? bytes first i
      let span? := if name = "" then none else some name
      some ({ draft with span? := span? }, .field (i + 1))
    else some (draft, progress)
  | .field first =>
    if c = '\x7d' then
      let field ← piece? bytes first i
      let draft ← draft.withField? field
      some (draft, .fieldsOver)
    else some (draft, progress)
  | .fieldsOver => if c = ']' then some (draft, .spanOver) else none
  | .spanOver => if c = '=' then some (draft, .bound (i + 1)) else none
  | .bound _ => some (draft, progress)

/- Read characters, the first of which stands at a place. -/
def read?
    (bytes : Bytes) :
    Draft → Progress → Nat → List Char → Option (Draft × Progress)
  | draft, progress, _, [] => some (draft, progress)
  | draft, progress, i, c :: cs => do
    let (draft, progress) ← draft.step? bytes progress i c
    read? bytes draft progress (i + (Utf8.encodeChar c).length) cs

/- The directive of a draft.  Names of fields end at an equals sign. -/
def directive
    (draft : Draft)
    (bound : Bound) : Directive where
  target? := draft.target?
  fields :=
    draft.fields.map fun field => ((fieldTexts field).head?).getD ""
  bound := bound
  limited :=
    draft.span?.isSome || draft.fields.any fun field => '=' ∈ field.toList

end Draft

/- The bound at the end of a directive. -/
def boundAfter? (text : String) : Option Bound :=
  if text = "" then some (some .trace) else Bound.read? text

/- A directive that is a bound or a name. -/
def readWord (word : String) : Directive :=
  match Bound.read? word with
  | some bound => forAll bound
  | none => forTarget word (some .trace)

/-
  The directive that a text writes.  White space around it is
  not read, but the places of its parts are counted from where
  it starts, so that the parts are cut out of the text as much
  too early.
-/
def read? (text : String) : Option Directive := do
  let bytes := Utf8.encode text
  let (draft, progress) ←
    Draft.read? bytes {} .start 0 (Blank.trimmed text.toList)
  match progress with
  | .word first =>
    (piece? bytes first bytes.length).map readWord
  | .spanOver => some (draft.directive (some .trace))
  | .bound first => do
    let bound ← piece? bytes first bytes.length
    (boundAfter? bound).map draft.directive
  | _ => none

/- Does a directive apply to an event? -/
def appliesTo
    (directive : Directive)
    (event : Event) : Bool :=
  (match directive.target? with
    | some name => name.toList.isPrefixOf event.topic.path.toList
    | none => true) &&
    directive.fields.all fun field =>
      field = "message" ||
        event.details.any fun detail => detail.name = field

/- How much a directive says about its topics. -/
def weight (directive : Directive) : Nat :=
  match directive.target? with
  | some name => name.utf8ByteSize + 1
  | none => 0

/-
  Is the second of two directives as weighty as the first?  The
  longer name counts, then the number of fields, then the order
  of their names.
-/
def isSurpassed
    (first second : Directive) : Bool :=
  if first.weight ≠ second.weight then
    first.weight < second.weight
  else if first.fields.length ≠ second.fields.length then
    first.fields.length < second.fields.length
  else
    !List.lex second.fields first.fields fun s t => decide (s < t)

end Directive

end Report

end PluginStudio

------------------------------------------------------------
-- Filters
------------------------------------------------------------

namespace PluginStudio

namespace Report

/- Directives in the order they were given. -/
abbrev Filter :=
  List Directive

namespace Filter

/- Of two directives, the one that counts. -/
def stronger
    (first? : Option Directive)
    (second : Directive) : Option Directive :=
  match first? with
  | some first =>
    if first.isSurpassed second then some second else some first
  | none => some second

/- The directive that counts for an event. -/
def for?
    (filter : Filter)
    (event : Event) : Option Directive :=
  (filter.filter fun d => !d.limited && d.appliesTo event).foldl
    stronger none

/- Is an event shown? -/
def shows
    (filter : Filter)
    (event : Event) : Bool :=
  match filter.for? event with
  | some directive => Bound.shows directive.bound event.level
  | none => false

/- Directives, or only errors if there are none. -/
def orErrors (filter : Filter) : Filter :=
  if filter.isEmpty then [.forAll (some .error)] else filter

/- The filter that a text writes. -/
def read? (text : String) : Option Filter := do
  let words := (Path.splitOn ',' text.toList).filter fun cs => !cs.isEmpty
  let directives ← words.mapM fun cs => Directive.read? (String.ofList cs)
  return orErrors directives

/- The filter that holds if no other is given. -/
def usual (verbose : Bool) : Filter :=
  let bound : Bound := some (if verbose then .debug else .info)
  [.forTarget "redstone_lib" bound, .forTarget "redstone" bound]

end Filter

end Report

end PluginStudio
