import PluginStudio.Machine.Process
import PluginStudio.Utility.Quote

/-
  Utilities that work on files.

  Key definitions include:
    * `PluginStudio.Utility.makeDirectories`
    * `PluginStudio.Utility.remove`
    * `PluginStudio.Utility.list`
    * `PluginStudio.Utility.find`
    * `PluginStudio.Utility.copy`
    * `PluginStudio.Utility.move`
-/

------------------------------------------------------------
-- Directories
------------------------------------------------------------

namespace PluginStudio

namespace Utility

open Program

/- Complain about a name and fail. -/
def failOn
    (tool doing name : String)
    (fault : IoFault) : Program Nat := do
  complain (tool ++ ": " ++ doing ++ " " ++ quote name ++ ": " ++
    reason fault)
  return 1

/- Complain about missing arguments and fail. -/
def missingOperand
    (tool : String) : Program Nat := do
  complain (tool ++ ": missing operand")
  complain ("Try '" ++ tool ++ " --help' for more information.")
  return 1

/- Options in front of the arguments of a utility. -/
def split (args : List String) : List Char × List String :=
  options args

/- Zero, or the status of a failure. -/
def settle
    (result : Except IoFault Unit)
    (failed : IoFault → Program Nat) : Program Nat :=
  match result with
  | .ok () => return 0
  | .error fault => failed fault

/- The bits that letters name. -/
def modeBits (letters : List Char) : Nat :=
  letters.foldl
    (fun bits c =>
      bits ||| (match c with | 'r' => 4 | 'w' => 2 | 'x' => 1 | _ => 0))
    0

/- The classes that letters name, as factors of the bits. -/
def modeClasses (letters : List Char) : Nat :=
  if letters.isEmpty || 'a' ∈ letters then
    0o111
  else
    letters.foldl
      (fun bits c =>
        bits ||| (match c with
          | 'u' => 0o100
          | 'g' => 0o010
          | 'o' => 0o001
          | _ => 0))
      0

/- Bits after a change that is written in letters. -/
def changedMode?
    (change : String)
    (mode : Nat) : Option Nat :=
  let cs := change.toList
  if !cs.isEmpty && cs.all (fun c => '0' ≤ c && c ≤ '7') then
    some (cs.foldl (fun n c => n * 8 + (c.toNat - 48)) 0)
  else
    let who := cs.takeWhile fun c => c ∈ ['u', 'g', 'o', 'a']
    match cs.drop who.length with
    | sign :: letters =>
      let bits := modeBits letters * modeClasses who
      match sign with
      | '+' => some (mode ||| bits)
      | '-' => some (mode &&& (0o7777 - bits))
      | '=' =>
        some ((mode &&& (0o7777 - 7 * modeClasses who)) ||| bits)
      | _ => none
    | [] => none

/- Is a name that of a directory? -/
def isDirectory (name : String) : Program Bool :=
  look fun fs dir => fs.names dir Node.isDirectory name

/- Make a directory. -/
def makeOne
    (verbose : Bool)
    (name : String) : Program (Except IoFault Unit) := do
  let result ← change fun fs dir => fs.makeDir dir name
  if verbose && result.toBool then
    put ("mkdir: created directory " ++ quoteEscaped name ++ "\n")
  return result

/- Complain about a directory that was not made. -/
def notMade
    (name : String)
    (fault : IoFault) : Program Unit :=
  complain ("mkdir: cannot create directory " ++ quoteEscaped name ++
    ": " ++ reason fault)

/- A path and those around it, the innermost first. -/
def withParents (name : String) : List String :=
  let names := Path.splitOn '/' name.toList
  ((List.range names.length).map fun i =>
    String.intercalate "/"
      ((names.take (names.length - i)).map String.ofList)).filter
    fun p => p ≠ ""

/- The directories that a name is in, the outermost first. -/
def parentsOf (name : String) : List String :=
  let trimmed :=
    (name.toList.reverse.dropWhile fun c => c = '/').reverse
  ((withParents (String.ofList trimmed)).drop 1).reverse.filter
    fun p => !Path.endsWithSlash p

/-
  Make the directories that a name is in.  Where something else
  stands in the way, that is what is complained about.
-/
def makeParents (verbose : Bool) : List String → Program Bool
  | [] => return true
  | name :: names => do
    if ← isDirectory name then
      makeParents verbose names
    else
      match ← makeOne verbose name with
      | .ok () => makeParents verbose names
      | .error fault =>
        match ← look fun fs dir => fs.stat dir true name with
        | .ok _ => notMade name (.system .notDirectory)
        | .error other =>
          notMade name (if other.isNotFound then fault else other)
        return false

/- Make directories, with those around them for an option. -/
def makeDirectories (args : List String) : Program Nat := do
  let o := given ['m'] args none {}
  if o.names.isEmpty then
    missingOperand "mkdir"
  else
    let verbose := 'v' ∈ o.letters
    each o.names fun name => do
      let within := 'p' ∈ o.letters
      let reached ←
        makeParents verbose (if within then parentsOf name else [])
      let found ← isDirectory name
      if !reached then
        return 1
      else if within && found then
        return 0
      else
        match ← makeOne verbose name with
        | .error fault =>
          notMade name fault
          return 1
        | .ok () =>
          match (o.values.lookup 'm').bind fun m => changedMode? m 0o777 with
          | some mode =>
            let _ ← change fun fs dir => fs.setMode dir name mode
          | none => pure ()
          return 0

/- Remove empty directories. -/
def removeDirectories (args : List String) : Program Nat := do
  let o := given [] args none {}
  if o.names.isEmpty then
    missingOperand "rmdir"
  else
    let names :=
      if 'p' ∈ o.letters then o.names.flatMap withParents else o.names
    each names fun name => do
      let result ← change fun fs dir => fs.removeDir dir name
      match result with
      | .ok () => return 0
      | .error fault =>
        let linked ← isDirectory name
        let unfollowed := Path.endsWithSlash name && linked &&
          fault = .system .notDirectory
        complain ("rmdir: failed to remove " ++ quote name ++ ": " ++
          if unfollowed then "Symbolic link not followed"
          else reason fault)
        return 1

/- The last name of a path as it is written. -/
def writtenName (name : String) : String :=
  let cs := name.toList.reverse.dropWhile fun c => c = '/'
  String.ofList (cs.takeWhile fun c => c ≠ '/').reverse

/- Tell what was removed, if that is asked for. -/
def tellRemoved
    (verbose : Bool)
    (what name : String)
    (result : Except IoFault Unit) : Program Unit := do
  if verbose && result.toBool then
    put ("removed " ++ what ++ quote name ++ "\n")

/- Remove a directory and all below it. -/
def removeDeep
    (verbose : Bool)
    (name : String)
    (place : Place) : Program Nat := do
  let last := writtenName name
  if last = "." || last = ".." then
    complain ("rm: refusing to remove '.' or '..' directory: " ++
      "skipping " ++ quote name)
    return 1
  else if place = [] then
    complain ("rm: it is dangerous to operate recursively on " ++ quote name)
    complain "rm: use --no-preserve-root to override this failsafe"
    return 1
  else
    let result ← changeAll fun fs dir => fs.removeTree dir name
    tellRemoved verbose "directory " name result
    settle result (failOn "rm" "cannot remove" name)

/- Remove files, with whole directories for an option. -/
def remove (args : List String) : Program Nat := do
  let o := given [] args none {}
  let force := 'f' ∈ o.letters
  let deep := 'r' ∈ o.letters || 'R' ∈ o.letters
  let verbose := 'v' ∈ o.letters
  if o.names.isEmpty then
    if force then return 0 else missingOperand "rm"
  else
    each o.names fun name => do
      match ← look fun fs dir => fs.stat dir false name with
      | .error fault =>
        if force && (fault.isNotFound ||
            fault = .system .notDirectory) then
          return 0
        else
          failOn "rm" "cannot remove" name fault
      | .ok (place, .directory _) =>
        if deep then
          removeDeep verbose name place
        else if 'd' ∈ o.letters then
          let result ← change fun fs dir => fs.removeDir dir name
          tellRemoved verbose "directory " name result
          settle result (failOn "rm" "cannot remove" name)
        else
          failOn "rm" "cannot remove" name (.system .isDirectory)
      | .ok _ =>
        let result ← change fun fs dir => fs.unlink dir name
        tellRemoved verbose "" name result
        settle result (failOn "rm" "cannot remove" name)

/- Make files that are missing. -/
def touch (args : List String) : Program Nat := do
  let o := given ['t', 'd', 'r'] args none {}
  if o.names.isEmpty then
    complain "touch: missing file operand"
    complain "Try 'touch --help' for more information."
    return 1
  else
    each o.names fun name => do
      if ← look fun fs dir => fs.pathExists dir name then
        return 0
      else if 'c' ∈ o.letters then
        return 0
      else
        let result ← change fun fs dir => fs.write dir name []
        settle result fun fault => do
          match ← look fun fs dir => fs.stat dir true name with
          | .error other =>
            if fault = .system .isDirectory then
              failOn "touch" "setting times of" name other
            else
              failOn "touch" "cannot touch" name fault
          | .ok _ => failOn "touch" "cannot touch" name fault

end Utility

end PluginStudio

------------------------------------------------------------
-- Links, Copies And Modes
------------------------------------------------------------

namespace PluginStudio

namespace Utility

open Program

/- Where an entry goes that is put at a path or into one. -/
def destination
    (source target : String) : Program Path := do
  if ← isDirectory target then
    return Path.join target ((Path.fileName? source).getD "")
  else
    return target

/- The sources of some arguments, and their target. -/
def sourcesAndTarget? (names : List String) : Option (List String × String) :=
  match names.reverse with
  | target :: source :: more => some ((source :: more).reverse, target)
  | _ => none

/- Make links. -/
def link (args : List String) : Program Nat := do
  let (letters, names) := split args
  let (sources, target) := (sourcesAndTarget? names).getD
    (names, ((names.head?.bind fun n => Path.fileName? n).getD ""))
  if names.isEmpty then
    complain "ln: missing file operand"
    complain "Try 'ln --help' for more information."
    return 1
  each sources fun source => do
    let linked ← look fun fs dir =>
      match fs.stat dir false target with
      | .ok (_, .link _) => true
      | _ => false
    let plain := 'T' ∈ letters || ('n' ∈ letters && linked)
    let place ←
      if plain then pure target else destination source target
    if 'f' ∈ letters then
      let _ ← change fun fs dir => fs.unlink dir place
    if 's' ∈ letters then
      let result ← change fun fs dir =>
        fs.makeLink dir source place
      settle result (failOn "ln" "failed to create symbolic link" place)
    else
      match ← look fun fs dir => fs.read dir source with
      | .error fault => failOn "ln" "failed to access" source fault
      | .ok bytes =>
        let result ← change fun fs dir =>
          fs.create dir place (.file FileSystem.fileMode bytes)
        settle result (failOn "ln" "failed to create hard link" place)

/- Put what stands at a place, and below it, at another. -/
def graft
    (fs : FileSystem)
    (source target : Place) : FileSystem :=
  let entries := fs.nodes.filter fun entry => entry.1.within source
  entries.foldl
    (fun fs entry =>
      fs.put (target ++ entry.1.drop source.length) entry.2)
    fs

/- Copy a directory and all below it. -/
def copyTree
    (fs : FileSystem)
    (dir : Place)
    (source : Place)
    (target : Path) : Except IoFault FileSystem := do
  let made ←
    if fs.names dir Node.isDirectory target then pure fs
    else fs.makeDir dir target
  let (place, _) ← made.stat dir true target
  return graft made source place

/- Why nothing can be copied to a link, if so. -/
def obstacle? (p : Path) : Program (Option String) :=
  look fun fs dir =>
    match fs.stat dir false p, fs.stat dir true p with
    | .ok (_, .link _), .error fault =>
      if fault.isNotFound then
        some ("not writing through dangling symlink " ++ quote p)
      else
        some ("cannot stat " ++ quote p ++ ": " ++ reason fault)
    | _, _ => none

/- Copy files, and directories for an option. -/
def copy (args : List String) : Program Nat := do
  let (letters, names) := split args
  match sourcesAndTarget? names with
  | none =>
    match names with
    | [name] =>
      complain ("cp: missing destination file operand after " ++
        quote name)
    | _ => complain "cp: missing file operand"
    complain "Try 'cp --help' for more information."
    return 1
  | some (sources, target) =>
    let deep := 'r' ∈ letters || 'R' ∈ letters || 'a' ∈ letters
    let follows := 'L' ∈ letters ||
      !(deep || 'd' ∈ letters || 'P' ∈ letters)
    each sources fun source => do
      let p ← destination source target
      match ← look fun fs dir => fs.stat dir follows source with
      | .error fault => failOn "cp" "cannot stat" source fault
      | .ok (_, .link aim) =>
        let _ ← change fun fs dir => fs.unlink dir p
        let result ← change fun fs dir => fs.makeLink dir aim p
        if 'v' ∈ letters && result.toBool then
          put (quote source ++ " -> " ++ quote p ++ "\n")
        settle result (failOn "cp" "cannot create symbolic link" p)
      | .ok (place, .directory _) =>
        if deep then
          let result ← change fun fs dir => copyTree fs dir place p
          if 'v' ∈ letters && result.toBool then
            put (quote source ++ " -> " ++ quote p ++ "\n")
          settle result (failOn "cp" "cannot create directory" p)
        else
          complain ("cp: -r not specified; omitting directory " ++
            quote source)
          return 1
      | .ok (place, node) =>
        let same ← look fun fs dir =>
          match fs.stat dir true p with
          | .ok (other, _) => decide (other = place)
          | .error _ => false
        if same then
          complain ("cp: " ++ quote source ++ " and " ++
            quote p ++ " are the same file")
          return 1
        else if deep && !node.isFile then
          -- A device is not read but made anew.
          let _ ← change fun fs dir => fs.unlink dir p
          let result ← change fun fs dir => fs.create dir p node
          if 'v' ∈ letters && result.toBool then
            put (quote source ++ " -> " ++ quote p ++ "\n")
          settle result (failOn "cp" "cannot create special file" p)
        else if let some problem ← obstacle? p then
          complain ("cp: " ++ problem)
          return 1
        else
          let fresh ← look fun fs dir => !fs.pathExists dir p
          let bytes ← look fun fs dir =>
            ((fs.read dir source).toOption).getD []
          let result ← change fun fs dir => do
            let fs ← fs.write dir p bytes
            if fresh then fs.setMode dir p node.mode else return fs
          if 'v' ∈ letters && result.toBool then
            put (quote source ++ " -> " ++ quote p ++ "\n")
          settle result (failOn "cp" "cannot create regular file" p)

/- Move entries. -/
def move (args : List String) : Program Nat := do
  let (letters, names) := split args
  match sourcesAndTarget? names with
  | none =>
    match names with
    | [name] =>
      complain ("mv: missing destination file operand after " ++
        quote name)
    | _ => complain "mv: missing file operand"
    complain "Try 'mv --help' for more information."
    return 1
  | some (sources, target) =>
    each sources fun source => do
      let p ← destination source target
      match ← look fun fs dir => fs.stat dir false source with
      | .error fault => failOn "mv" "cannot stat" source fault
      | .ok _ =>
        let result ← change fun fs dir => fs.rename dir source p
        if 'v' ∈ letters && result.toBool then
          put ("renamed " ++ quote source ++ " -> " ++
            quote p ++ "\n")
        settle result fun fault => do
          let shown := quote p
          if fault = .system .invalidArgument then
            complain ("mv: cannot move " ++ quote source ++
              " to a subdirectory of itself, " ++ shown)
          else
            complain ("mv: cannot move " ++ quote source ++ " to " ++
              shown ++ ": " ++ reason fault)
          return 1

/- Change permission bits. -/
def changeMode (args : List String) : Program Nat := do
  let names := args.filter fun arg => arg ≠ "-R" && arg ≠ "--"
  match names with
  | [] => missingOperand "chmod"
  | [mode] =>
    complain ("chmod: missing operand after " ++ quoteEscaped mode)
    complain "Try 'chmod --help' for more information."
    return 1
  | mode :: files =>
    each files fun name => do
      match ← look fun fs dir => fs.stat dir true name with
      | .error fault => failOn "chmod" "cannot access" name fault
      | .ok (_, node) =>
        match changedMode? mode node.mode with
        | none =>
          complain ("chmod: invalid mode: " ++ quoteEscaped mode)
          complain "Try 'chmod --help' for more information."
          return 1
        | some bits =>
          let result ← change fun fs dir =>
            fs.setMode dir name bits
          settle result
            (failOn "chmod" "changing permissions of" name)

/- Show where links lead. -/
def readLink (args : List String) : Program Nat := do
  let (letters, names) := split args
  if names.isEmpty then
    missingOperand "readlink"
  else
    each names fun name => do
      if 'f' ∈ letters || 'e' ∈ letters then
        match ← look fun fs dir => fs.resolve dir .target name with
        | .ok (.found place _) =>
          put (place.path ++ "\n")
          return 0
        | .ok (.vacant dir last) =>
          put (Place.path (dir ++ [last]) ++ "\n")
          return 0
        | .error _ => return 1
      else
        match ← look fun fs dir => fs.stat dir false name with
        | .ok (_, .link target) =>
          put (target ++ "\n")
          return 0
        | _ => return 1

end Utility

end PluginStudio

------------------------------------------------------------
-- Listing And Finding
------------------------------------------------------------

namespace PluginStudio

namespace Utility

open Program

/- Names in the order of their bytes. -/
def sortNames (names : List String) : List String :=
  names.mergeSort fun a b => a ≤ b

/- The names that a listing shows. -/
def shownNames
    (letters : List Char)
    (entries : List (String × Node)) : List String :=
  let names := entries.map fun entry => entry.1
  let hidden (name : String) : Bool := name.toList.head? = some '.'
  if 'a' ∈ letters then
    [".", ".."] ++ sortNames names
  else if 'A' ∈ letters then
    sortNames names
  else
    sortNames (names.filter fun name => !hidden name)

/- Lines, each with its end. -/
def lines (texts : List String) : String :=
  String.join (texts.map fun text => text ++ "\n")

/- Show what directories hold. -/
def list (args : List String) : Program Nat := do
  let (letters, names) := split args
  let names := if names.isEmpty then ["."] else sortNames names
  let isDir (name : String) : Program Bool :=
    look fun fs dir =>
      'd' ∉ letters && fs.names dir Node.isDirectory name
  let seen (name : String) : Program (Except IoFault Unit) :=
    look fun fs dir => do
      let _ ← fs.stat dir false name
      match fs.stat dir true name with
      | .error (.system .notDirectory) =>
        if 'd' ∈ letters || 'l' ∈ letters then return ()
        else .error (.system .notDirectory)
      | _ => return ()
  let status ← each names fun name => do
    match ← seen name with
    | .error fault =>
      let _ ← failOn "ls" "cannot access" name fault
      return 2
    | .ok () =>
      if !(← isDir name) then put (name ++ "\n")
      return 0
  let shown ← names.filterM fun name => do
    return (← seen name).toBool
  let others ← each names fun name => do
    if ← isDir name then
      match ← look fun fs dir => fs.list dir name with
      | .error _ => return 2
      | .ok entries =>
        if 1 < names.length then
          put ((if shown.head? = some name then "" else "\n") ++
            name ++ ":\n")
        put (lines (shownNames letters entries))
        return 0
    else
      return 0
  return max status others

/- What a search asks of an entry. -/
inductive Wish where
  | kind (c : Char)
  | name (shape : String)
  | hollow
  | anything

/- Wishes that all have to hold, negated or not, between "or"s. -/
abbrev Wishes :=
  List (List (Bool × Wish))

/- Depths at which a search looks, and what it looks for. -/
structure Wanted where
  wishes : Wishes := [[]]
  most? : Option Nat := none
  least : Nat := 0

/- With one wish more. -/
def Wanted.also
    (w : Wanted)
    (negated : Bool)
    (wish : Wish) : Wanted :=
  match w.wishes with
  | [] => { w with wishes := [[(negated, wish)]] }
  | group :: groups =>
    { w with wishes := ((negated, wish) :: group) :: groups }

/- What a search is told to ask for. -/
def wanted : List String → Bool → Wanted → Wanted
  | "-type" :: kind :: args, negated, w =>
    wanted args false (w.also negated (.kind ((kind.toList.head?).getD 'f')))
  | "-name" :: name :: args, negated, w =>
    wanted args false (w.also negated (.name name))
  | "-maxdepth" :: n :: args, _, w =>
    wanted args false { w with most? := n.toNat? }
  | "-mindepth" :: n :: args, _, w =>
    wanted args false { w with least := n.toNat?.getD 0 }
  | "-empty" :: args, negated, w => wanted args false (w.also negated .hollow)
  | "-o" :: args, _, w => wanted args false { w with wishes := [] :: w.wishes }
  | "!" :: args, negated, w => wanted args (!negated) w
  | "-not" :: args, negated, w => wanted args (!negated) w
  | _ :: args, negated, w => wanted args false (w.also negated .anything)
  | [], _, w => w

/- Is an entry of a kind? -/
def ofKind
    (kind : Char)
    (node : Node) : Bool :=
  match kind, node with
  | 'f', .file _ _ => true
  | 'd', .directory _ => true
  | 'l', .link _ => true
  | _, _ => false

/- Does an entry meet a wish? -/
def Wish.isMet
    (accepts : String → String → Bool)
    (fs : FileSystem)
    (place : Place)
    (label : String)
    (node : Node) : Wish → Bool
  | .kind c => ofKind c node
  | .name shape => accepts shape label
  | .anything => true
  | .hollow =>
    match node with
    | .file _ bytes => bytes.isEmpty
    | .directory _ => !fs.hasChildren place
    | _ => false

/- The names of an entry below a start. -/
def below
    (start : String)
    (names : List String) : String :=
  let rest := String.intercalate "/" names
  if names.isEmpty then start
  else if start.toList.getLast? = some '/' then start ++ rest
  else start ++ "/" ++ rest

/- Show what lies below some places. -/
def find
    (accepts : String → String → Bool)
    (args : List String) : Program Nat := do
  let starts := args.takeWhile fun arg =>
    arg.toList.head? ≠ some '-' && arg ≠ "!"
  let w := wanted (args.drop starts.length) false {}
  let starts := if starts.isEmpty then ["."] else starts
  each starts fun start => do
    match ← look fun fs dir => fs.stat dir false start with
    | .error fault =>
      complain ("find: " ++ quoteEscaped start ++ ": " ++ reason fault)
      return 1
    | .ok (place, _) =>
      let machine ← get
      let entries := (machine.files.nodes.filter fun entry =>
        entry.1.within place).mergeSort fun a b =>
          !List.lex b.1 a.1 fun s t => decide (s < t)
      let chosen := entries.filter fun entry =>
        let depth := entry.1.length - place.length
        let label := (entry.1.getLast?).getD ""
        w.least ≤ depth && (w.most?.all fun most => depth ≤ most) &&
          w.wishes.any fun group => group.all fun (negated, wish) =>
            wish.isMet accepts machine.files entry.1 label entry.2 != negated
      put (lines (chosen.map fun entry =>
        below start (entry.1.drop place.length)))
      return 0

end Utility

end PluginStudio
