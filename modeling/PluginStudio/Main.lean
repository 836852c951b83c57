import PluginStudio.Cli.Run
import PluginStudio.Host

/-
  The program.

  Key definitions include:
    * `main`

  The files that the arguments name are brought to a host of
  its own, on which the work is done, and what is new there is
  brought back.
-/

------------------------------------------------------------
-- Files In And Out
------------------------------------------------------------

namespace PluginStudio

namespace Main

/- The place of a path, seen from a directory. -/
def placeOf (dir p : Path) : Place :=
  (Path.splitOn '/' (Path.join dir p).toList).filterMap fun name =>
    if name.isEmpty || name = ['.'] then none else some (String.ofList name)

/- A host with directories down to a place. -/
def withDirs (files : FileSystem) (place : Place) : FileSystem :=
  (files.makeDirs [] place.path).2

/- Bring a file or a directory with all below it. -/
partial def bring
    (files : FileSystem)
    (path : String)
    (place : Place) : IO FileSystem := do
  let real ← IO.FS.realPath path
  let entries? ← (some <$> real.readDir) <|> pure none
  match entries? with
  | some entries =>
    let mut files := withDirs files place
    for entry in entries do
      files ← bring files entry.path.toString
        (place ++ [Path.ofText entry.fileName])
    return files
  | none =>
    let bytes? ← (some <$> IO.FS.readBinFile path) <|> pure none
    match bytes? with
    | none => return files
    | some bytes =>
      let files := withDirs files place.dropLast
      return files.put place (.file 0o755 bytes.toList)

/- The part of an argument that may be a path. -/
def pathPart (arg : String) : String :=
  match arg.splitOn "=" with
  | _ :: part :: _ => part
  | _ => arg

/- Bring all that arguments name. -/
def bringAll
    (dir : Path)
    (args : List String)
    (files : FileSystem) : IO FileSystem := do
  let mut files := withDirs files (placeOf "" dir)
  for arg in args do
    let path := pathPart arg
    if path ≠ "" && path.toList.head? ≠ some '-' then
      files ← bring files path (placeOf dir (.ofText path))
  return files

/- Bring back the files that are new or changed. -/
def bringBack (before after : FileSystem) : IO Unit := do
  for (place, node) in after.nodes do
    match node with
    | .file _ bytes =>
      let same :=
        match before.node? place with
        | some (.file _ old) => old = bytes
        | _ => false
      if !same then
        IO.FS.createDirAll (Place.path place.dropLast).display
        IO.FS.writeBinFile (Place.path place).display ⟨bytes.toArray⟩
    | _ => pure ()

/- Variables that the program looks at. -/
def variableNames : List String :=
  ["PATH", "RUST_LOG", "NO_COLOR", "FORCE_COLOR", "CLICOLOR_FORCE",
    "CLICOLOR", "COLORTERM", "TERM", "TERM_PROGRAM", "IGNORE_IS_TERMINAL",
    "DISPLAY", "WAYLAND_DISPLAY", Launcher.headlessVar,
    Settings.resourcesVar, Settings.workspaceVar, Settings.mavenHomeVar]

/- The environment of the program. -/
def environment : IO Environment := do
  let mut env : Environment := []
  for name in variableNames do
    match ← IO.getEnv name with
    | some value => env := env.set name (Utf8.encode value)
    | none => pure ()
  return env

/- What the program is run with.  Its network lets no one in. -/
def surroundings
    (env : Environment)
    (programDir : Path) : Cli.Surroundings where
  env := env
  programDir := programDir
  run := Host.run env
  start := fun command => do
    let result ← Host.perform env true command
    return result.map fun (_, out, err) => (out, err)
  network := .isolated
  visits := []

end Main

end PluginStudio

------------------------------------------------------------
-- The Program
------------------------------------------------------------

open PluginStudio

/- Run the program. -/
def main (args : List String) : IO UInt32 := do
  let dir := Path.ofText (← IO.currentDir).toString
  let program := Path.ofText (← IO.appPath).toString
  let programDir := (program.parent?).getD "/"
  let env ← Main.environment
  let files ← Main.bringAll dir args Host.files
  let world : World :=
    ⟨files, Main.placeOf "" dir, ← IO.monoMsNow, [], []⟩
  let (ending, after) :=
    (Cli.run (Main.surroundings env programDir) args).run world
  Main.bringBack files after.files
  (← IO.getStdout).putStr ending.screen.out
  (← IO.getStderr).putStr ending.screen.err
  return UInt32.ofNat ending.code
