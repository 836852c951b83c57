import PluginStudio.Host
import PluginStudio.Proofs.Files.Changes
import PluginStudio.Proofs.Studio
import PluginStudio.Toolchain.Resolve

/-
  The tool that is chosen and the tool that is run.

  Key definitions include:
    * `PluginStudio.Shell.launchAt`
    * `PluginStudio.Host.runAt`
    * `PluginStudio.Toolchain.Bundles`
    * `PluginStudio.Toolchain.Shared`
    * `PluginStudio.Toolchain.RunsAt`

  Main declarations:
    * `Shell.launch_of_stat`, `Host.run_eq_runAt`
    * `Toolchain.stat_home`
    * `Toolchain.bundles_resolve`, `Toolchain.resolve_files`
    * `Toolchain.invoke_bundled`
    * `Toolchain.invoke_relative`

  A tool is chosen by a path that is walked from the directory of
  the studio, and it is run by the same path, walked from the
  directory of a project.  To run the file at a place takes no
  walk.  The two are compared through it: from an absolute home
  the chosen file is the one that is run, and from any other home
  it need not even be found.
-/

------------------------------------------------------------
-- Program Files At Places
------------------------------------------------------------

namespace PluginStudio

namespace Shell

/- Run the program file at a place, whatever it is called by. -/
def launchAt (place : Place) : Launch := fun file process machine =>
  match machine.files.node? place with
  | none => (.error (.system .noEntry), machine)
  | some node =>
    startNode (shell mostLevels)
      (launchWith (shell mostLevels) (mostInterpreters - 1)) node file
      process machine

/- A program file is looked up once, and then started. -/
theorem launchWith_succ
    (shell : Process → StateM Machine ExitStatus)
    (depth : Nat)
    (file : Path)
    (process : Process)
    (machine : Machine) :
    launchWith shell (depth + 1) file process machine =
      match machine.files.stat process.dir true file with
      | .error fault => (.error fault, machine)
      | .ok (_, node) =>
        startNode shell (launchWith shell depth) node file process
          machine := by
  simp only [launchWith, bind, StateT.bind, get, getThe,
    MonadStateOf.get, StateT.get, pure]
  cases machine.files.stat process.dir true file <;> rfl

/- The file that a name leads to is the file that is run. -/
theorem launch_of_stat
    {file : Path}
    {process : Process}
    {machine : Machine}
    {place : Place}
    {node : Node}
    (hStat :
      machine.files.stat process.dir true file = .ok (place, node)) :
    launch file process machine =
      launchAt place file process machine := by
  unfold launch mostInterpreters launchAt
  rw [launchWith_succ, hStat, FileSystem.node?_of_stat hStat]
  rfl

/- A variable that is given has its value. -/
theorem lookup_assocSet
    {α : Type}
    (key : String)
    (value : α)
    (entries : List (String × α)) :
    (assocSet key value entries).lookup key = some value := by
  induction entries with
  | nil => simp [assocSet]
  | cons entry entries ih =>
      unfold assocSet
      by_cases hKey : entry.1 = key
      · simp [hKey]
      · have hOther : (key == entry.1) = false := by
          simpa using fun hEq => hKey hEq.symm
        rw [if_neg hKey, List.lookup_cons, hOther]
        exact ih

end Shell

end PluginStudio

------------------------------------------------------------
-- Commands With A Program At A Place
------------------------------------------------------------

namespace PluginStudio

namespace Host

/- Any command that is run takes its program from a place. -/
def runAt
    (place : Place)
    (vars : Environment) : Tool.Runner := fun command => do
  let result ← performBy (Shell.launchAt place) vars false command
  return result.map fun (status, output, _) => ⟨status, output⟩

/- A program with a slash in its name is not searched for. -/
theorem execute_of_slash
    {name : Path}
    (hSlash : '/' ∈ name.toList) :
    execute name = Shell.launch name := by
  have hNe : name ≠ "" := by
    rintro rfl
    simp at hSlash
  unfold execute
  simp [hNe, hSlash]

/-
  The file that a command's program names, seen from the
  command's directory, is the file that is run.
-/
theorem run_eq_runAt
    (vars : Environment)
    {command : Command}
    (hSlash : '/' ∈ command.program.toList)
    {world : World}
    {inside place : Place}
    {node : Node}
    (hInside :
      enterDir world.files world.dir command.dir = .ok inside)
    (hStat :
      world.files.stat inside true command.program =
        .ok (place, node)) :
    run vars command world = runAt place vars command world := by
  have hPerform :
      perform vars false command world =
        performBy (Shell.launchAt place) vars false command world := by
    unfold perform performBy
    rw [hInside, execute_of_slash hSlash]
    dsimp only [StateT.run]
    rw [Shell.launch_of_stat hStat]
  unfold run runAt
  rw [Studio.bind_apply, Studio.bind_apply, hPerform]

/- A program that is not found is not run. -/
theorem run_of_missing
    (vars : Environment)
    {command : Command}
    (hFit : isUnfit command = false)
    (hSlash : '/' ∈ command.program.toList)
    {world : World}
    {inside : Place}
    {fault : IoFault}
    (hInside :
      enterDir world.files world.dir command.dir = .ok inside)
    (hStat :
      world.files.stat inside true command.program = .error fault) :
    (run vars command world).1 = .error fault := by
  have hPerform :
      (perform vars false command world).1 = .error fault := by
    unfold perform performBy
    rw [if_neg (by simp [hFit]), hInside, execute_of_slash hSlash]
    dsimp only [StateT.run]
    unfold Shell.launch Shell.mostInterpreters
    rw [Shell.launchWith_succ, hStat]
    rfl
  unfold run
  rw [Studio.bind_apply, hPerform]
  rfl

/- A path that leads somewhere can be handed to a program. -/
theorem hasZero_of_check
    {p : Path}
    (hCheck : p.check = .ok ()) :
    hasZero p = false := by
  unfold Path.check at hCheck
  unfold hasZero
  by_contra hZero
  rw [Bool.not_eq_false] at hZero
  rw [if_pos hZero] at hCheck
  contradiction

theorem check_of_enterDir
    {fs : FileSystem}
    {dir inside : Place}
    {p : Path}
    (hInside : enterDir fs dir p = .ok inside) :
    p.check = .ok () := by
  unfold enterDir FileSystem.stat FileSystem.resolve at hInside
  cases hCheck : p.check with
  | ok u => rfl
  | error fault =>
      rw [hCheck] at hInside
      contradiction

end Host

namespace Tool

/- A tool that cannot be run fails to start. -/
theorem invoke_of_fault
    {run : Runner}
    (tool : Toolchain)
    (project : Path)
    (world : World)
    {fault : IoFault}
    (hRun :
      ∀ w : World, w.files = world.files → w.dir = world.dir →
        (run (tool.command project) w).1 = .error fault) :
    (invoke run tool project world).1 =
      .error (.spawn tool.program fault) := by
  unfold invoke
  change ((Studio.report _ _ _ _ >>= _) world).1 = _
  rw [Studio.bind_apply, Studio.bind_apply,
    hRun (Studio.report _ _ _ _ world).2 rfl rfl]
  rfl

/- Running a tool asks for one run, in files as they are found. -/
theorem invoke_congr
    {run run' : Runner}
    (tool : Toolchain)
    (project : Path)
    (world : World)
    (hRun :
      ∀ w : World, w.files = world.files → w.dir = world.dir →
        run (tool.command project) w = run' (tool.command project) w) :
    invoke run tool project world = invoke run' tool project world := by
  unfold invoke
  change
    (Studio.report _ _ _ _ >>= _) world =
      (Studio.report _ _ _ _ >>= _) world
  rw [Studio.bind_apply, Studio.bind_apply, Studio.bind_apply,
    Studio.bind_apply,
    hRun (Studio.report _ _ _ _ world).2 rfl rfl]

end Tool

end PluginStudio

------------------------------------------------------------
-- Homes
------------------------------------------------------------

namespace PluginStudio

namespace Toolchain

open FileSystem

theorem isAbsolute_bundled (home : Path) :
    (bundled home).isAbsolute = home.isAbsolute := by
  unfold bundled
  rw [Path.isAbsolute_join _ (by decide),
    Path.isAbsolute_join _ (by decide)]

theorem names_bin (home : Path) :
    (home.join "bin").names = home.names ++ ["bin"] := by
  have hBin : Path.names "bin" = ["bin"] :=
    Path.names_of_isName (by decide)
  rw [Path.names_join home (by decide), hBin]

/- A bundled tool is walked to through its home. -/
theorem steps_bundled (home : Path) :
    (bundled home).steps = (home.names ++ ["bin"]) ++ ["mvn"] := by
  have hEnds : (bundled home).endsWithSlash = false :=
    (Path.endsInName_join (home.join "bin") (by decide)).1
  have hTool : Path.names "mvn" = ["mvn"] :=
    Path.names_of_isName (by decide)
  unfold Path.steps
  rw [if_neg (by simp [hEnds])]
  unfold bundled searchedProgram
  rw [Path.names_join _ (by decide), names_bin, hTool]

theorem slash_mem_bundled (home : Path) :
    '/' ∈ (bundled home).toList := by
  unfold bundled searchedProgram
  rcases Path.join_cases (home.join "bin") (p := "mvn") (by decide) with
    ⟨hEmpty, _⟩ | ⟨dir, _, hJoin⟩ | ⟨_, hJoin⟩
  · have hNames := names_bin home
    rw [hEmpty] at hNames
    simp at hNames
  · simp [hJoin]
  · simp [hJoin]

/- A home is written at the start of the tool's path. -/
theorem bundled_eq_append (home : Path) :
    ∃ rest, bundled home = home ++ rest := by
  have hJoin (dir : Path) {p : Path} (hRelative : p.isAbsolute = false) :
      ∃ rest, dir.join p = dir ++ rest := by
    unfold Path.join
    rw [if_neg (by simp [hRelative])]
    split
    · exact ⟨p, rfl⟩
    · exact ⟨"/" ++ p, String.append_assoc⟩
  rcases hJoin home (p := "bin") (by decide) with ⟨bin, hBin⟩
  rcases hJoin (home.join "bin") (p := "mvn") (by decide) with
    ⟨name, hName⟩
  refine ⟨bin ++ name, ?_⟩
  unfold bundled searchedProgram
  rw [hName, hBin, String.append_assoc]

/- What is wrong with a home is wrong with the tool's path. -/
theorem check_home
    {home : Path}
    (hNe : home ≠ "")
    (hCheck : (bundled home).check = .ok ()) :
    home.check = .ok () := by
  rcases bundled_eq_append home with ⟨rest, hBundled⟩
  rw [hBundled] at hCheck
  unfold Path.check at hCheck ⊢
  split_ifs at hCheck with hZero hEmpty hLong
  rw [if_neg, if_neg hNe, if_neg]
  · intro hLonger
    apply hLong
    rw [String.length_append]
    omega
  · intro hHome
    apply hZero
    simp_all

/- The home of a bundled tool is a directory. -/
theorem stat_home
    {fs : FileSystem}
    {dir place : Place}
    {home : Path}
    {mode : Nat}
    {content : Bytes}
    (hNe : home ≠ "")
    (hBundled :
      fs.stat dir true (bundled home) =
        .ok (place, .file mode content)) :
    ∃ spot bits, fs.stat dir true home = .ok (spot, .directory bits) := by
  rcases stat_file_iff.mp hBundled with ⟨hCheck, hWalk⟩
  rw [steps_bundled, walk_append (by simp) (by simp),
    advance_append] at hWalk
  have hStart : startOf dir (bundled home) = startOf dir home := by
    unfold startOf
    rw [isAbsolute_bundled]
  rw [hStart] at hWalk
  cases hReach : fs.advance mostLinks (startOf dir home) home.names with
  | error errno =>
      rw [hReach] at hWalk
      contradiction
  | ok r =>
      rcases r with ⟨spot, links⟩
      have hDirectory :=
        (stat_directory_iff (check_home hNe hCheck) spot).mpr
          ⟨links, hReach⟩
      rcases hDirectory with ⟨bits, hStat⟩
      exact ⟨spot, bits, hStat⟩

/-
  The tool that is bundled in a home stands at a place, and it
  can be run.
-/
def Bundles
    (home : Path)
    (place : Place)
    (content : Bytes)
    (world : World) : Prop :=
  ∃ mode,
    isExecutable mode = true ∧
      world.files.stat world.dir true (bundled home) =
        .ok (place, .file mode content)

/- Other permission bits for a file lead to the file as before. -/
theorem stat_setMode
    {fs : FileSystem}
    {dir place : Place}
    {p : Path}
    {mode : Nat}
    {content : Bytes}
    (hStat : fs.stat dir true p = .ok (place, .file mode content))
    (bits : Nat) :
    fs.setMode dir p bits = .ok (fs.put place (.file bits content)) ∧
      (fs.put place (.file bits content)).stat dir true p =
        .ok (place, .file bits content) := by
  have hNode := node?_of_stat hStat
  have hNe : place ≠ [] := by
    rintro rfl
    simp at hNode
  constructor
  · unfold setMode
    rw [hStat]
    rfl
  · apply stat_of_keeps _ _ hStat
    · intro q node hOld hKind
      rw [node?_put fs hNe, if_neg, hOld]
      rintro rfl
      rw [hNode, Option.some.injEq] at hOld
      subst hOld
      simp [Node.isDirectory] at hKind
    · rw [node?_put fs hNe, if_pos rfl]

/- A file that is there can be made executable. -/
theorem ensureExecutable_of_stat
    {p : Path}
    {world : World}
    {place : Place}
    {mode : Nat}
    {content : Bytes}
    (hStat :
      world.files.stat world.dir true p =
        .ok (place, .file mode content)) :
    ∃ changed files bits,
      ensureExecutable p world =
          (.ok changed, { world with files := files }) ∧
        isExecutable bits = true ∧
          files.stat world.dir true p =
              .ok (place, .file bits content) ∧
            (files = world.files ∨
              files =
                world.files.put place (.file bits content)) := by
  unfold ensureExecutable
  rw [Studio.bind_apply, Studio.inspect_apply, hStat]
  dsimp only
  by_cases hMode : isExecutable (Node.file mode content).mode = true
  · rw [if_pos hMode]
    exact ⟨false, world.files, mode, rfl, hMode, hStat, Or.inl rfl⟩
  · rw [if_neg hMode, Studio.bind_apply]
    rcases stat_setMode hStat 0o755 with ⟨hSet, hAfter⟩
    refine ⟨true, _, 0o755, ?_, by decide, hAfter, Or.inr rfl⟩
    unfold Studio.onFile
    rw [Studio.onFiles_apply]
    dsimp only
    rw [hSet]
    rfl

/- A bundled tool is chosen by its path, and can be run then. -/
theorem bundles_resolve
    {home : Path}
    {world : World}
    {place : Place}
    {mode : Nat}
    {content : Bytes}
    (hBundled :
      world.files.stat world.dir true (bundled home) =
        .ok (place, .file mode content)) :
    (resolve home world).1 = .direct (bundled home) home ∧
      Bundles home place content (resolve home world).2 := by
  have hNames :
      world.files.names world.dir Node.isFile (bundled home) = true := by
    unfold FileSystem.names
    rw [hBundled]
    rfl
  rcases ensureExecutable_of_stat hBundled with
    ⟨changed, files, bits, hEnsure, hBits, hAfter, -⟩
  unfold resolve
  dsimp only
  rw [Studio.bind_apply, Studio.inspect_apply, hNames, if_pos rfl,
    Studio.bind_apply, hEnsure]
  cases changed <;> exact ⟨rfl, bits, hBits, hAfter⟩

/- Where a path names a file, it leads to one. -/
theorem stat_of_names_isFile
    {fs : FileSystem}
    {dir : Place}
    {p : Path}
    (hNames : fs.names dir Node.isFile p = true) :
    ∃ place mode content,
      fs.stat dir true p = .ok (place, .file mode content) := by
  unfold FileSystem.names at hNames
  rcases hStat : fs.stat dir true p with fault | ⟨place, node⟩
  · rw [hStat] at hNames
    contradiction
  · rw [hStat] at hNames
    cases node with
    | file mode content => exact ⟨place, mode, content, rfl⟩
    | _ => contradiction

/- To choose a tool changes the bits of its file at most. -/
theorem resolve_files
    (home : Path)
    (world : World) :
    (resolve home world).2.dir = world.dir ∧
      ((resolve home world).2.files = world.files ∨
        ∃ place mode bits content,
          world.files.stat world.dir true (bundled home) =
              .ok (place, .file mode content) ∧
            (resolve home world).2.files =
              world.files.put place (.file bits content)) := by
  unfold resolve
  dsimp only
  rw [Studio.bind_apply, Studio.inspect_apply]
  cases hNames :
      world.files.names world.dir Node.isFile (bundled home) with
  | false => exact ⟨rfl, Or.inl rfl⟩
  | true =>
      rcases stat_of_names_isFile hNames with
        ⟨place, mode, content, hStat⟩
      rcases ensureExecutable_of_stat hStat with
        ⟨changed, files, bits, hEnsure, -, -, hFiles⟩
      rw [if_pos rfl, Studio.bind_apply, hEnsure]
      have hAfter :
          files = world.files ∨
            ∃ place mode bits content,
              world.files.stat world.dir true (bundled home) =
                  .ok (place, .file mode content) ∧
                files =
                  world.files.put place (.file bits content) := by
        rcases hFiles with hSame | hPut
        · exact Or.inl hSame
        · exact Or.inr ⟨place, mode, bits, content, hStat, hPut⟩
      cases changed <;> exact ⟨rfl, hAfter⟩

end Toolchain

end PluginStudio

------------------------------------------------------------
-- The Tool That Runs
------------------------------------------------------------

namespace PluginStudio

namespace Toolchain

open FileSystem

/-
  Paths of a home lead from the two directories to the same
  places: because it is absolute, or because they are one.
-/
def Shared
    (home : Path)
    (dir inside : Place) : Prop :=
  home.isAbsolute = true ∨ home ≠ "" ∧ inside = dir

namespace Shared

variable {home : Path} {dir inside : Place}

theorem ne_empty (hShared : Shared home dir inside) : home ≠ "" := by
  rcases hShared with hAbsolute | ⟨hNe, _⟩
  · rintro rfl
    exact absurd hAbsolute (by decide)
  · exact hNe

/- A path that starts as the home does leads to one place. -/
theorem stat
    (hShared : Shared home dir inside)
    {p : Path}
    (hStart : p.isAbsolute = home.isAbsolute)
    (fs : FileSystem) :
    fs.stat inside true p = fs.stat dir true p := by
  apply stat_of_startOf
  unfold startOf
  rw [hStart]
  rcases hShared with hAbsolute | ⟨_, rfl⟩
  · rw [if_pos hAbsolute, if_pos hAbsolute]
  · rfl

end Shared

/- The variable of the home, in what the tool is started with. -/
theorem lookup_homeVar
    (vars : Environment)
    (tool : Toolchain)
    (project : Path) :
    (Host.programVars vars (tool.command project).vars).lookup homeVar =
      some tool.home :=
  Shell.lookup_assocSet homeVar tool.home _

/- A chosen tool and what it is started with hold no zero. -/
theorem isUnfit_command
    {fs : FileSystem}
    {dir inside : Place}
    {home project : Path}
    (hBundled : (bundled home).check = .ok ())
    (hInside : Host.enterDir fs dir project = .ok inside) :
    Host.isUnfit ((direct (bundled home) home).command project) =
      false := by
  have hProgram := Host.hasZero_of_check hBundled
  have hProject :=
    Host.hasZero_of_check (Host.check_of_enterDir hInside)
  have hHome : Host.hasZero home = false := by
    by_cases hNe : home = ""
    · subst hNe
      decide
    · exact Host.hasZero_of_check (check_home hNe hBundled)
  have hVar : Host.hasZero homeVar = false := by decide
  have hArgs : buildArgs.any Host.hasZero = false := by decide
  unfold Host.isUnfit
  simp [command, direct, hProgram, hProject, hHome, hVar, hArgs]

/-
  A tool that is invoked in a project runs the file at a place,
  and it is told of a home that is in the project what it is in
  the studio's directory.
-/
structure RunsAt
    (vars : Environment)
    (tool : Toolchain)
    (place : Place)
    (content : Bytes)
    (world : World)
    (project : Path)
    (inside : Place) : Prop where
  program :
    ∃ bits,
      isExecutable bits = true ∧
        world.files.stat inside true tool.program =
          .ok (place, .file bits content)
  invoke :
    Tool.invoke (Host.run vars) tool project world =
      Tool.invoke (Host.runAt place vars) tool project world
  told :
    (Host.programVars vars (tool.command project).vars).lookup
      homeVar = some tool.home
  home :
    ∃ spot bits,
      world.files.stat world.dir true tool.home =
          .ok (spot, .directory bits) ∧
        world.files.stat inside true tool.home =
          .ok (spot, .directory bits)

/-
  What runs is what the chosen path names in the project, and if
  the home is shared it is the file that was chosen, wherever
  that file still stands when a project is built.
-/
theorem invoke_bundled
    (vars : Environment)
    (home : Path)
    (world : World)
    {place : Place}
    {mode : Nat}
    {content : Bytes}
    (hBundled :
      world.files.stat world.dir true (bundled home) =
        .ok (place, .file mode content)) :
    let tool := (resolve home world).1
    tool = direct (bundled home) home ∧
      Bundles home place content (resolve home world).2 ∧
      ∀ (later : World) (project : Path) (inside : Place),
        Host.enterDir later.files later.dir project = .ok inside →
          (∀ fault,
            later.files.stat inside true tool.program = .error fault →
              (Tool.invoke (Host.run vars) tool project later).1 =
                .error (.spawn tool.program fault)) ∧
          (∀ found node,
            later.files.stat inside true tool.program =
                .ok (found, node) →
              Tool.invoke (Host.run vars) tool project later =
                Tool.invoke (Host.runAt found vars) tool project
                  later) ∧
          (Bundles home place content later →
            Shared home later.dir inside →
              RunsAt vars tool place content later project inside) := by
  dsimp only
  rcases bundles_resolve hBundled with ⟨hTool, hAfter⟩
  refine ⟨hTool, hAfter, ?_⟩
  rw [hTool]
  intro later project inside hInside
  have hSlash :
      '/' ∈
        ((direct (bundled home) home).command project).program.toList :=
    slash_mem_bundled home
  have hFit :=
    isUnfit_command (stat_file_iff.mp hBundled).1 hInside
  have hRuns :
      ∀ found node,
        later.files.stat inside true (bundled home) =
            .ok (found, node) →
          Tool.invoke (Host.run vars) (direct (bundled home) home)
              project later =
            Tool.invoke (Host.runAt found vars)
              (direct (bundled home) home) project later := by
    intro found node hStat
    apply Tool.invoke_congr
    intro w hFiles hDir
    apply Host.run_eq_runAt vars hSlash
    · rw [hFiles, hDir]
      exact hInside
    · rw [hFiles]
      exact hStat
  refine ⟨?_, hRuns, ?_⟩
  · intro fault hStat
    apply Tool.invoke_of_fault
    intro w hFiles hDir
    apply Host.run_of_missing vars hFit hSlash
    · rw [hFiles, hDir]
      exact hInside
    · rw [hFiles]
      exact hStat
  · rintro ⟨bits, hBits, hStat⟩ hShared
    have hProgram :
        later.files.stat inside true (bundled home) =
          .ok (place, .file bits content) := by
      rw [hShared.stat (isAbsolute_bundled home)]
      exact hStat
    rcases stat_home hShared.ne_empty hStat with ⟨spot, mode, hHome⟩
    have hInProject :
        later.files.stat inside true home =
          .ok (spot, .directory mode) := by
      rw [hShared.stat rfl]
      exact hHome
    constructor
    · exact ⟨bits, hBits, hProgram⟩
    · exact hRuns place _ hProgram
    · exact lookup_homeVar vars (direct (bundled home) home) project
    · exact ⟨spot, mode, hHome, hInProject⟩

/- A home beside the project `Hello`, in the studio's directory. -/
def beside : World where
  files :=
    { nodes :=
        [
          (["srv"], .directory 0o755),
          (["srv", "maven"], .directory 0o755),
          (["srv", "maven", "bin"], .directory 0o755),
          (["srv", "maven", "bin", "mvn"],
            .file 0o644 (Utility.image "true")),
          (["srv", "builds"], .directory 0o755),
          (["srv", "builds", "Hello"], .directory 0o755)
        ] }
  dir := ["srv"]
  clock := 0
  journal := []
  moments := []

/- The tool is found and run by the absolute path of its home. -/
theorem invoke_bundled_beside :
    let tool := (resolve "/srv/maven" beside).1
    let after := (resolve "/srv/maven" beside).2
    tool.program = "/srv/maven/bin/mvn" ∧
      RunsAt [] tool ["srv", "maven", "bin", "mvn"]
        (Utility.image "true") after "builds/Hello"
        ["srv", "builds", "Hello"] := by
  have hBundled :
      beside.files.stat beside.dir true (bundled "/srv/maven") =
        .ok (["srv", "maven", "bin", "mvn"],
          .file 0o644 (Utility.image "true")) := by
    decide +kernel
  have hInside :
      Host.enterDir (resolve "/srv/maven" beside).2.files
          (resolve "/srv/maven" beside).2.dir "builds/Hello" =
        .ok ["srv", "builds", "Hello"] := by
    decide +kernel
  rcases invoke_bundled [] "/srv/maven" beside hBundled with
    ⟨hTool, hAfter, hRuns⟩
  constructor
  · rw [hTool]
    decide +kernel
  · exact (hRuns _ _ _ hInside).2.2 hAfter (Or.inl (by decide))

/-
  By a path from the studio's directory the tool is found, but it
  is not run: in the project the path leads nowhere, and neither
  does the home.
-/
theorem invoke_relative :
    let tool := (resolve "maven" beside).1
    let after := (resolve "maven" beside).2
    tool.program = "maven/bin/mvn" ∧
      after.files.stat after.dir true tool.program =
        .ok (["srv", "maven", "bin", "mvn"],
          .file 0o755 (Utility.image "true")) ∧
      Host.enterDir after.files after.dir "builds/Hello" =
        .ok ["srv", "builds", "Hello"] ∧
      (Tool.invoke (Host.run []) tool "builds/Hello" after).1 =
        .error (.spawn "maven/bin/mvn" (.system .noEntry)) ∧
      (Tool.invoke
          (Host.runAt ["srv", "maven", "bin", "mvn"] []) tool
          "builds/Hello" after).1 =
        .ok ⟨.exited 0, []⟩ ∧
      after.files.stat ["srv", "builds", "Hello"] true tool.home =
        .error (.system .noEntry) := by
  decide +kernel

end Toolchain

end PluginStudio
