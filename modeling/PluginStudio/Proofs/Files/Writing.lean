import PluginStudio.Proofs.Files.Contents
import PluginStudio.Proofs.Files.Directories

/-
  What is found where something was written.

  Key definitions include:
    * `PluginStudio.FileSystem.Written`

  Main declarations:
    * `stat_of_output`, `written_of_write`
    * `Written.stat`, `Written.read`
    * `write_frame`, `read_of_write`
    * `Plain.write`, `Plain.makeDirs`, `Plain.removeTree`
    * `Plain.getLast?_of_output`

  A file that was written is the only change, and its path leads
  to it.  Devices take what is written and keep nothing.  Where
  there are no links, none of the operations makes one, and a file
  stands under the last name of its path.
-/

------------------------------------------------------------
-- Writing
------------------------------------------------------------

namespace PluginStudio

namespace FileSystem

variable {fs fs' : FileSystem} {dir : Place} {p : Path}

/- A path that could be written to leads to what is there now. -/
theorem stat_of_output
    (hKeeps : fs'.Keeps fs)
    {spot : Spot}
    (hResolve : fs.resolve dir .output p = .ok spot)
    {q : Place}
    (hEnds : Spot.Ends q spot)
    {node : Node}
    (hNode : fs'.node? q = some node)
    (hLeaf : ∀ target, node ≠ .link target) :
    fs'.stat dir true p = .ok (q, node) := by
  unfold resolve at hResolve
  rcases exists_of_bind_ok hResolve with ⟨u, hCheck, hLift⟩
  cases hWalk : fs.walk .output mostLinks (startOf dir p) p.steps with
  | error errno =>
      rw [hWalk] at hLift
      contradiction
  | ok found =>
      rw [hWalk, liftErrno, Except.ok.injEq] at hLift
      subst hLift
      have hFound :=
        walk_of_keeps hKeeps (by decide) hNode hLeaf hEnds hWalk
      unfold stat resolve
      simp [hCheck, hFound, liftErrno, bind, Except.bind, pure,
        Except.pure]

/-
  What writing leaves at the end of a path: a file with the
  content, or a device that has taken it.  All ways stay open.
-/
structure Written
    (fs fs' : FileSystem)
    (dir : Place)
    (p : Path)
    (content : Bytes)
    (q : Place)
    (node : Node) : Prop where
  way :
    ∃ spot, fs.resolve dir .output p = .ok spot ∧ Spot.Ends q spot
  keeps : fs'.Keeps fs
  there : fs'.node? q = some node
  change :
    (fs' = fs ∧ ∃ device, node = .device device) ∨
      (q ≠ [] ∧ fs' = fs.put q node ∧
        ∃ mode, node = .file mode content)

theorem written_of_write
    {content : Bytes}
    (hOk : fs.write dir p content = .ok fs') :
    ∃ q node, Written fs fs' dir p content q node := by
  rcases openToWrite_of_write hOk with ⟨place, hOpen⟩
  rcases openToWrite_ok hOpen with
    ⟨rfl, device, hSpot⟩ |
      ⟨mode, old, ⟨parent, name, hSpot, rfl⟩ | ⟨bits, hSpot⟩, rfl⟩
  · exact ⟨place, .device device, ⟨_, hSpot, rfl, rfl, by simp⟩,
      .refl fs', WellFormed.sound_of_resolve hSpot,
      Or.inl ⟨rfl, device, rfl⟩⟩
  · rcases WellFormed.sound_of_resolve hSpot with ⟨-, -, hFree⟩
    refine ⟨parent ++ [name], .file mode content, ⟨_, hSpot, rfl⟩,
      .put_free _ hFree, ?_, Or.inr ⟨by simp, rfl, mode, rfl⟩⟩
    rw [node?_put_snoc, if_pos rfl]
  · have hFile := WellFormed.sound_of_resolve hSpot
    have hPlace : place ≠ [] := by
      rintro rfl
      rw [Spot.Sound, node?_nil, Option.some.injEq] at hFile
      contradiction
    refine ⟨place, .file mode content, ⟨_, hSpot, rfl, rfl, by simp⟩,
      .put_over hPlace _ hFile, ?_,
      Or.inr ⟨hPlace, rfl, mode, rfl⟩⟩
    rw [node?_put _ hPlace, if_pos rfl]

namespace Written

variable {content : Bytes} {q : Place} {node : Node}

theorem leaf
    (hWritten : Written fs fs' dir p content q node)
    (target : Path) :
    node ≠ .link target := by
  rcases hWritten.change with
    ⟨-, device, rfl⟩ | ⟨-, -, mode, rfl⟩ <;> simp

/- The path leads there as long as its ways are kept. -/
theorem stat
    (hWritten : Written fs fs' dir p content q node)
    {later : FileSystem}
    (hKeeps : later.Keeps fs)
    (hThere : later.node? q = some node) :
    later.stat dir true p = .ok (q, node) := by
  obtain ⟨spot, hResolve, hEnds⟩ := hWritten.way
  exact stat_of_output hKeeps hResolve hEnds hThere hWritten.leaf

/-
  What was written is read for as long as nothing replaces it,
  unless a device has taken it.
-/
theorem read
    (hWritten : Written fs fs' dir p content q node)
    {later : FileSystem}
    (hKeeps : later.Keeps fs)
    (hThere : later.node? q = some node)
    (hDevice : later.device? dir p = none) :
    later.read dir p = .ok content := by
  have hStat := hWritten.stat hKeeps hThere
  rcases hWritten.change with
    ⟨-, device, rfl⟩ | ⟨-, -, mode, rfl⟩
  · rw [device?, hStat] at hDevice
    contradiction
  · rw [FileSystem.read, hStat]
    rfl

/- Nothing changes at other places. -/
theorem frame
    (hWritten : Written fs fs' dir p content q node)
    {place : Place}
    (hNe : place ≠ q) :
    fs'.node? place = fs.node? place := by
  rcases hWritten.change with ⟨rfl, -⟩ | ⟨hPlace, rfl, -⟩
  · rfl
  · rw [node?_put _ hPlace, if_neg hNe]

end Written

/- Writing changes one place at most. -/
theorem write_frame
    {content : Bytes}
    (hOk : fs.write dir p content = .ok fs') :
    ∃ place, ∀ q, q ≠ place → fs'.node? q = fs.node? q := by
  obtain ⟨place, node, hWritten⟩ := written_of_write hOk
  exact ⟨place, fun q hNe => hWritten.frame hNe⟩

/- It is read at once, unless a device has taken it. -/
theorem read_of_write
    {content : Bytes}
    (hOk : fs.write dir p content = .ok fs')
    (hDevice : fs'.device? dir p = none) :
    fs'.read dir p = .ok content := by
  rcases written_of_write hOk with ⟨q, node, hWritten⟩
  exact hWritten.read hWritten.keeps hWritten.there hDevice

end FileSystem

end PluginStudio

------------------------------------------------------------
-- Files Without Links
------------------------------------------------------------

namespace PluginStudio

namespace FileSystem

namespace Plain

variable {fs fs' : FileSystem} {dir : Place} {p : Path}

theorem write
    (hPlain : fs.Plain)
    {content : Bytes}
    (hOk : fs.write dir p content = .ok fs') :
    fs'.Plain := by
  obtain ⟨q, node, hWritten⟩ := written_of_write hOk
  rcases hWritten.change with ⟨rfl, -⟩ | ⟨hPlace, rfl, -⟩
  · exact hPlain
  · exact hPlain.put hPlace hWritten.leaf

theorem makeDirs
    (hPlain : fs.Plain)
    (dir : Place)
    (p : Path) :
    (fs.makeDirs dir p).2.Plain := by
  refine makeDirsOn_induction (fun fs fs' _ _ hPlain hMake => ?_) hPlain
  obtain ⟨place, name, -, -, -, rfl⟩ := create_ok hMake
  exact hPlain.put (by simp) (by simp)

theorem removeTree
    (hPlain : fs.Plain)
    (dir : Place)
    (p : Path) :
    (fs.removeTree dir p).2.Plain := by
  rw [FileSystem.removeTree]
  rcases fs.stat dir false p with fault | ⟨place, node⟩
  · exact hPlain
  · cases node with
    | link target =>
        simp only [step]
        cases hUnlink : fs.unlink dir p with
        | ok fs' =>
            obtain ⟨place, name, -, -, -, -, rfl⟩ := unlink_ok hUnlink
            exact hPlain.erase (by simp)
        | error fault => exact hPlain
    | directory mode =>
        have hEmptied := hPlain.eraseBelow place
        simp only
        cases hRemove : (fs.eraseBelow place).removeDir dir p with
        | ok fs' =>
            obtain ⟨place', name, -, -, rfl⟩ := removeDir_ok hRemove
            exact hEmptied.erase (by simp)
        | error fault =>
            simp only
            split_ifs <;> exact hEmptied
    | _ => exact hPlain

theorem rename
    (hPlain : fs.Plain)
    {source target : Path}
    (hOk : fs.rename dir source target = .ok fs') :
    fs'.Plain := by
  rcases rename_ok hOk with
    rfl | ⟨place, name, place', name', -, -, -, -, -, -, -, rfl⟩
  · exact hPlain
  · exact (hPlain.erase (by simp)).move (by simp) _

/-
  A path that ends in a name leads to a place with that name, if
  no link on the way can lead elsewhere.
-/
theorem getLast?_of_output
    (hPlain : fs.Plain)
    (hName : p.EndsInName)
    {spot : Spot}
    (hResolve : fs.resolve dir .output p = .ok spot)
    {q : Place}
    (hEnds : Spot.Ends q spot) :
    q.getLast? = p.names.getLast? := by
  obtain ⟨place, name, links, hEntry, hLast, hWalk⟩ :=
    walk_of_resolve hName hResolve
  have hCases := (hEntry.spot_of_walk hWalk).2
  have hQ : q = place ++ [name] := by
    cases hNode : fs.node? (place ++ [name]) with
    | none =>
        rw [hNode] at hCases
        subst hCases
        exact hEnds.symm
    | some node =>
        rw [hNode] at hCases
        obtain rfl := hCases (Or.inr fun target hLink =>
          hPlain _ target (hLink ▸ hNode))
        exact hEnds.1.symm
  rw [hQ, hLast, List.getLast?_concat]

end Plain

end FileSystem

end PluginStudio
