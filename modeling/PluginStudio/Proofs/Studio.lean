import PluginStudio.World

/-
  How work in the studio runs.

  Key definitions include:
    * `PluginStudio.Studio.Preserves`

  Main declarations:
    * `Studio.bind_apply`, `Studio.pure_apply`
    * `Studio.except_bind_apply`
    * `Studio.Preserves.bind`, `Studio.Preserves.forM`

  Work is a function of the world.  These lemmas apply each kind
  of it to a world, so that nothing else has to unfold it.  What
  is true of the files stays true as long as each step keeps it.
-/

------------------------------------------------------------
-- Sequences
------------------------------------------------------------

namespace PluginStudio

namespace Studio

variable {ε α β : Type}

theorem bind_apply
    (first : Studio α)
    (next : α → Studio β)
    (world : World) :
    (first >>= next) world =
      next (first world).1 (first world).2 :=
  rfl

theorem pure_apply
    (a : α)
    (world : World) :
    (pure a : Studio α) world = (a, world) :=
  rfl

/- Work that can fail goes on as long as it does not. -/
theorem except_bind_apply
    (first : ExceptT ε Studio α)
    (next : α → ExceptT ε Studio β)
    (world : World) :
    (first >>= next : ExceptT ε Studio β) world =
      match first world with
      | (.ok a, world') => next a world'
      | (.error e, world') => (.error e, world') := by
  change (ExceptT.bindCont next (first world).1 (first world).2) = _
  rcases first world with ⟨e | a, world'⟩ <;> rfl

theorem except_pure_apply
    (a : α)
    (world : World) :
    (pure a : ExceptT ε Studio α) world = (.ok a, world) :=
  rfl

/- Work that cannot fail, where other work can. -/
theorem except_lift_apply
    (work : Studio α)
    (world : World) :
    (liftM work : ExceptT ε Studio α) world =
      (.ok (work world).1, (work world).2) :=
  rfl

/- Failures told in other words. -/
theorem except_adapt_apply
    {ε' : Type}
    (tell : ε → ε')
    (work : ExceptT ε Studio α)
    (world : World) :
    ExceptT.adapt tell work world =
      ((work world).1.mapError tell, (work world).2) :=
  rfl

end Studio

end PluginStudio

------------------------------------------------------------
-- Steps
------------------------------------------------------------

namespace PluginStudio

namespace Studio

variable {α : Type}

theorem report_apply
    (topic : Topic)
    (level : Level)
    (message : String)
    (details : List Detail)
    (world : World) :
    report topic level message details world =
      ((), { world with
        journal :=
          world.journal ++ [⟨topic, level, message, details⟩] }) :=
  rfl

theorem publish_apply
    (phase : Build.Phase)
    (world : World) :
    publish phase world =
      ((), { world with
        moments := world.moments ++ [.published phase] }) :=
  rfl

theorem pause_apply (world : World) :
    pause world =
      ((), { world with moments := world.moments ++ [.paused] }) :=
  rfl

theorem inspect_apply
    (view : FileSystem → Place → α)
    (world : World) :
    inspect view world = (view world.files world.dir, world) :=
  rfl

theorem onFiles_apply
    (work : FileSystem → Place → FileSystem.Steps α)
    (world : World) :
    onFiles work world =
      ((work world.files world.dir).1,
        { world with files := (work world.files world.dir).2 }) :=
  rfl

theorem now_apply (world : World) :
    now world =
      (world.clock, { world with clock := world.clock + 1 }) :=
  rfl

end Studio

end PluginStudio

------------------------------------------------------------
-- What Work Preserves
------------------------------------------------------------

namespace PluginStudio

namespace Studio

/- Work after which the files are still of a kind. -/
def Preserves
    {α : Type}
    (P : FileSystem → Prop)
    (work : World → α × World) : Prop :=
  ∀ world, P world.files → P (work world).2.files

namespace Preserves

variable {ε α β : Type} {P : FileSystem → Prop}

/- Work that does not touch the files. -/
theorem of_same
    {work : World → α × World}
    (hSame : ∀ world, (work world).2.files = world.files) :
    Preserves P work := by
  intro world hFiles
  rw [hSame]
  exact hFiles

theorem bind
    {first : Studio α}
    {next : α → Studio β}
    (hFirst : Preserves P first)
    (hNext : ∀ a, Preserves P (next a)) :
    Preserves P (first >>= next) := by
  intro world hFiles
  rw [bind_apply]
  exact hNext _ _ (hFirst world hFiles)

theorem except_bind
    {first : ExceptT ε Studio α}
    {next : α → ExceptT ε Studio β}
    (hFirst : Preserves P first)
    (hNext : ∀ a, Preserves P (next a)) :
    Preserves P (first >>= next) := by
  intro world hFiles
  have hMade := hFirst world hFiles
  rw [except_bind_apply]
  rcases hEq : first world with ⟨e | a, world'⟩
  · rw [hEq] at hMade
    exact hMade
  · rw [hEq] at hMade
    exact hNext a world' hMade

theorem forM
    {items : List α}
    {work : α → ExceptT ε Studio PUnit}
    (hWork : ∀ item ∈ items, Preserves P (work item)) :
    Preserves P (items.forM work) := by
  induction items with
  | nil => exact of_same fun _ => rfl
  | cons item items ih =>
      exact except_bind (hWork item (by simp)) fun _ =>
        ih fun item' hMem => hWork item' (List.mem_cons_of_mem _ hMem)

end Preserves

end Studio

end PluginStudio
