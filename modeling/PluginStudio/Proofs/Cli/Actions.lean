import PluginStudio.Cli.Run
import PluginStudio.Proofs.Studio

/-
  What actions of the command line come to.

  Key definitions include:
    * `PluginStudio.Cli.Action.Yields`
    * `PluginStudio.Cli.Ending.Tells`

  Main declarations:
    * `Action.Yields.bind`, `Action.Yields.bind_error`
    * `Cli.yields_readRequestFile`
    * `Cli.yields_showWritten`
    * `Cli.run_of_ok`, `Cli.run_of_error`

  What is seen on the screen decides nothing.  So an action has a
  result and leaves a world, whatever was shown before it.
-/

------------------------------------------------------------
-- Results Of Actions
------------------------------------------------------------

namespace PluginStudio

namespace Cli

namespace Action

/- Actions go on as long as they do not fail. -/
theorem bind_apply
    {α β : Type}
    (act : Action α)
    (next : α → Action β)
    (style : Report.Style)
    (screen : Report.Screen)
    (world : World) :
    (act >>= next) style screen world =
      match act style screen world with
      | ((.ok a, shown), after) => next a style shown after
      | ((.error failure, shown), after) =>
        ((.error failure, shown), after) := by
  change
    ExceptT.bindCont next (act style screen world).1.1 style
      (act style screen world).1.2 (act style screen world).2 = _
  rcases act style screen world with ⟨⟨failure | a, shown⟩, after⟩ <;>
    rfl

/- An action has a result and leaves a world, on every screen. -/
def Yields
    {α : Type}
    (act : Action α)
    (world : World)
    (result : Except Failure α)
    (after : World) : Prop :=
  ∀ style screen, ∃ screen',
    act style screen world = ((result, screen'), after)

namespace Yields

variable {ε α β : Type} {world after final : World}

theorem pure (a : α) :
    Yields (Pure.pure a : Action α) world (.ok a) world :=
  fun _ screen => ⟨screen, rfl⟩

theorem throw (failure : Failure) :
    Yields (throw failure : Action α) world (.error failure) world :=
  fun _ screen => ⟨screen, rfl⟩

theorem say
    (status : Report.Status)
    (message : String) :
    Yields (Action.say status message) world (.ok ()) world :=
  fun _ _ => ⟨_, rfl⟩

theorem pass
    (out err : String) :
    Yields (ExceptT.lift (Report.Shown.pass out err)) world (.ok ())
      world :=
  fun _ _ => ⟨_, rfl⟩

theorem watch (act : Studio α) :
    Yields (Action.watch act) world (.ok (act world).1)
      (act world).2 :=
  fun _ _ => ⟨_, rfl⟩

/- What follows goes on from the result. -/
theorem bind
    {act : Action α}
    {next : α → Action β}
    {a : α}
    {result : Except Failure β}
    (hAct : Yields act world (.ok a) after)
    (hNext : Yields (next a) after result final) :
    Yields (act >>= next) world result final := by
  intro style screen
  rcases hAct style screen with ⟨shown, hShown⟩
  rcases hNext style shown with ⟨screen', hScreen⟩
  refine ⟨screen', ?_⟩
  rw [bind_apply, hShown]
  exact hScreen

/- After a failure nothing follows. -/
theorem bind_error
    {act : Action α}
    {failure : Failure}
    (hAct : Yields act world (.error failure) after)
    (next : α → Action β) :
    Yields (act >>= next) world (.error failure) after := by
  intro style screen
  rcases hAct style screen with ⟨shown, hShown⟩
  refine ⟨shown, ?_⟩
  rw [bind_apply, hShown]

theorem attempt
    (failure : ε → Failure)
    {act : Studio (Except ε α)}
    {result : Except ε α}
    (hAct : act world = (result, after)) :
    Yields (Action.attempt failure act) world
      (result.mapError failure) after := by
  have hWatch : Yields (Action.watch act) world (.ok result) after := by
    have hSeen : Yields (Action.watch act) world _ _ := watch act
    rw [hAct] at hSeen
    exact hSeen
  unfold Action.attempt
  apply hWatch.bind
  cases result with
  | ok a => exact pure a
  | error e => exact throw (failure e)

end Yields

end Action

end Cli

end PluginStudio

------------------------------------------------------------
-- Steps Of A Build
------------------------------------------------------------

namespace PluginStudio

namespace Cli

open Cli.Action

variable {world : World}

/- A file with a request is read, and nothing changes. -/
theorem yields_readRequestFile
    {path : Path}
    {body : Bytes}
    (hFile : world.files.read world.dir path = .ok body) :
    Yields (readRequestFile path) world
      ((Request.read body).mapError fun fault =>
        .malformed path (fault.message body)) world := by
  have hRead :
      Studio.inspect (fun fs dir => fs.read dir path) world =
        (.ok body, world) := by
    rw [Studio.inspect_apply, hFile]
  unfold readRequestFile
  apply (Yields.attempt (Failure.unreadable path) hRead).bind
  cases Request.read body with
  | ok request => exact .pure request
  | error fault => exact .throw _

/- What was written is shown if it went to a device, and kept. -/
theorem yields_showWritten
    (path : Path)
    (bytes : Bytes) :
    Yields (showWritten path bytes) world (.ok ()) world := by
  unfold showWritten
  apply (Yields.watch _).bind
  rw [Studio.inspect_apply]
  cases world.files.device? world.dir path with
  | none => exact .pure ()
  | some device =>
      cases device with
      | output => exact .pass _ _
      | problems => exact .pass _ _
      | _ => exact .pure ()

end Cli

end PluginStudio

------------------------------------------------------------
-- Runs
------------------------------------------------------------

namespace PluginStudio

namespace Cli

open Cli.Action

namespace Ending

/- A run has told a failure last, and ended with it. -/
def Tells
    (ending : Ending)
    (style : Report.Style)
    (failure : Failure) : Prop :=
  ∃ screen : Report.Screen,
    ending = ⟨1, screen.say style .error failure.message, []⟩

theorem Tells.code_ne_zero
    {ending : Ending}
    {style : Report.Style}
    {failure : Failure}
    (hTells : ending.Tells style failure) :
    ending.code ≠ 0 := by
  rcases hTells with ⟨screen, rfl⟩
  exact Nat.one_ne_zero

end Ending

variable {around : Surroundings} {args : List String} {order : Order}
variable {path : Path} {output? : Option Path} {world after : World}

/- An order to build is followed by a build. -/
theorem yields_follow
    (hTask : order.task = .build path output?)
    {result : Except Failure Unit}
    (hBuild :
      Yields (build around (order.settings around) path output?) world
        result after) :
    Yields (order.follow around) world (result.map fun _ => [])
      after := by
  unfold Order.follow
  rw [hTask]
  cases result with
  | ok u => exact hBuild.bind (.pure [])
  | error failure => exact hBuild.bind_error _

/- A run follows its order, and ends as that does. -/
theorem run_apply
    (hOrder : Order.read args = .ok order)
    (world : World) :
    run around args world =
      match
          order.follow around (order.style around.env) {} world with
      | ((.ok answers, screen), after) => (⟨0, screen, answers⟩, after)
      | ((.error failure, screen), after) =>
        (⟨1, screen.say (order.style around.env) .error failure.message,
          []⟩, after) := by
  unfold run
  rw [hOrder]
  simp only [ExceptT.run, ReaderT.run, StateT.run]
  rw [Studio.bind_apply]
  rcases order.follow around (order.style around.env) {} world with
    ⟨⟨failure | answers, screen⟩, after⟩ <;> rfl

theorem run_of_ok
    (hOrder : Order.read args = .ok order)
    (hTask : order.task = .build path output?)
    (hBuild :
      Yields (build around (order.settings around) path output?) world
        (.ok ()) after) :
    (run around args world).1.code = 0 ∧
      (run around args world).2 = after := by
  rcases yields_follow hTask hBuild (order.style around.env) {} with
    ⟨screen, hScreen⟩
  rw [run_apply hOrder, hScreen]
  exact ⟨rfl, rfl⟩

theorem run_of_error
    (hOrder : Order.read args = .ok order)
    (hTask : order.task = .build path output?)
    {failure : Failure}
    (hBuild :
      Yields (build around (order.settings around) path output?) world
        (.error failure) after) :
    (run around args world).1.Tells (order.style around.env) failure ∧
      (run around args world).2 = after := by
  rcases yields_follow hTask hBuild (order.style around.env) {} with
    ⟨screen, hScreen⟩
  rw [run_apply hOrder, hScreen]
  exact ⟨⟨screen, rfl⟩, rfl⟩

end Cli

end PluginStudio
