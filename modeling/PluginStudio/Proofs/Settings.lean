import Mathlib.Data.List.Basic
import PluginStudio.Cli.Run

/-
  Which setting of a place counts.

  Key definitions include:
    * `PluginStudio.Environment.given?`
    * `PluginStudio.Settings.Override`
    * `PluginStudio.Settings.Override.apply`
    * `PluginStudio.Settings.Prefers`

  Main declarations:
    * `Settings.Prefers.apply`
    * `Settings.Prefers.foldl`
    * `Settings.static_of_mem_scanl`
    * `Settings.overrides_precede`

  What is set by hand counts before the environment, and this
  before the place beside the program.  Of several settings by
  hand the last one counts, and the places that derive from it
  follow.
-/

------------------------------------------------------------
-- Variables
------------------------------------------------------------

namespace PluginStudio

namespace Environment

/- The value of a variable as a path, unless it is empty. -/
def given?
    (env : Environment)
    (name : String) : Option Path :=
  ((env.get? name).filter fun bytes => bytes ≠ []).map Octets.text

theorem path?_eq_given?
    (env : Environment)
    (name : String) :
    env.path? name = env.given? name := by
  rw [path?, given?]
  rcases env.get? name with _ | _ | ⟨b, bytes⟩
  · rfl
  · rfl
  · rfl

theorem isGiven_eq_isSome
    (env : Environment)
    (name : String) :
    env.isGiven name = (env.given? name).isSome := by
  rw [isGiven, given?]
  rcases env.get? name with _ | _ | ⟨b, bytes⟩
  · rfl
  · rfl
  · rfl

end Environment

end PluginStudio

------------------------------------------------------------
-- Overrides
------------------------------------------------------------

namespace PluginStudio

namespace Settings

/- A place that is set by hand. -/
inductive Override where
  | resources (dir : Path)
  | workspace (dir : Path)
deriving DecidableEq, Repr

namespace Override

/- The settings with a place set by hand. -/
def apply
    (env : Environment)
    (settings : Settings) :
    Override → Settings
  | resources dir => settings.withResourcesDir env dir
  | workspace dir => settings.withWorkspace dir

/- The resources directory, if it is what is set. -/
def resources? : Override → Option Path
  | resources dir => some dir
  | workspace _ => none

/- The workspace, if it is what is set. -/
def workspace? : Override → Option Path
  | resources _ => none
  | workspace dir => some dir

end Override

/- The last place of a kind among those set by hand. -/
def last?
    (kind : Override → Option Path)
    (overrides : List Override) : Option Path :=
  (overrides.filterMap kind).getLast?

theorem last?_cons
    (kind : Override → Option Path)
    (override : Override)
    (overrides : List Override) :
    last? kind (override :: overrides) =
      (last? kind overrides).or (kind override) := by
  rw [last?, last?, List.filterMap_cons]
  cases kind override with
  | none => rw [Option.or_none]
  | some dir =>
      rw [List.getLast?_cons]
      cases (overrides.filterMap kind).getLast? with
      | none => rfl
      | some _ => rfl

/-
  The settings of a program in a directory, if the given places were
  set by hand: these count before those of the environment, and those
  before the ones beside the program.
-/
structure Prefers
    (settings : Settings)
    (env : Environment)
    (dir : Path)
    (resources? workspace? : Option Path) : Prop where
  programDir : settings.programDir = dir
  resourcesDir :
    settings.resourcesDir =
      (resources?.or (env.given? resourcesVar)).getD
        (dir.join "resources")
  staticDir : settings.staticDir = settings.resourcesDir
  workspace :
    settings.workspace =
      (workspace?.or (env.given? workspaceVar)).getD
        (dir.join "builds")
  mavenHome :
    settings.mavenHome =
      (env.given? mavenHomeVar).getD
        (settings.resourcesDir.join "maven")

/- At first nothing is set by hand. -/
theorem prefers_ofProgramDir
    (env : Environment)
    (dir : Path) :
    Prefers (ofProgramDir env dir) env dir none none where
  programDir := rfl
  resourcesDir := by
    rw [Option.none_or, ← Environment.path?_eq_given?, ofProgramDir]
  staticDir := rfl
  workspace := by
    rw [Option.none_or, ← Environment.path?_eq_given?, ofProgramDir]
  mavenHome := by
    rw [← Environment.path?_eq_given?, ofProgramDir, mavenHomeIn]

section Fixed

variable {settings : Settings} {env : Environment} {dir : Path}
variable {resources? workspace? : Option Path}

/-
  One more place set by hand counts before all that was set.  The
  tool's home follows the resources only if the environment leaves
  it open, and is the environment's own otherwise.
-/
theorem Prefers.apply
    (hPrefers : Prefers settings env dir resources? workspace?)
    (override : Override) :
    Prefers (override.apply env settings) env dir
      (override.resources?.or resources?)
      (override.workspace?.or workspace?) := by
  cases override with
  | resources place =>
      have hHome :
          (settings.withResourcesDir env place).mavenHome =
            (env.given? mavenHomeVar).getD (place.join "maven") := by
        have hBefore := hPrefers.mavenHome
        rw [withResourcesDir, Environment.isGiven_eq_isSome]
        cases hGiven : env.given? mavenHomeVar with
        | none => rfl
        | some home =>
            rw [hGiven] at hBefore
            exact hBefore
      exact
        { programDir := hPrefers.programDir
          resourcesDir := rfl
          staticDir := rfl
          workspace := hPrefers.workspace
          mavenHome := hHome }
  | workspace place =>
      exact
        { programDir := hPrefers.programDir
          resourcesDir := hPrefers.resourcesDir
          staticDir := hPrefers.staticDir
          workspace := rfl
          mavenHome := hPrefers.mavenHome }

/- So of many the last of each kind counts. -/
theorem Prefers.foldl
    (hPrefers : Prefers settings env dir resources? workspace?)
    (overrides : List Override) :
    Prefers (overrides.foldl (Override.apply env) settings) env dir
      ((last? Override.resources? overrides).or resources?)
      ((last? Override.workspace? overrides).or workspace?) := by
  induction overrides generalizing settings resources? workspace? with
  | nil => exact hPrefers
  | cons override overrides ih =>
      rw [last?_cons, last?_cons, Option.or_assoc, Option.or_assoc]
      exact ih (hPrefers.apply override)

end Fixed

/- The two kinds of places are set independently. -/
theorem withWorkspace_withResourcesDir
    (settings : Settings)
    (env : Environment)
    (resources workspace : Path) :
    (settings.withResourcesDir env resources).withWorkspace workspace =
      (settings.withWorkspace workspace).withResourcesDir env resources :=
  rfl

/- What is served are the resources, even as the environment changes. -/
theorem static_of_mem_scanl
    {settings : Settings}
    (hStatic : settings.staticDir = settings.resourcesDir)
    (steps : List (Environment × Override)) :
    ∀ later ∈ steps.scanl (fun s step => step.2.apply step.1 s) settings,
      later.staticDir = later.resourcesDir := by
  induction steps generalizing settings with
  | nil => simpa using hStatic
  | cons step steps ih =>
      have hNext :
          (step.2.apply step.1 settings).staticDir =
            (step.2.apply step.1 settings).resourcesDir := by
        cases step.2 with
        | resources dir => rfl
        | workspace dir => exact hStatic
      rw [List.scanl_cons]
      intro later hLater
      rcases List.mem_cons.mp hLater with rfl | hLater
      · exact hStatic
      · exact ih hNext later hLater

end Settings

namespace Cli

/- An order sets by hand what its arguments name. -/
theorem Order.prefers_settings
    (order : Order)
    (around : Surroundings) :
    Settings.Prefers (order.settings around) around.env around.programDir
      order.resourcesDir? order.buildDir? := by
  have hFirst :=
    Settings.prefers_ofProgramDir around.env around.programDir
  rw [Order.settings]
  cases order.resourcesDir? with
  | none =>
      cases order.buildDir? with
      | none => exact hFirst
      | some build => exact hFirst.apply (.workspace build)
  | some resources =>
      have hNext := hFirst.apply (.resources resources)
      cases order.buildDir? with
      | none => exact hNext
      | some build => exact hNext.apply (.workspace build)

end Cli

end PluginStudio

------------------------------------------------------------
-- Precedence
------------------------------------------------------------

namespace PluginStudio

namespace Settings

/-
  However often places are set by hand, the last of each kind counts,
  then the environment, then the place beside the program, and it
  does not matter how the two kinds alternate; a command line sets
  places in the same way.  Even if the environment changes in between,
  what is served are the resources at every point.
-/
theorem overrides_precede :
    (∀ env dir overrides,
      Prefers (overrides.foldl (Override.apply env) (ofProgramDir env dir))
        env dir (last? Override.resources? overrides)
        (last? Override.workspace? overrides)) ∧
      (∀ settings env resources workspace,
        (withResourcesDir settings env resources).withWorkspace workspace =
          (settings.withWorkspace workspace).withResourcesDir env
            resources) ∧
      (∀ (order : Cli.Order) (around : Cli.Surroundings),
        Prefers (order.settings around) around.env around.programDir
          order.resourcesDir? order.buildDir?) ∧
      ∀ env dir (steps : List (Environment × Override)),
        ∀ later ∈
            steps.scanl (fun s step => step.2.apply step.1 s)
              (ofProgramDir env dir),
          later.staticDir = later.resourcesDir := by
  refine ⟨?_, withWorkspace_withResourcesDir, Cli.Order.prefers_settings,
    fun env dir => static_of_mem_scanl rfl⟩
  intro env dir overrides
  have hFolded := (prefers_ofProgramDir env dir).foldl overrides
  rwa [Option.or_none, Option.or_none] at hFolded

/-
  A variable that is empty, one that is not, and one that appears
  between two settings by hand.
-/
theorem overrides_precede_of_changes :
    Prefers
        ([.resources "a", .workspace "w", .resources "b"].foldl
          (Override.apply [(resourcesVar, []), (mavenHomeVar, [0x2F])])
          (ofProgramDir [(resourcesVar, []), (mavenHomeVar, [0x2F])] "/opt"))
        [(resourcesVar, []), (mavenHomeVar, [0x2F])] "/opt" (some "b")
        (some "w") ∧
      (Override.apply [(mavenHomeVar, [0x2F])]
            ((ofProgramDir [] "/opt").withResourcesDir [] "a")
            (.resources "b")).staticDir =
        "b" := by
  obtain ⟨hPrefers, -, -, hStatic⟩ := overrides_precede
  refine ⟨hPrefers _ _ _, ?_⟩
  exact hStatic [] "/opt"
    [([], .resources "a"), ([(mavenHomeVar, [0x2F])], .resources "b")] _
    (by simp [List.scanl_cons, Override.apply])

end Settings

end PluginStudio
