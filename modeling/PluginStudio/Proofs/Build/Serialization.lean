import Mathlib.Data.List.Perm.Basic
import Mathlib.Data.List.Nodup
import PluginStudio.Proofs.Build.Steps

/-
  Builds that wait for one another.

  Key definitions include:
    * `PluginStudio.Build.Status`
    * `PluginStudio.Build.State`
    * `PluginStudio.Coordinator.Step`
    * `PluginStudio.Coordinator.Reachable`
    * `PluginStudio.Build.State.Regular`
    * `PluginStudio.Coordinator.Served`
    * `PluginStudio.Coordinator.Progress`

  Main declarations:
    * `Coordinator.Step.regular`
    * `Coordinator.Step.progress`
    * `Coordinator.Reachable.serve`
    * `Coordinator.calls_serialized`

  Calls come in at any time, and each waits until it is given
  the one slot there is.  However the steps of the calls are
  interleaved, the calls end as if each had been made when the
  one before it was done.
-/

------------------------------------------------------------
-- Calls
------------------------------------------------------------

namespace PluginStudio

namespace Build

/- How far a call has come. -/
inductive Status where
  | waiting
  | running (point : Point)
  | leaving (result : Result)
  | finished (result : Result)
  | dropped
deriving DecidableEq, Repr

namespace Status

/- The call has been given the slot and not given it back. -/
def Holding : Status → Prop
  | running _ | leaving _ => True
  | waiting | finished _ | dropped => False

def Finished (status : Status) : Prop :=
  ∃ result, status = finished result

/-
  The call at a number has come as far as the slot and the
  grants so far tell.
-/
structure Fits
    (slot : Option Nat)
    (order : List Nat)
    (i : Nat)
    (status : Status) : Prop where
  holding : status.Holding ↔ slot = some i
  not_granted : status = waiting → i ∉ order
  granted : status ≠ waiting → status ≠ dropped → i ∈ order

theorem Holding.ne_waiting
    {status : Status}
    (hHolding : status.Holding) :
    status ≠ waiting := by
  rintro rfl
  exact hHolding

end Status

/- A call of a build. -/
structure Call where
  request : Request
  status : Status

/-
  The calls so far, the one that has the slot, and those that
  have been given it, in that order.
-/
structure State where
  world : World
  slot : Option Nat
  calls : List Call
  order : List Nat

namespace State

def initial (world : World) : State :=
  ⟨world, none, [], []⟩

/- The call at a number has come so far. -/
def At
    (state : State)
    (i : Nat)
    (request : Request)
    (status : Status) : Prop :=
  state.calls[i]? = some ⟨request, status⟩

def put
    (state : State)
    (i : Nat)
    (request : Request)
    (status : Status) : State :=
  { state with calls := state.calls.set i ⟨request, status⟩ }

/- The calls that have been given the slot. -/
def granted (state : State) : List Call :=
  state.order.filterMap (state.calls[·]?)

end State

end Build

namespace Coordinator

open Build

/- What may happen next.  Only the grant looks at the slot. -/
inductive Step (coordinator : Coordinator) :
    State → State → Prop where
  | arrive
      (state : State)
      (request : Request) :
      Step coordinator state
        { state with
          calls := state.calls ++ [⟨request, .waiting⟩] }
  | grant
      {state : State}
      {i : Nat}
      {request : Request}
      (hSlot : state.slot = none)
      (hAt : state.At i request .waiting) :
      Step coordinator state
        { state.put i request (.running .announceProject) with
          slot := some i
          order := state.order ++ [i] }
  | work
      {state : State}
      {i : Nat}
      {request : Request}
      {point next : Point}
      {world : World}
      (hAt : state.At i request (.running point))
      (hStep :
        coordinator.step request point state.world =
          (.inl next, world)) :
      Step coordinator state
        { state.put i request (.running next) with
          world := world }
  | finish
      {state : State}
      {i : Nat}
      {request : Request}
      {point : Point}
      {result : Result}
      {world : World}
      (hAt : state.At i request (.running point))
      (hStep :
        coordinator.step request point state.world =
          (.inr result, world)) :
      Step coordinator state
        { state.put i request (.leaving result) with
          world := world }
  | release
      {state : State}
      {i : Nat}
      {request : Request}
      {result : Result}
      (hAt : state.At i request (.leaving result)) :
      Step coordinator state
        { state.put i request (.finished result) with
          slot := none }

/- What calls may come to in a world where none had been made. -/
def Reachable
    (coordinator : Coordinator)
    (start : World) : State → Prop :=
  Relation.ReflTransGen coordinator.Step (State.initial start)

end Coordinator

end PluginStudio

------------------------------------------------------------
-- Changes of One Call
------------------------------------------------------------

namespace PluginStudio

namespace Build

namespace State

theorem At.put
    {state : State}
    {i : Nat}
    {request : Request}
    {status : Status}
    (hAt : state.At i request status)
    (status' : Status) :
    (state.put i request status').At i request status' := by
  obtain ⟨hLt, -⟩ := List.getElem?_eq_some_iff.mp hAt
  exact List.getElem?_set_self hLt

theorem calls_put_of_ne
    (state : State)
    {i j : Nat}
    (hNe : i ≠ j)
    (request : Request)
    (status : Status) :
    (state.put i request status).calls[j]? = state.calls[j]? :=
  List.getElem?_set_ne hNe

/-
  What holds of all calls still does, when it does of the one
  that has changed.
-/
theorem forall_put
    {state : State}
    (holds : Nat → Call → Prop)
    {i : Nat}
    {request : Request}
    {status : Status}
    (hSelf : holds i ⟨request, status⟩)
    (hRest :
      ∀ j call,
        j ≠ i → state.calls[j]? = some call → holds j call) :
    ∀ j call,
      (state.put i request status).calls[j]? = some call →
        holds j call := by
  intro j call hCall
  by_cases hEq : i = j
  · subst hEq
    obtain ⟨hLt, hGet⟩ := List.getElem?_eq_some_iff.mp hCall
    rw [← hGet]
    simpa [State.put] using hSelf
  · rw [calls_put_of_ne state hEq] at hCall
    exact hRest j call (Ne.symm hEq) hCall

/- A call that has finished is not changed with another. -/
theorem finished_put
    {state : State}
    {i : Nat}
    {request : Request}
    {status : Status}
    (hAt : state.At i request status)
    (hStatus : ¬status.Finished)
    (status' : Status)
    (j : Nat)
    (call : Call)
    (hFinished : call.status.Finished)
    (hCall : state.calls[j]? = some call) :
    (state.put i request status').calls[j]? = some call := by
  by_cases hEq : i = j
  · subst hEq
    obtain rfl := Option.some.inj (hAt.symm.trans hCall)
    exact absurd hFinished hStatus
  · rw [calls_put_of_ne state hEq]
    exact hCall

end State

end Build

end PluginStudio

------------------------------------------------------------
-- The Slot
------------------------------------------------------------

namespace PluginStudio

namespace Build

/-
  The slot belongs to the call that holds it, which was the last
  to be given it, and no call is given it twice.
-/
structure State.Regular (state : State) : Prop where
  fits :
    ∀ (i : Nat) (call : Call),
      state.calls[i]? = some call →
        call.status.Fits state.slot state.order i
  last :
    ∀ i, state.slot = some i → state.order.getLast? = some i
  nodup : state.order.Nodup
  lt_length : ∀ i ∈ state.order, i < state.calls.length

namespace State

variable {state : State} {i : Nat} {request : Request}
  {status status' : Status}

theorem regular_initial (world : World) :
    (State.initial world).Regular where
  fits := by simp [State.initial]
  last := by simp [State.initial]
  nodup := List.nodup_nil
  lt_length := by simp [State.initial]

theorem Regular.slot_eq
    (hRegular : state.Regular)
    (hAt : state.At i request status)
    (hHolding : status.Holding) :
    state.slot = some i :=
  (hRegular.fits i _ hAt).holding.mp hHolding

/- No two calls hold the slot at a time. -/
theorem Regular.holder_unique
    (hRegular : state.Regular)
    {j : Nat}
    {call call' : Call}
    (hCall : state.calls[i]? = some call)
    (hCall' : state.calls[j]? = some call')
    (hHolding : call.status.Holding)
    (hHolding' : call'.status.Holding) :
    i = j := by
  rw [(hRegular.fits i call hCall).holding] at hHolding
  rw [(hRegular.fits j call' hCall').holding, hHolding,
    Option.some.injEq] at hHolding'
  exact hHolding'

theorem Regular.lt_length_put
    (hRegular : state.Regular) :
    ∀ j ∈ state.order,
      j < (state.put i request status).calls.length := by
  intro j hMem
  simpa [State.put] using hRegular.lt_length j hMem

/- A call comes in. -/
theorem Regular.arrive
    (hRegular : state.Regular)
    (request : Request) :
    Regular
      { state with
        calls := state.calls ++ [⟨request, .waiting⟩] } where
  fits j call hCall := by
    rcases Nat.lt_or_ge j state.calls.length with hLt | hGe
    · rw [List.getElem?_append_left hLt] at hCall
      exact hRegular.fits j call hCall
    have hNew : j ∉ state.order := by
      intro hMem
      have := hRegular.lt_length j hMem
      omega
    rw [List.getElem?_append_right hGe,
      List.getElem?_singleton] at hCall
    split_ifs at hCall with hEq
    obtain rfl := Option.some.inj hCall
    refine ⟨⟨False.elim, ?_⟩, fun _ => hNew, by simp⟩
    intro hSlot
    exact hNew (List.mem_of_getLast? (hRegular.last j hSlot))
  last := hRegular.last
  nodup := hRegular.nodup
  lt_length j hMem := by
    have := hRegular.lt_length j hMem
    simp only [List.length_append, List.length_singleton]
    omega

/- A call that waits is given the slot. -/
theorem Regular.grant
    (hRegular : state.Regular)
    (hSlot : state.slot = none)
    (hAt : state.At i request .waiting)
    (hHolding : status.Holding) :
    Regular
      { state.put i request status with
        slot := some i
        order := state.order ++ [i] } where
  fits := by
    refine forall_put
      (fun j call =>
        call.status.Fits (some i) (state.order ++ [i]) j) ?_ ?_
    · exact ⟨by simp [hHolding],
        fun hWaiting => absurd hWaiting hHolding.ne_waiting,
        by simp⟩
    · intro j call hNe hCall
      have hFits := hRegular.fits j call hCall
      refine ⟨?_, ?_, ?_⟩
      · rw [hFits.holding, hSlot]
        simp [hNe.symm]
      · intro hWaiting
        simp [hFits.not_granted hWaiting, hNe]
      · intro hWaiting hDropped
        simp [hFits.granted hWaiting hDropped]
  last j hEq := by
    rw [← Option.some.inj hEq]
    simp
  nodup := by
    have hNew := (hRegular.fits i _ hAt).not_granted rfl
    simp [List.nodup_append, hRegular.nodup]
    rintro j hMem rfl
    exact hNew hMem
  lt_length j hMem := by
    rcases List.mem_append.mp hMem with hMem | hMem
    · exact hRegular.lt_length_put j hMem
    · obtain rfl := List.mem_singleton.mp hMem
      obtain ⟨hLt, -⟩ := List.getElem?_eq_some_iff.mp hAt
      simpa [State.put] using hLt

/- The call that has the slot goes on. -/
theorem Regular.proceed
    (hRegular : state.Regular)
    (hAt : state.At i request status)
    (hHolding : status.Holding)
    (hHolding' : status'.Holding)
    (world : World) :
    Regular
      { state.put i request status' with world := world } where
  fits := by
    refine forall_put
      (fun j call =>
        call.status.Fits state.slot state.order j) ?_ ?_
    · have hSlot := hRegular.slot_eq hAt hHolding
      exact ⟨iff_of_true hHolding' hSlot,
        fun hWaiting => absurd hWaiting hHolding'.ne_waiting,
        fun _ _ =>
          List.mem_of_getLast? (hRegular.last i hSlot)⟩
    · intro j call _ hCall
      exact hRegular.fits j call hCall
  last := hRegular.last
  nodup := hRegular.nodup
  lt_length := hRegular.lt_length_put

/- The call that has the slot gives it back. -/
theorem Regular.vacate
    (hRegular : state.Regular)
    (hAt : state.At i request status)
    (hHolding : status.Holding)
    (hHolding' : ¬status'.Holding)
    (hWaiting' : status' ≠ .waiting) :
    Regular
      { state.put i request status' with slot := none } where
  fits := by
    have hSlot := hRegular.slot_eq hAt hHolding
    refine forall_put
      (fun j call =>
        call.status.Fits none state.order j) ?_ ?_
    · exact ⟨by simp [hHolding'],
        fun hWaiting => absurd hWaiting hWaiting',
        fun _ _ =>
          List.mem_of_getLast? (hRegular.last i hSlot)⟩
    · intro j call hNe hCall
      have hFits := hRegular.fits j call hCall
      refine ⟨?_, hFits.not_granted, hFits.granted⟩
      rw [hFits.holding, hSlot]
      simp [hNe.symm]
  last := by simp
  nodup := hRegular.nodup
  lt_length := hRegular.lt_length_put

end State

end Build

namespace Coordinator

open Build

theorem Step.regular
    {coordinator : Coordinator}
    {state state' : State}
    (hStep : coordinator.Step state state')
    (hRegular : state.Regular) :
    state'.Regular := by
  cases hStep with
  | arrive request => exact hRegular.arrive request
  | grant hSlot hAt => exact hRegular.grant hSlot hAt trivial
  | work hAt _ =>
      exact hRegular.proceed hAt trivial (by trivial) _
  | finish hAt _ =>
      exact hRegular.proceed hAt trivial (by trivial) _
  | release hAt => exact hRegular.vacate hAt trivial id (by simp)

end Coordinator

end PluginStudio

------------------------------------------------------------
-- Calls One after Another
------------------------------------------------------------

namespace PluginStudio

namespace Coordinator

open Build

/-
  Calls that have been made one after another, each ending with
  the result of its build.
-/
inductive Served
    (coordinator : Coordinator)
    (start : World)
    (calls : List Call) : List Nat → World → Prop where
  | nil : Served coordinator start calls [] start
  | snoc
      {order : List Nat}
      {i : Nat}
      {request : Request}
      {result : Result}
      {world world' : World}
      (hServed : Served coordinator start calls order world)
      (hCall : calls[i]? = some ⟨request, .finished result⟩)
      (hBuild :
        coordinator.build request world = (result, world')) :
      Served coordinator start calls (order ++ [i]) world'

variable {coordinator : Coordinator} {start world world' : World}
  {calls calls' : List Call} {order : List Nat}

/- Only the calls that have finished matter. -/
theorem Served.mono
    (hServed : coordinator.Served start calls order world)
    (hCalls :
      ∀ (i : Nat) (call : Call),
        call.status.Finished →
          calls[i]? = some call → calls'[i]? = some call) :
    coordinator.Served start calls' order world := by
  induction hServed with
  | nil => exact .nil
  | snoc _ hCall hBuild ih =>
      exact .snoc ih (hCalls _ _ ⟨_, rfl⟩ hCall) hBuild

theorem Served.put
    {state : State}
    {i : Nat}
    {request : Request}
    {status : Status}
    (hServed : coordinator.Served start state.calls order world)
    (hAt : state.At i request status)
    (hStatus : ¬status.Finished)
    (status' : Status) :
    coordinator.Served start (state.put i request status').calls
      order world :=
  hServed.mono (State.finished_put hAt hStatus status')

theorem Served.phase
    (hServed : coordinator.Served start calls order world)
    (hIdle : start.phase = .idle) :
    world.phase = .idle := by
  cases hServed with
  | nil => exact hIdle
  | @snoc _ _ request _ before _ _ _ hBuild =>
      have hPhase := coordinator.phase_build request before
      rw [hBuild] at hPhase
      exact hPhase

theorem buildAll_concat
    {requests : List Request}
    {request : Request}
    {results : List Result}
    {result : Result}
    (hAll :
      coordinator.buildAll requests start = (results, world))
    (hBuild :
      coordinator.build request world = (result, world')) :
    coordinator.buildAll (requests ++ [request]) start =
      (results ++ [result], world') := by
  induction requests generalizing start results with
  | nil =>
      obtain ⟨rfl, rfl⟩ := Prod.mk.inj hAll
      rw [List.nil_append, buildAll, Studio.bind_apply, hBuild]
      rfl
  | cons first requests ih =>
      rw [buildAll, Studio.bind_apply, Studio.bind_apply] at hAll
      obtain ⟨rfl, hWorld⟩ := Prod.mk.inj hAll
      rw [List.cons_append, buildAll, Studio.bind_apply,
        Studio.bind_apply, ih (Prod.ext rfl hWorld)]
      rfl

/-
  Calls made one after another do what building their requests
  does.
-/
theorem Served.buildAll
    (hServed : coordinator.Served start calls order world) :
    ∃ results : List Result,
      (order.filterMap (calls[·]?)).map Call.status =
          results.map .finished ∧
        coordinator.buildAll
            ((order.filterMap (calls[·]?)).map Call.request)
            start =
          (results, world) := by
  induction hServed with
  | nil => exact ⟨[], rfl, rfl⟩
  | @snoc order i request result world world' _ hCall hBuild ih =>
      obtain ⟨results, hStatus, hAll⟩ := ih
      refine ⟨results ++ [result], ?_, ?_⟩
      · simp [List.filterMap_append, hCall, hStatus]
      · rw [List.filterMap_append, List.map_append]
        simpa [hCall] using buildAll_concat hAll hBuild

/-
  Calls have been made one after another, and the one that has
  the slot is on its way.
-/
inductive Progress
    (coordinator : Coordinator)
    (start : World)
    (calls : List Call) :
    Option Nat → List Nat → World → Prop where
  | free
      {order : List Nat}
      {world : World}
      (hServed : Served coordinator start calls order world) :
      Progress coordinator start calls none order world
  | running
      {order : List Nat}
      {i : Nat}
      {request : Request}
      {point : Point}
      {before world : World}
      (hServed : Served coordinator start calls order before)
      (hCall : calls[i]? = some ⟨request, .running point⟩)
      (hLeads :
        coordinator.Leads request (.announceProject, before)
          (point, world)) :
      Progress coordinator start calls (some i) (order ++ [i])
        world
  | leaving
      {order : List Nat}
      {i : Nat}
      {request : Request}
      {result : Result}
      {before world : World}
      (hServed : Served coordinator start calls order before)
      (hCall : calls[i]? = some ⟨request, .leaving result⟩)
      (hBuild :
        coordinator.build request before = (result, world)) :
      Progress coordinator start calls (some i) (order ++ [i])
        world

namespace Progress

variable {slot : Option Nat} {i : Nat} {request : Request}

/- Calls that still wait do not matter. -/
theorem mono
    (hProgress :
      coordinator.Progress start calls slot order world)
    (hCalls :
      ∀ (j : Nat) (call : Call),
        call.status ≠ .waiting →
          calls[j]? = some call → calls'[j]? = some call) :
    coordinator.Progress start calls' slot order world := by
  have hFinished :
      ∀ (j : Nat) (call : Call),
        call.status.Finished →
          calls[j]? = some call → calls'[j]? = some call := by
    rintro j call ⟨result, hResult⟩
    exact hCalls j call (by simp [hResult])
  cases hProgress with
  | free hServed => exact .free (hServed.mono hFinished)
  | running hServed hCall hLeads =>
      exact .running (hServed.mono hFinished)
        (hCalls _ _ (by simp) hCall) hLeads
  | leaving hServed hCall hBuild =>
      exact .leaving (hServed.mono hFinished)
        (hCalls _ _ (by simp) hCall) hBuild

theorem served
    (hProgress :
      coordinator.Progress start calls none order world) :
    coordinator.Served start calls order world := by
  cases hProgress with
  | free hServed => exact hServed

theorem leads
    {point : Point}
    (hProgress :
      coordinator.Progress start calls (some i) order world)
    (hCall : calls[i]? = some ⟨request, .running point⟩) :
    ∃ prior before,
      order = prior ++ [i] ∧
        coordinator.Served start calls prior before ∧
          coordinator.Leads request (.announceProject, before)
            (point, world) := by
  cases hProgress with
  | running hServed hCall' hLeads =>
      rw [hCall, Option.some.injEq, Call.mk.injEq,
        Status.running.injEq] at hCall'
      obtain ⟨rfl, rfl⟩ := hCall'
      exact ⟨_, _, rfl, hServed, hLeads⟩
  | leaving _ hCall' _ =>
      rw [hCall] at hCall'
      simp at hCall'

theorem build
    {result : Result}
    (hProgress :
      coordinator.Progress start calls (some i) order world)
    (hCall : calls[i]? = some ⟨request, .leaving result⟩) :
    ∃ prior before,
      order = prior ++ [i] ∧
        coordinator.Served start calls prior before ∧
          coordinator.build request before = (result, world) := by
  cases hProgress with
  | running _ hCall' _ =>
      rw [hCall] at hCall'
      simp at hCall'
  | leaving hServed hCall' hBuild =>
      rw [hCall, Option.some.injEq, Call.mk.injEq,
        Status.leaving.injEq] at hCall'
      obtain ⟨rfl, rfl⟩ := hCall'
      exact ⟨_, _, rfl, hServed, hBuild⟩

end Progress

/-
  Whatever happens next, the calls are still made one after
  another.
-/
theorem Step.progress
    {state state' : State}
    (hStep : coordinator.Step state state')
    (hRegular : state.Regular)
    (hProgress :
      coordinator.Progress start state.calls state.slot
        state.order state.world) :
    coordinator.Progress start state'.calls state'.slot
      state'.order state'.world := by
  cases hStep with
  | arrive request =>
      refine hProgress.mono fun j call _ hCall => ?_
      obtain ⟨hLt, -⟩ := List.getElem?_eq_some_iff.mp hCall
      rw [List.getElem?_append_left hLt]
      exact hCall
  | grant hSlot hAt =>
      rw [hSlot] at hProgress
      exact .running
        (hProgress.served.put hAt (by simp [Status.Finished]) _)
        (hAt.put _) .refl
  | work hAt hStep =>
      have hSlot := hRegular.slot_eq hAt trivial
      rw [hSlot] at hProgress
      obtain ⟨prior, before, hOrder, hServed, hLeads⟩ :=
        hProgress.leads hAt
      change coordinator.Progress start (state.put _ _ _).calls
        state.slot state.order _
      rw [hSlot, hOrder]
      exact .running
        (hServed.put hAt (by simp [Status.Finished]) _)
        (hAt.put _) (hLeads.tail hStep)
  | finish hAt hStep =>
      have hSlot := hRegular.slot_eq hAt trivial
      rw [hSlot] at hProgress
      obtain ⟨prior, before, hOrder, hServed, hLeads⟩ :=
        hProgress.leads hAt
      change coordinator.Progress start (state.put _ _ _).calls
        state.slot state.order _
      rw [hSlot, hOrder]
      exact .leaving
        (hServed.put hAt (by simp [Status.Finished]) _)
        (hAt.put _) (build_of_leads hLeads hStep)
  | release hAt =>
      rw [hRegular.slot_eq hAt trivial] at hProgress
      obtain ⟨prior, before, hOrder, hServed, hBuild⟩ :=
        hProgress.build hAt
      change coordinator.Progress start (state.put _ _ _).calls
        none state.order state.world
      rw [hOrder]
      exact .free (.snoc
        (hServed.put hAt (by simp [Status.Finished]) _)
        (hAt.put _) hBuild)

/- So it is in every state that is reached. -/
theorem Reachable.regular_progress
    {state : State}
    (hReach : coordinator.Reachable start state) :
    state.Regular ∧
      coordinator.Progress start state.calls state.slot
        state.order state.world := by
  induction hReach with
  | refl => exact ⟨State.regular_initial start, .free .nil⟩
  | tail _ hStep ih =>
      exact ⟨hStep.regular ih.1, hStep.progress ih.1 ih.2⟩

end Coordinator

end PluginStudio

------------------------------------------------------------
-- Every Interleaving
------------------------------------------------------------

namespace PluginStudio

namespace Build

namespace State

theorem filterMap_range (calls : List Call) :
    (List.range calls.length).filterMap (calls[·]?) = calls := by
  induction calls using List.reverseRecOn with
  | nil => rfl
  | append_singleton calls call ih =>
      have hInit :
          (List.range calls.length).filterMap
              ((calls ++ [call])[·]?) =
            (List.range calls.length).filterMap (calls[·]?) := by
        refine List.filterMap_congr fun i hMem => ?_
        rw [List.mem_range] at hMem
        exact List.getElem?_append_left hMem
      rw [List.length_append, List.length_singleton,
        List.range_succ, List.filterMap_append, hInit, ih]
      simp

/- When all calls have finished, all have been given the slot. -/
theorem Regular.perm
    {state : State}
    (hRegular : state.Regular)
    (hFinished : ∀ call ∈ state.calls, call.status.Finished) :
    state.granted.Perm state.calls := by
  have hOrder :
      state.order.Perm (List.range state.calls.length) := by
    refine (List.perm_ext_iff_of_nodup hRegular.nodup
      List.nodup_range).mpr fun i => ?_
    rw [List.mem_range]
    refine ⟨hRegular.lt_length i, fun hLt => ?_⟩
    obtain ⟨result, hResult⟩ :=
      hFinished state.calls[i] (List.getElem_mem hLt)
    refine (hRegular.fits i state.calls[i]
      (List.getElem?_eq_getElem hLt)).granted ?_ ?_ <;>
        simp [hResult]
  have hPerm := hOrder.filterMap (state.calls[·]?)
  rw [filterMap_range] at hPerm
  exact hPerm

end State

end Build

namespace Coordinator

open Build

variable {coordinator : Coordinator} {start : World}
  {state : State}

/- When all calls have finished, no call has the slot. -/
theorem Progress.slot_eq_none
    {calls : List Call}
    {slot : Option Nat}
    {order : List Nat}
    {world : World}
    (hProgress :
      coordinator.Progress start calls slot order world)
    (hFinished : ∀ call ∈ calls, call.status.Finished) :
    slot = none := by
  cases hProgress with
  | free _ => rfl
  | running _ hCall _ =>
      obtain ⟨_, hResult⟩ :=
        hFinished _ (List.mem_of_getElem? hCall)
      simp at hResult
  | leaving _ hCall _ =>
      obtain ⟨_, hResult⟩ :=
        hFinished _ (List.mem_of_getElem? hCall)
      simp at hResult

theorem Reachable.step
    {state' : State}
    (hReach : coordinator.Reachable start state)
    (hStep : coordinator.Step state state') :
    coordinator.Reachable start state' :=
  Relation.ReflTransGen.tail hReach hStep

/-
  A call that waits while the slot is free can be brought to
  wherever its build leads.
-/
theorem steps_of_leads
    (state : State)
    (i : Nat)
    {request : Request}
    (hSlot : state.slot = none)
    (hAt : state.At i request .waiting)
    {here : Point × World}
    (hLeads :
      coordinator.Leads request
        (.announceProject, state.world) here) :
    Relation.ReflTransGen coordinator.Step state
      { state.put i request (.running here.1) with
        world := here.2
        slot := some i
        order := state.order ++ [i] } := by
  induction hLeads with
  | refl => exact .single (.grant hSlot hAt)
  | tail _ hNext ih =>
      have hNext' := ih.tail (.work (hAt.put _) hNext)
      simpa [State.put] using hNext'

/- So it can be made at once. -/
theorem Reachable.serve
    {i : Nat}
    {request : Request}
    (hReach : coordinator.Reachable start state)
    (hSlot : state.slot = none)
    (hAt : state.At i request .waiting)
    {result : Result}
    {world : World}
    (hBuild :
      coordinator.build request state.world = (result, world)) :
    coordinator.Reachable start
      { state.put i request (.finished result) with
        world := world
        slot := none
        order := state.order ++ [i] } := by
  obtain ⟨point, world', hLeads, hClose⟩ :=
    leads_build coordinator request state.world
  rw [hBuild] at hClose
  have hBusy : coordinator.Reachable start _ :=
    hReach.trans (steps_of_leads state i hSlot hAt hLeads)
  have hLeaving := hBusy.step (.finish (hAt.put _) hClose)
  have hFinished := hLeaving.step (.release ((hAt.put _).put _))
  simpa [State.put] using hFinished

/-
  Calls exclude each other.  At most one call at a time has been
  given the slot and is not yet done, the phase is idle while the
  slot is free, and when all calls have finished they have ended,
  and have left the world, as if each had been made when the one
  that was given the slot before it was done.
-/
theorem calls_serialized
    (coordinator : Coordinator)
    (start : World)
    (hIdle : start.phase = .idle)
    (state : State)
    (hReach : coordinator.Reachable start state) :
    (∀ (i j : Nat) (call call' : Call),
        state.calls[i]? = some call →
          state.calls[j]? = some call' →
            call.status.Holding →
              call'.status.Holding → i = j) ∧
      (state.slot = none → state.world.phase = .idle) ∧
        ((∀ call ∈ state.calls, call.status.Finished) →
          state.granted.Perm state.calls ∧
            ∃ results : List Result,
              state.granted.map Call.status =
                  results.map .finished ∧
                coordinator.buildAll
                    (state.granted.map Call.request) start =
                  (results, state.world)) := by
  obtain ⟨hRegular, hProgress⟩ := hReach.regular_progress
  refine ⟨?_, ?_, ?_⟩
  · intro i j call call' hCall hCall' hHolding hHolding'
    exact hRegular.holder_unique hCall hCall' hHolding hHolding'
  · intro hSlot
    rw [hSlot] at hProgress
    exact hProgress.served.phase hIdle
  · intro hFinished
    rw [hProgress.slot_eq_none hFinished] at hProgress
    exact ⟨hRegular.perm hFinished, hProgress.served.buildAll⟩

/-
  Two calls of the same name, the later given the slot first, in
  a world where nothing can be run.
-/
theorem calls_serialized_of_two :
    let coordinator : Coordinator :=
      ⟨"/builds", ⟨"mvn", [], "/"⟩,
        fun _ => pure (.error (.system 2))⟩
    let start : World := ⟨⟨[]⟩, [], 0, [], []⟩
    let first : Request := { pluginName := "X" }
    let second : Request := { pluginName := "X", version := "2" }
    ∃ state,
      coordinator.Reachable start state ∧
        state.granted.map Call.request = [second, first] ∧
          state.world.phase = .idle ∧
            ∃ results : List Result,
              state.granted.map Call.status =
                  results.map .finished ∧
                coordinator.buildAll [second, first] start =
                  (results, state.world) := by
  intro coordinator start first second
  have hArrived :
      coordinator.Reachable start
        ⟨start, none,
          [⟨first, .waiting⟩, ⟨second, .waiting⟩], []⟩ :=
    Reachable.step
      (Reachable.step .refl (.arrive (State.initial start) first))
      (.arrive _ second)
  obtain ⟨result₁, world₁, hBuild₁⟩ :
      ∃ result world,
        coordinator.build second start = (result, world) :=
    ⟨_, _, rfl⟩
  have hSecond :
      coordinator.Reachable start
        ⟨world₁, none,
          [⟨first, .waiting⟩, ⟨second, .finished result₁⟩],
          [1]⟩ :=
    hArrived.serve (i := 1) rfl rfl hBuild₁
  obtain ⟨result₂, world₂, hBuild₂⟩ :
      ∃ result world,
        coordinator.build first world₁ = (result, world) :=
    ⟨_, _, rfl⟩
  have hFirst :
      coordinator.Reachable start
        ⟨world₂, none,
          [⟨first, .finished result₂⟩,
            ⟨second, .finished result₁⟩],
          [1, 0]⟩ :=
    hSecond.serve (i := 0) rfl rfl hBuild₂
  obtain ⟨-, hPhase, hEnd⟩ :=
    calls_serialized coordinator start rfl _ hFirst
  exact ⟨_, hFirst, rfl, hPhase rfl,
    (hEnd (by simp [Status.Finished])).2⟩

end Coordinator

end PluginStudio
