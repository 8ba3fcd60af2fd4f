import RcController.Lib.Runs
import RcController.Model.Loop

/-!
# The loop refines the system

Every step of the two cores is matched by at most one event of the system, and a run of
the firmware by the run of the system over what its steps emit (`runtime_refines`). What
holds of every run of the system therefore holds of `loop()`, whatever the Bluetooth side
does in between.

`Synced` is what the refinement rests on beyond the shape of the steps, and what the other
results about the loop build on: between the callbacks, the controllers that `BP32` calls
connected are those the last comparison found, and the gamepad of the sketch is one of
them.
-/

namespace RcController

open DeviceProg Runs

namespace Runtime

variable {b : Board} {s : Runtime}

/-! ### Refinement -/

/-- The event of the system that a step is, if any. The Bluetooth side emits
nothing by itself: what it does is noticed by a later poll, and becomes a
callback there. A callback emits `connect` or `disconnect` when the flags of the
two passes differ. -/
def systemEvents (s : Runtime) : RuntimeEvent → List Event
  | .bt _ => []
  | .elapse ms => [.elapse ms]
  | .cpu incoming =>
    match s.pc with
    | .poll _ _ => []
    | .fetch _ _ _ => []
    | .notify [] _ => []
    | .notify (i :: _) conn =>
      if conn i = s.bluepad.prevConnectedControllers i then []
      else if conn i then [.connect i (s.bluepad.controllers i).kind]
      else [.disconnect i]
    | .scheduler => [.schedulerTick]
    | .serve =>
      match incoming with
      | none => []
      | some r => [.request r.request r.plan r.restartPlan]
    | .tick => [.tick s.packet]

/-- The flags that the sketch sees after one controller was replaced: one flag
is updated. The callbacks and the reading of a seat all go through
`setController`, so this is the only place where the arrays are unfolded. -/
theorem connected_setController (i : ControllerIdx) (c : Controller) (t : Bluepad32) :
    (fun j => ((t.setController i c).controllers j).connected) =
      Function.update (fun j => (t.controllers j).connected) i c.connected := by
  funext j
  by_cases hj : j = i
  · subst hj
    simp [Bluepad32.setController]
  · simp [Bluepad32.setController, hj]

/-- The callback of a connection marks the controller first. -/
theorem connected_onConnected (i : ControllerIdx) (bridge : Bridge) (t : Bluepad32) :
    (fun j => ((t.onConnected i bridge).controllers j).connected) =
      Function.update (fun j => (t.controllers j).connected) i true :=
  connected_setController i _ t

/-- The callback of a loss clears the mark. -/
theorem connected_onDisconnected (i : ControllerIdx) (t : Bluepad32) :
    (fun j => ((t.onDisconnected i).controllers j).connected) =
      Function.update (fun j => (t.controllers j).connected) i false :=
  connected_setController i _ t

/-- Whether a controller is a gamepad is part of its data, which the callback
does not touch. So the event that is emitted before the step names the kind that
the sketch sees. -/
theorem kind_onConnected (i : ControllerIdx) (bridge : Bridge) (t : Bluepad32) :
    ((t.onConnected i bridge).controllers i).kind = (t.controllers i).kind := by
  simp only [Bluepad32.onConnected, Bluepad32.setController, Function.update_self, Controller.kind]

/-- Reading the data of a seat changes no flag. -/
theorem connected_fetch (i : ControllerIdx) (bridge : Bridge) (t : Bluepad32) :
    (fun j => ((t.fetch i bridge).2.controllers j).connected) =
      fun j => (t.controllers j).connected := by
  unfold Bluepad32.fetch
  split <;> exact (connected_setController i _ t).trans (Function.update_eq_self i _)

/-- **A callback is the event it emits.** When the flags agree nothing is called
and nothing is emitted. Otherwise the step of the loop and the event do the same
two things, in the same order: they set the flag and call the sketch back. -/
theorem system_notifySeat (i : ControllerIdx) (rest : List ControllerIdx)
    (conn : ControllerIdx → Bool) (hpc : s.pc = .notify (i :: rest) conn) :
    (s.notifySeat i conn).system = run (System.step b) s.system (s.systemEvents (.cpu none)) := by
  simp only [notifySeat, systemEvents, hpc]
  split
  · rfl
  · split
    · -- the controller is marked connected before the sketch is called back
      simp only [system, run_cons, run_nil, System.step, connected_onConnected, kind_onConnected]
    · simp only [system, run_cons, run_nil, System.step, connected_onDisconnected]

/-- A request that is served is the request of the system. The two definitions
agree on when the device restarts, and on what is left in each case. -/
theorem system_serveRequest (b : Board) (r : Incoming) (s : Runtime) :
    (s.serveRequest b (some r)).system =
      s.system.request b r.request r.plan r.restartPlan := by
  simp only [serveRequest, System.request]
  by_cases hrestart : r.request.endpoint = .apConfigApplyReboot ∧
      ((handleRequest b s.millis r.request s.sketch).run nvsDevice r.plan s.nvs).1.2.ok = true
  · rw [if_pos hrestart]
    exact (if_pos hrestart).symm
  · rw [if_neg hrestart]
    exact (if_neg hrestart).symm

/-- **One step of `loop()`** is the event it emits, or none. The poll and the
reading of seats stay below the level of the system: they move data between the
cores and the `Controller` objects, and no flag. -/
theorem system_cpu (b : Board) (incoming : Option Incoming) (s : Runtime) :
    (s.cpu b incoming).system =
      run (System.step b) s.system (s.systemEvents (.cpu incoming)) := by
  cases hpc : s.pc with
  | poll rest conn =>
    cases rest <;> simp only [cpu, systemEvents, hpc] <;> split <;> rfl
  | fetch i rest conn =>
    simp only [cpu, systemEvents, hpc, run_nil, system, connected_fetch]
  | notify rest conn =>
    cases rest with
    | nil => simp only [cpu, systemEvents, hpc, run_nil, system]
    | cons i rest =>
      have hnotify := system_notifySeat (b := b) i rest conn hpc
      have hevents : s.systemEvents (.cpu incoming) = s.systemEvents (.cpu none) := by
        simp only [systemEvents, hpc]
      -- where `loop()` is does not count in the system
      rw [hevents, ← hnotify]
      simp only [cpu, hpc, system]
  | scheduler => simp only [cpu, systemEvents, hpc, run_cons, run_nil, system, System.step]
  | serve =>
    cases incoming with
    | none => simp only [cpu, serveRequest, systemEvents, hpc, run_nil, system]
    | some r =>
      have hserve := system_serveRequest b r s
      simp only [cpu, systemEvents, hpc, run_cons, run_nil, System.step]
      exact hserve
  | tick => simp only [cpu, systemEvents, hpc, run_cons, run_nil, system, System.step]

/-- **One step of the two cores** is the event it emits. The Bluetooth side
changes the seats only, which the system does not see. -/
theorem system_step (b : Board) (s : Runtime) (e : RuntimeEvent) :
    (s.step b e).system = run (System.step b) s.system (s.systemEvents e) := by
  cases e with
  | bt e => rfl
  | elapse ms => rfl
  | cpu incoming => exact system_cpu b incoming s

/-! ### The callbacks -/

/-- The controllers that `BP32` calls connected: what the pass before found, and
while the callbacks are made what this pass found, for the seats that have had
theirs. The flags of the controllers change one by one during the callbacks, and
`prevConnectedControllers` only after the last of them. -/
def accounted (s : Runtime) : ControllerIdx → Bool :=
  match s.pc with
  | .notify rest conn => fun i =>
    if i ∈ rest then s.bluepad.prevConnectedControllers i else conn i
  | _ => s.bluepad.prevConnectedControllers

/-- The seats that `loop()` counts on: those it found taken, in this pass where
it has looked already and in the pass before elsewhere. It is what
`prevConnectedControllers` will be, if the seats not looked at yet have stayed
as they were. -/
def counted (s : Runtime) (i : ControllerIdx) : Bool :=
  match s.pc with
  | .poll rest conn => if i ∈ rest then s.bluepad.prevConnectedControllers i else conn i
  | .fetch j rest conn =>
    if i = j then true
    else if i ∈ rest then s.bluepad.prevConnectedControllers i else conn i
  | .notify _ conn => conn i
  | .scheduler | .serve | .tick => s.bluepad.prevConnectedControllers i

/-- **`BP32` and its controllers agree**, and the seats that await their
callback are distinct, so that no controller is called back twice in a pass. -/
structure Synced (s : Runtime) : Prop where
  flags : ∀ i, (s.bluepad.controllers i).connected = s.accounted i
  nodup : ∀ rest conn, s.pc = .notify rest conn → rest.Nodup

/-- Outside the callbacks nothing but the pass before counts. -/
theorem accounted_eq (hpc : ∀ rest conn, s.pc ≠ .notify rest conn) :
    s.accounted = s.bluepad.prevConnectedControllers := by
  unfold accounted
  split
  · next rest conn heq => exact absurd heq (hpc rest conn)
  · rfl

/-- After a boot no controller is connected and no pass has found one. -/
theorem synced_boot (b : Board) (nvs : NvsStore) (plan : Prog.Plan nvsInterface)
    (millis : UInt32) : (boot b nvs plan millis).Synced where
  flags _ := rfl
  nodup _ _ h := by cases h

/-- A step outside the callbacks that leaves the flags of `BP32` alone. All
steps but the callbacks are of this kind. -/
theorem Synced.of_same {s' : Runtime} (h : s.Synced) (haccounted : s'.accounted = s.accounted)
    (hpc : ∀ rest conn, s'.pc = .notify rest conn → rest.Nodup)
    (hflags : (fun i => (s'.bluepad.controllers i).connected) =
      fun i => (s.bluepad.controllers i).connected) : s'.Synced where
  flags i := by
    rw [haccounted, ← h.flags i]
    exact congrFun hflags i
  nodup := hpc

/-- The flags of the controllers after the comparison of one seat: the flag of
that seat is what this pass found. When nothing is called the flag has that
value already, since it is the one of the pass before (`hi`). -/
theorem connected_notifySeat (i : ControllerIdx) (conn : ControllerIdx → Bool)
    (hi : (s.bluepad.controllers i).connected = s.bluepad.prevConnectedControllers i) :
    (fun j => ((s.notifySeat i conn).bluepad.controllers j).connected) =
      Function.update (fun j => (s.bluepad.controllers j).connected) i (conn i) := by
  unfold notifySeat
  split
  · -- the flag of the seat is as it was, or the loop calls one of its two callbacks
    next hsame =>
    rw [hsame, ← hi]
    exact (Function.update_eq_self i _).symm
  · split
    · next hconn =>
      rw [hconn]
      exact connected_onConnected i s.bridge s.bluepad
    · next hconn =>
      rw [Bool.not_eq_true] at hconn
      rw [hconn]
      exact connected_onDisconnected i s.bluepad

/-- The callbacks do not touch what the pass before found. It is replaced when
all of them have been made. -/
theorem prev_notifySeat (i : ControllerIdx) (conn : ControllerIdx → Bool) :
    (s.notifySeat i conn).bluepad.prevConnectedControllers =
      s.bluepad.prevConnectedControllers := by
  unfold notifySeat
  split
  · rfl
  · split <;> rfl

/-- **After a callback.** The seat has had its callback, so it moves from the
seats that are accounted for by the pass before to those that are by this pass;
its flag moves with it (`connected_notifySeat`). It does not come again, as the
list has no duplicates. -/
theorem synced_notify {i : ControllerIdx} {rest : List ControllerIdx}
    {conn : ControllerIdx → Bool} (h : s.Synced) (hpc : s.pc = .notify (i :: rest) conn) :
    ({ s.notifySeat i conn with pc := .notify rest conn } : Runtime).Synced := by
  have hnodup := List.nodup_cons.mp (h.nodup _ _ hpc)
  have haccounted : ∀ j, s.accounted j =
      if j ∈ i :: rest then s.bluepad.prevConnectedControllers j else conn j := by
    intro j
    simp only [accounted, hpc]
  -- seat `i` awaits its callback, so its flag is the one of the pass before
  have hi := (h.flags i).trans ((haccounted i).trans (if_pos List.mem_cons_self))
  refine ⟨fun j => ?_, fun rest' conn' heq => ?_⟩
  · have hflag := congrFun (connected_notifySeat i conn hi) j
    refine hflag.trans ?_
    simp only [accounted, prev_notifySeat]
    by_cases hj : j = i
    · subst hj
      rw [Function.update_self, if_neg hnodup.1]
    · rw [Function.update_of_ne hj, h.flags j, haccounted j]
      simp only [List.mem_cons, hj, false_or]
  · cases heq
    exact hnodup.2

/-- **Every step of `loop()` keeps the flags in step.** Only the callbacks
change flags (`synced_notify`); the poll, the reading of a seat, the scheduler,
a request and the control tick leave them. When the callbacks begin all seats
still await theirs, and when they end none does. -/
theorem synced_cpu (h : s.Synced) (incoming : Option Incoming) : (s.cpu b incoming).Synced := by
  cases hpc : s.pc with
  | poll rest conn =>
    have haccounted := accounted_eq (s := s) (by simp [hpc])
    cases rest with
    -- the round begins, or nobody has written anything
    | nil =>
      simp only [cpu, hpc]
      split
      · exact h.of_same haccounted.symm (fun _ _ heq => by cases heq) rfl
      · refine h.of_same ?_ (fun rest conn' heq => ?_) rfl
        · -- the flags are copied for all four seats, so the copy accounts for everything
          rw [haccounted]
          funext i
          exact if_pos (List.mem_finRange i)
        · cases heq
          exact List.nodup_finRange 4
    -- the slots are polled one by one
    | cons i rest =>
      simp only [cpu, hpc]
      split
      · exact h.of_same haccounted.symm (fun _ _ heq => by cases heq) rfl
      · exact h.of_same haccounted.symm (fun _ _ heq => by cases heq) rfl
  -- fetching a packet clears its mark, and connects nobody
  | fetch i rest conn =>
    have haccounted := accounted_eq (s := s) (by simp [hpc])
    simp only [cpu, hpc]
    refine h.of_same ?_ (fun _ _ heq => by cases heq) (connected_fetch i s.bridge s.bluepad)
    rw [haccounted]
    simp only [accounted, Bluepad32.fetch]
    split <;> rfl
  | notify rest conn =>
    cases rest with
    | nil =>
      have haccounted : s.accounted = conn := by
        simp only [accounted, hpc, List.not_mem_nil, if_false]
      simp only [cpu, hpc]
      exact h.of_same haccounted.symm (fun _ _ heq => by cases heq) rfl
    | cons i rest =>
      have hcpu : s.cpu b incoming = { s.notifySeat i conn with pc := .notify rest conn } := by
        simp only [cpu, hpc]
      rw [hcpu]
      exact synced_notify h hpc
  | scheduler =>
    have haccounted := accounted_eq (s := s) (by simp [hpc])
    simp only [cpu, hpc]
    exact h.of_same haccounted.symm (fun _ _ heq => by cases heq) rfl
  | serve =>
    have haccounted := accounted_eq (s := s) (by simp [hpc])
    simp only [cpu, hpc]
    cases incoming with
    | none => exact h.of_same haccounted.symm (fun _ _ heq => by cases heq) rfl
    | some r =>
      simp only [serveRequest]
      split
      · exact synced_boot b _ r.restartPlan 0
      · exact h.of_same haccounted.symm (fun _ _ heq => by cases heq) rfl
  | tick =>
    have haccounted := accounted_eq (s := s) (by simp [hpc])
    simp only [cpu, hpc]
    exact h.of_same haccounted.symm (fun _ _ heq => by cases heq) rfl

/-- The Bluetooth side and the clock do not touch the flags. -/
theorem synced_step (h : s.Synced) (e : RuntimeEvent) : (s.step b e).Synced := by
  cases e with
  | bt e => exact ⟨h.flags, h.nodup⟩
  | elapse ms => exact ⟨h.flags, h.nodup⟩
  | cpu incoming => exact synced_cpu h incoming

end Runtime

/-- A callback reports a change: a controller comes that was not connected, or
one goes that was. -/
def System.Changes (s : System) : Event → Prop
  | .connect ctl _ => s.connected ctl = false
  | .disconnect ctl => s.connected ctl = true
  | .request _ _ _ | .tick _ | .schedulerTick | .elapse _ => True

namespace Runtime

variable {b : Board} {s : Runtime}

/-- **What a step emits is a change.** A callback is made when the two passes
differ on a seat; that the flag of the controller is still the one of the pass
before, so that the callback does change it, is what `Synced` says of a seat
that awaits its callback. -/
theorem changes_systemEvents (h : s.Synced) (e : RuntimeEvent) :
    StepsMeet (System.step b) System.Changes s.system (s.systemEvents e) := by
  cases e with
  | bt e => trivial
  | elapse ms => exact ⟨trivial, trivial⟩
  | cpu incoming =>
    cases hpc : s.pc with
    | poll rest conn => simp only [systemEvents, hpc]; trivial
    | fetch i rest conn => simp only [systemEvents, hpc]; trivial
    | notify rest conn =>
      cases rest with
      | nil => simp only [systemEvents, hpc]; trivial
      | cons i rest =>
        have hi : (s.bluepad.controllers i).connected = s.bluepad.prevConnectedControllers i := by
          rw [h.flags i]
          simp only [accounted, hpc, List.mem_cons_self, if_true]
        simp only [systemEvents, hpc]
        split
        · -- nothing has changed at this seat, and nothing is emitted
          trivial
        · -- the copy differs from the flags of the last round, so the callback is a
          -- change
          next hchange =>
          rw [← hi] at hchange
          split
          · next hconn =>
            rw [hconn] at hchange
            exact ⟨by simpa [system, System.Changes] using Ne.symm hchange, trivial⟩
          · next hconn =>
            rw [Bool.not_eq_true] at hconn
            rw [hconn] at hchange
            exact ⟨by simpa [system, System.Changes] using Ne.symm hchange, trivial⟩
    | scheduler => simp only [systemEvents, hpc]; exact ⟨trivial, trivial⟩
    | serve =>
      simp only [systemEvents, hpc]
      cases incoming with
      | none => trivial
      | some r => exact ⟨trivial, trivial⟩
    | tick => simp only [systemEvents, hpc]; exact ⟨trivial, trivial⟩

/-- **The loop refines the system.** However the Bluetooth side, the clock and
`loop()` interleave, the sketch goes through a run of the system, in which every
callback reports a change. -/
theorem runtime_refines (b : Board) (nvs : NvsStore) (plan : Prog.Plan nvsInterface)
    (millis : UInt32) (es : List RuntimeEvent) :
    let start := boot b nvs plan millis
    let events := trace (step b) systemEvents start es
    (run (step b) start es).system = run (System.step b) (System.boot b nvs plan millis) events ∧
      StepsMeet (System.step b) System.Changes (System.boot b nvs plan millis) events := by
  intro start events
  refine ⟨run_refines system (system_step b) start es, ?_⟩
  exact stepsMeet_trace (I := Synced) system (fun _ e h => synced_step h e)
    (fun t e _ => system_step b t e) (fun _ e h => changes_systemEvents h e)
    (synced_boot b nvs plan millis) es

/-! ### A gamepad arrives -/

/-- A gamepad with the given address. The other fields are those of a common
Bluetooth gamepad. -/
def gamepadInfo (btaddr : BitVec 48) : HidInfo where
  btaddr := btaddr
  controllerType := 39
  vendorId := 0x045e
  productId := 0x0b13
  setPlayerLeds := false
  playDualRumble := true
  setLightbarColor := false

/-- It is found, opens its channel and is set up. -/
def arrives (d : DeviceIdx) (btaddr : BitVec 48) : List RuntimeEvent :=
  [.bt (.create (gamepadInfo btaddr)), .bt (.connect d), .bt (.setReady d),
    .bt (.setReadyComplete d)]

/-- Steps of `loop()` without a request. -/
def loopSteps (n : ℕ) : List RuntimeEvent := List.replicate n (.cpu none)

end Runtime

end RcController
