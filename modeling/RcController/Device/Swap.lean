import RcController.Device.Seats

/-!
# Controllers that change seats unseen

`loop()` looks at the seats once in every pass, and knows a controller by its seat. A
device that takes a seat which another one has left since the last look is taken for the
old one: no callback is made, and the properties that the `Controller` object has are
those of the device that is gone.

`swap_iff` says exactly when this happens: in every interleaving, the properties of every
connected controller are those of the device in its seat if and only if no device with
other properties is admitted to a seat that `loop()` still counts on (`counted`). What
`loop()` counts on is what it will have after the callbacks of the pass: a seat that it
has found free in this pass may be taken again at once.
-/

namespace RcController

open DeviceProg Runs

namespace Runtime

variable {b : Board} {s : Runtime} {i : ControllerIdx}

/-- A connected controller on a seat that `loop()` counts on has the properties
of the device that is in the seat. About a seat that is free nothing is said:
its controller is told so in the next pass. -/
def KnowsDevices (s : Runtime) : Prop :=
  ∀ i, (s.bluepad.controllers i).connected = true → s.counted i = true →
    (s.bridge.controllers i).taken = true →
      (s.bluepad.controllers i).properties = (s.bridge.controllers i).properties

/-- No seat that `loop()` counts on, for a connected controller, is given to a
device with other properties. -/
def NoSwap (s : Runtime) : RuntimeEvent → Prop
  | .bt e => ∀ i p, s.bridge.Admits i p e → (s.bluepad.controllers i).connected = true →
      s.counted i = true → (s.bluepad.controllers i).properties = p
  | .elapse _ | .cpu _ => True

/-- The seats that the pass has not looked at yet: each comes once, and none is
counted as connected so far. With it the flag that a pass builds can be compared
with the one of the pass before. -/
def Unseen (s : Runtime) : Prop :=
  match s.pc with
  | .poll rest conn => rest.Nodup ∧ ∀ i ∈ rest, conn i = false
  | .fetch j rest conn => (j :: rest).Nodup ∧ ∀ i ∈ rest, conn i = false
  | .notify _ _ | .scheduler | .serve | .tick => True

/-- **The invariant.** Beside the property itself (`knows`) it says that the
flags of the controllers are those of the last complete pass (`synced`), and
what the current pass has still to do (`unseen`). Without these the poll could
not be followed: what `loop()` counts on is put together from both passes. -/
structure Recognised (s : Runtime) : Prop where
  synced : s.Synced
  unseen : s.Unseen
  knows : s.KnowsDevices

/-- After a boot no controller is connected, and the first pass has all seats
before it. -/
theorem recognised_boot (b : Board) (nvs : NvsStore) (plan : Prog.Plan nvsInterface)
    (millis : UInt32) : (boot b nvs plan millis).Recognised where
  synced := synced_boot b nvs plan millis
  unseen := ⟨List.nodup_finRange 4, fun _ _ => rfl⟩
  knows _ h := by cases h

/-- **A Bluetooth event.** The controllers do not change, and a seat changes in
one of four ways (`SeatStep`). A report leaves the properties, a freed seat is
not taken any more, and a seat that is given has the right properties by the
condition on the event. -/
theorem Recognised.bt (h : s.Recognised) {e : BtEvent} (hswap : s.NoSwap (.bt e)) :
    (s.step b (.bt e)).Recognised where
  synced := synced_step h.synced (.bt e)
  unseen := h.unseen
  knows i hconnected hcounted htaken := by
    change (s.bluepad.controllers i).connected = true at hconnected
    change s.counted i = true at hcounted
    change ((s.bridge.step e).controllers i).taken = true at htaken
    change _ = ((s.bridge.step e).controllers i).properties
    -- one case for each thing that an event can do to the seat
    have hseat := s.bridge.seatStep e i
    generalize (s.bridge.step e).controllers i = seat at hseat htaken ⊢
    cases hseat with
    | same hreport => exact h.knows i hconnected hcounted htaken
    | freed hreport => cases htaken
    | put ctl hreport => exact h.knows i hconnected hcounted htaken
    | given p hreport hadmits => exact hswap i p hadmits hconnected hcounted

/-- A step of `loop()` that leaves the controllers and the occupants alone, and
counts on no more connected controllers than before. Most steps are of this
kind; only the callbacks change a controller. -/
theorem KnowsDevices.of_same {s' : Runtime} (h : s.KnowsDevices)
    (hcontrollers : ∀ i,
      (s'.bluepad.controllers i).connected = (s.bluepad.controllers i).connected ∧
      (s'.bluepad.controllers i).properties = (s.bluepad.controllers i).properties)
    (hseats : ∀ i, (s'.bridge.controllers i).taken = (s.bridge.controllers i).taken ∧
      (s'.bridge.controllers i).properties = (s.bridge.controllers i).properties)
    (hcounted : ∀ i, (s.bluepad.controllers i).connected = true → s'.counted i = true →
      s.counted i = true) : s'.KnowsDevices := by
  intro i hconnected hcount htaken
  rw [(hcontrollers i).1] at hconnected
  rw [(hseats i).1] at htaken
  rw [(hcontrollers i).2, (hseats i).2]
  exact h i hconnected (hcounted i hconnected hcount) htaken

/-- Reading the data of a seat changes neither the controller nor the occupant
otherwise. -/
theorem fetch_same (j : ControllerIdx) (bridge : Bridge) (t : Bluepad32) (i : ControllerIdx) :
    (((t.fetch j bridge).2.controllers i).connected = (t.controllers i).connected ∧
      ((t.fetch j bridge).2.controllers i).properties = (t.controllers i).properties) ∧
    (((t.fetch j bridge).1.controllers i).taken = (bridge.controllers i).taken ∧
      ((t.fetch j bridge).1.controllers i).properties = (bridge.controllers i).properties) := by
  unfold Bluepad32.fetch
  by_cases hij : i = j
  · subst hij
    split <;> simp [Bluepad32.setController, Bridge.setSeat]
  · split <;> simp [Bluepad32.setController, Bridge.setSeat, hij]

/-- After its callback a controller has the properties of the device in its
seat. When the flags of both passes agree nothing is called, and the property is
the one from before. A controller that is told of a connection copies the
properties out of the seat; one that is told of a loss is no longer connected.
The other controllers do not change, and `loop()` counts on the same seats as
before the step. -/
theorem knows_notifySeat {j : ControllerIdx} {rest : List ControllerIdx}
    {conn : ControllerIdx → Bool} (h : s.KnowsDevices) (hpc : s.pc = .notify (j :: rest) conn) :
    ({ s.notifySeat j conn with pc := .notify rest conn } : Runtime).KnowsDevices := by
  intro i hconnected hcounted htaken
  have hbefore : s.counted i = conn i := by simp only [counted, hpc]
  change conn i = true at hcounted
  change ((s.notifySeat j conn).bluepad.controllers i).connected = true at hconnected
  change ((s.notifySeat j conn).bluepad.controllers i).properties =
    ((s.notifySeat j conn).bridge.controllers i).properties
  change ((s.notifySeat j conn).bridge.controllers i).taken = true at htaken
  -- the flags of the two passes agree, or the controller connects, or it is lost
  unfold notifySeat at hconnected htaken ⊢
  split at hconnected
  · next hsame =>
    rw [if_pos hsame] at htaken ⊢
    exact h i hconnected (hbefore.trans hcounted) htaken
  · next hchange =>
    rw [if_neg hchange] at htaken ⊢
    split at hconnected
    · next hconn =>
      rw [if_pos hconn] at htaken ⊢
      change (s.bridge.controllers i).taken = true at htaken
      by_cases hij : i = j
      · subst hij
        -- `onConnected` copies the properties out of the seat
        simp [Bluepad32.onConnected, Bluepad32.setController, htaken]
      · simp only [Bluepad32.onConnected, Bluepad32.setController,
          Function.update_of_ne hij] at hconnected ⊢
        exact h i hconnected (hbefore.trans hcounted) htaken
    · next hconn =>
      rw [if_neg hconn] at htaken ⊢
      change (s.bridge.controllers i).taken = true at htaken
      by_cases hij : i = j
      · subst hij
        -- a controller that is told of a loss is not connected
        simp [Bluepad32.onDisconnected, Bluepad32.setController] at hconnected
      · simp only [Bluepad32.onDisconnected, Bluepad32.setController,
          Function.update_of_ne hij] at hconnected ⊢
        exact h i hconnected (hbefore.trans hcounted) htaken

/-- A step that changes nothing but where `loop()` is. What it counts on may
still change, since that depends on how far the pass has come. -/
theorem Recognised.of_pc {pc' : LoopPc} (h : s.Recognised)
    (hsynced : ({ s with pc := pc' } : Runtime).Synced)
    (hunseen : ({ s with pc := pc' } : Runtime).Unseen)
    (hcounted : ∀ i, (s.bluepad.controllers i).connected = true →
      ({ s with pc := pc' } : Runtime).counted i = true → s.counted i = true) :
    ({ s with pc := pc' } : Runtime).Recognised where
  synced := hsynced
  unseen := hunseen
  knows := h.knows.of_same (fun _ => ⟨rfl, rfl⟩) (fun _ => ⟨rfl, rfl⟩) hcounted

/-- **One step of the poll**: the next seat is looked at, or the pass is
compared with the one before. A seat that is taken is read next; one that is
free is no longer counted on from here. The flag of a seat that has not been
looked at yet is the one of the pass before, and for a connected controller this
flag is set. -/
theorem Recognised.poll {rest : List ControllerIdx} {conn : ControllerIdx → Bool}
    {incoming : Option Incoming} (h : s.Recognised) (hpc : s.pc = .poll rest conn)
    (hsynced : (s.cpu b incoming).Synced) : (s.cpu b incoming).Recognised := by
  have hunseen : rest.Nodup ∧ ∀ i ∈ rest, conn i = false := by
    simpa only [Unseen, hpc] using h.unseen
  have hbefore : ∀ i, s.counted i =
      if i ∈ rest then s.bluepad.prevConnectedControllers i else conn i := by
    intro i
    simp only [counted, hpc]
  cases rest with
  -- the pass is over: what was counted is the copy
  | nil =>
    have hconn : s.counted = conn := funext fun i => (hbefore i).trans (if_neg List.not_mem_nil)
    simp only [cpu, hpc] at hsynced ⊢
    split at hsynced
    · next hsame =>
      rw [if_pos hsame]
      refine h.of_pc hsynced trivial fun i _ hcounted => ?_
      rw [hconn, hsame]
      exact hcounted
    · -- it differs from the flags of the last round, and the callbacks follow
      next hchange =>
      rw [if_neg hchange]
      refine h.of_pc hsynced trivial fun i _ hcounted => ?_
      rw [hconn]
      exact hcounted
  -- seat `j` is looked at next, and is taken or free
  | cons j rest =>
    obtain ⟨hnodup, hconn⟩ := hunseen
    obtain ⟨hj, hrest⟩ := List.nodup_cons.mp hnodup
    simp only [cpu, hpc] at hsynced ⊢
    split at hsynced
    · next htaken =>
      rw [if_pos htaken]
      refine h.of_pc hsynced ⟨hnodup, fun i hi => hconn i (List.mem_cons_of_mem j hi)⟩
        fun i hconnected hcounted => ?_
      rw [hbefore]
      by_cases hij : i = j
      · -- a connected controller was counted on in the pass before
        subst hij
        rw [h.synced.flags, accounted_eq (by simp [hpc])] at hconnected
        rw [if_pos List.mem_cons_self]
        exact hconnected
      · simpa only [counted, List.mem_cons, hij, false_or, if_false] using hcounted
    · next hfree =>
      rw [if_neg hfree]
      refine h.of_pc hsynced ⟨hrest, fun i hi => hconn i (List.mem_cons_of_mem j hi)⟩
        fun i _ hcounted => ?_
      rw [hbefore]
      by_cases hij : i = j
      · -- the pass has found seat `j` free
        subst hij
        simp only [counted, if_neg hj, hconn i List.mem_cons_self] at hcounted
        cases hcounted
      · simpa only [counted, List.mem_cons, hij, false_or] using hcounted

/-- The data of a seat is read, which changes neither the connection of the
controller nor the occupant of the seat (`fetch_same`). `loop()` counts on the
same seats afterwards: the one that is read was counted on already. -/
theorem Recognised.fetch {j : ControllerIdx} {rest : List ControllerIdx}
    {conn : ControllerIdx → Bool} {incoming : Option Incoming} (h : s.Recognised)
    (hpc : s.pc = .fetch j rest conn) (hsynced : (s.cpu b incoming).Synced) :
    (s.cpu b incoming).Recognised := by
  have hunseen : (j :: rest).Nodup ∧ ∀ i ∈ rest, conn i = false := by
    simpa only [Unseen, hpc] using h.unseen
  obtain ⟨hj, hrest⟩ := List.nodup_cons.mp hunseen.1
  have hfetch := fetch_same j s.bridge s.bluepad
  refine ⟨hsynced, ?_, h.knows.of_same (fun i => ?_) (fun i => ?_) fun i _ hcounted => ?_⟩
  · simp only [cpu, hpc, Unseen]
    refine ⟨hrest, fun i hi => ?_⟩
    have hij : i ≠ j := fun heq => hj (heq ▸ hi)
    rw [Function.update_of_ne hij]
    exact hunseen.2 i hi
  · simp only [cpu, hpc]
    exact (hfetch i).1
  · simp only [cpu, hpc]
    exact (hfetch i).2
  · have hprev : (s.cpu b incoming).bluepad.prevConnectedControllers =
        s.bluepad.prevConnectedControllers := by
      simp only [cpu, hpc, Bluepad32.fetch]
      split <;> rfl
    simp only [counted, hpc]
    by_cases hij : i = j
    · rw [if_pos hij]
    · rw [if_neg hij]
      -- the other seats are counted on as before
      have hcount : (s.cpu b incoming).counted i =
          if i ∈ rest then s.bluepad.prevConnectedControllers i else conn i := by
        rw [← hprev]
        simp only [counted, cpu, hpc, Function.update_of_ne hij]
      exact hcount.symm.trans hcounted

/-- **One step of `loop()`.** The cases follow where it is. The poll and the
reading of a seat have lemmas of their own; a callback makes a controller equal
to its seat (`knows_notifySeat`); the scheduler, a request and the control tick
change neither controllers nor seats, except that a request may restart the
device, which then knows no controller at all. -/
theorem Recognised.cpu (h : s.Recognised) (incoming : Option Incoming) :
    (s.cpu b incoming).Recognised := by
  have hsynced : (s.cpu b incoming).Synced := synced_cpu h.synced incoming
  -- polling and fetching have lemmas of their own; the callbacks keep what was counted,
  -- and no other instruction looks at the seats
  cases hpc : s.pc with
  | poll rest conn => exact h.poll hpc hsynced
  | fetch j rest conn => exact h.fetch hpc hsynced
  | notify rest conn =>
    cases rest with
    | nil =>
      refine ⟨hsynced, by simp only [Runtime.cpu, hpc, Unseen], ?_⟩
      refine h.knows.of_same (fun i => ?_) (fun i => ?_) fun i _ hcounted => ?_
      · simp only [Runtime.cpu, hpc, and_self]
      · simp only [Runtime.cpu, hpc, and_self]
      · simpa only [Runtime.cpu, hpc, counted] using hcounted
    | cons j rest =>
      have hcpu : s.cpu b incoming = { s.notifySeat j conn with pc := .notify rest conn } := by
        simp only [Runtime.cpu, hpc]
      rw [hcpu] at hsynced ⊢
      exact ⟨hsynced, trivial, knows_notifySeat h.knows hpc⟩
  | scheduler =>
    refine ⟨hsynced, by simp only [Runtime.cpu, hpc, Unseen], ?_⟩
    refine h.knows.of_same (fun i => ?_) (fun i => ?_) fun i _ hcounted => ?_
    · simp only [Runtime.cpu, hpc, and_self]
    · simp only [Runtime.cpu, hpc, and_self]
    · simpa only [Runtime.cpu, hpc, counted] using hcounted
  | serve =>
    simp only [Runtime.cpu, hpc] at hsynced ⊢
    cases incoming with
    | none =>
      refine h.of_pc hsynced trivial fun i _ hcounted => ?_
      simpa only [counted, hpc] using hcounted
    | some r =>
      simp only [serveRequest] at hsynced ⊢
      split at hsynced
      · -- a restart begins a run of its own
        next hrestart =>
        rw [if_pos hrestart]
        exact recognised_boot b _ r.restartPlan 0
      · next hsame =>
        rw [if_neg hsame]
        refine ⟨hsynced, trivial, h.knows.of_same (fun _ => ⟨rfl, rfl⟩) (fun _ => ⟨rfl, rfl⟩)
          fun i _ hcounted => ?_⟩
        simpa only [counted, hpc] using hcounted
  | tick =>
    refine ⟨hsynced, ?_, h.knows.of_same (fun i => ?_) (fun i => ?_) fun i _ hcounted => ?_⟩
    · -- the next round starts with all four seats
      simp only [Runtime.cpu, hpc, Unseen, LoopPc.start]
      exact ⟨List.nodup_finRange 4, fun _ _ => trivial⟩
    · simp only [Runtime.cpu, hpc, and_self]
    · simp only [Runtime.cpu, hpc, and_self]
    · simpa only [Runtime.cpu, hpc, counted, LoopPc.start, List.mem_finRange, if_true]
        using hcounted

/-- **Swaps.** In every interleaving, each connected controller has in every
state the properties of the device in its seat, where `loop()` still counts on
the seat, if and only if no such seat is ever given to a device with other
properties. -/
theorem swap_iff (b : Board) (nvs : NvsStore) (plan : Prog.Plan nvsInterface) (millis : UInt32)
    (es : List RuntimeEvent) :
    StatesMeet (step b) KnowsDevices (boot b nvs plan millis) es ↔
      StepsMeet (step b) NoSwap (boot b nvs plan millis) es := by
  refine statesMeet_iff_stepsMeet (I := Recognised) (A := fun _ _ => True) (fun s h => h.knows)
    (fun s e h _ hswap => ?_) (fun s e _ _ hknows => ?_) (recognised_boot b nvs plan millis)
    (stepsMeet_of_forall (fun _ _ => trivial) _ _)
  · cases e with
    | bt e => exact h.bt hswap
    | elapse ms => exact ⟨synced_step h.synced (.elapse ms), h.unseen, h.knows⟩
    | cpu incoming => exact h.cpu incoming
  · cases e with
    | bt e =>
      -- the seat is taken after the event, and nothing else has moved
      intro i p hadmits hconnected hcounted
      obtain ⟨htaken, rfl⟩ := hadmits.seat
      exact hknows i hconnected hcounted htaken
    | elapse ms => trivial
    | cpu incoming => trivial

/-- The gamepad in seat 0 is lost, and another one takes the seat before the
next pass. -/
example :
    let es := arrives 0 1 ++ loopSteps 13 ++ [.bt (.lost 0)] ++ arrives 0 2 ++ loopSteps 9
    let s := run (step smallBoard) (boot smallBoard {} (fun _ _ => false) 0) es
    (s.bluepad.controllers 0).connected = true ∧ (s.bluepad.controllers 0).properties.btaddr = 1 ∧
      (s.bridge.controllers 0).properties.btaddr = 2 := by
  decide +kernel

end Runtime

end RcController
