import RcController.Device.Deadline
import RcController.Device.Seats

/-!
# Packets

A report of a device goes through two cells before it drives the outputs: the seat, where
a newer report replaces it, and the `Controller` object, where the next poll replaces it.
Each cell has a flag that says whether what it holds is new.

`Delivered` puts the two cells between the ghost lists: what has driven the outputs, then
what the controller holds, then what the seat holds, is a subsequence of what the seat
has received. Every step moves a report to the right along it or drops one. So nothing
drives the outputs twice, out of order, or without having been received
(`packets_sublist`), whatever the two cores do in between.
-/

namespace RcController

open DeviceProg Runs

/-- What a cell holds, when its flag says that it is new. As a list it can be
put between the ghost lists, where an old value does not count. -/
def fresh {α : Type} (flag : Bool) (x : α) : List α := if flag then [x] else []

@[simp] theorem fresh_true {α : Type} (x : α) : fresh true x = [x] := rfl

@[simp] theorem fresh_false {α : Type} (x : α) : fresh false x = [] := rfl

namespace Runtime

variable {b : Board} {s : Runtime} {i : ControllerIdx}

/-- The report that a step puts into seat `i`. Only the Bluetooth side puts one
there. -/
def received (i : ControllerIdx) (s : Runtime) : RuntimeEvent → List ControllerData
  | .bt e => s.bridge.received i e
  | .elapse _ | .cpu _ => []

/-- The data that a control tick drives the outputs with, when controller `i` is
the gamepad. Without new data the tick only looks at the timeout. -/
def drove (i : ControllerIdx) (s : Runtime) : RuntimeEvent → List ControllerData
  | .cpu _ =>
    match s.pc with
    | .tick =>
      if s.sketch.gamepad = some i then
        fresh (s.bluepad.controllers i).hasData (s.bluepad.controllers i).data
      else []
    | .poll _ _ | .fetch _ _ _ | .notify _ _ | .scheduler | .serve => []
  | .bt _ | .elapse _ => []

/-- The last poll of seat `i` found it taken, in this pass if it has come that
far. Until its turn the answer is no: the flags of a pass start cleared, and
with them what the controller holds is discounted. -/
def polled (s : Runtime) (i : ControllerIdx) : Bool :=
  match s.pc with
  | .poll _ conn | .fetch _ _ conn | .notify _ conn => conn i
  | .scheduler | .serve | .tick => s.bluepad.prevConnectedControllers i

/-- What controller `i` holds for the control tick of this pass. Data of an
earlier pass does not count: no tick looks at it before the next poll of the
seat has replaced it or cleared its flag. -/
def inController (s : Runtime) (i : ControllerIdx) : List ControllerData :=
  fresh (s.polled i && (s.bluepad.controllers i).hasData) (s.bluepad.controllers i).data

/-- What seat `i` holds for the next poll. -/
def inSeat (s : Runtime) (i : ControllerIdx) : List ControllerData :=
  fresh (s.bridge.controllers i).dataUpdated (s.bridge.controllers i).data

/-- **The cells lie between what drove the outputs and what was received.**
`order` is the chain, from what was used first to what was received last;
`latest` says that a report in the seat is the newest. The flags (`synced`) and
the gamepad of the sketch (`held`) are needed at the tick, which looks at the
controller and not at the seat. -/
structure Delivered (i : ControllerIdx) (used got : List ControllerData) (s : Runtime) : Prop where
  synced : s.Synced
  held : s.system.GamepadHeld
  order : (used ++ s.inController i ++ s.inSeat i).Sublist got
  latest : (s.bridge.controllers i).dataUpdated = true →
    got.getLast? = some (s.bridge.controllers i).data

/-- The gamepad of the sketch stays one that is connected, whatever a step
emits: it holds of the system, and the loop refines the system. -/
theorem gamepadHeld_system (h : s.system.GamepadHeld) (e : RuntimeEvent) :
    (s.step b e).system.GamepadHeld := by
  rw [system_step]
  exact run_invariant_of_step (I := System.GamepadHeld)
    (fun _ e h => System.gamepadHeld_step (b := b) h e) h _

variable {used got : List ControllerData} {incoming : Option Incoming}

/-- **A Bluetooth event** moves nothing but the seat. A new report goes to the
end of the chain and to the end of what was received; it replaces the one that
waited there, which is dropped. A seat that is freed drops its report, and one
that is given to a device keeps whatever it still holds. -/
theorem Delivered.bt (h : Delivered i used got s) (e : BtEvent) :
    Delivered i used (got ++ s.bridge.received i e) (s.step b (.bt e)) := by
  refine ⟨synced_step h.synced _, gamepadHeld_system h.held _, ?_, ?_⟩
  · have hcontroller : (s.step b (.bt e)).inController i = s.inController i := rfl
    -- what was used and what the loop holds comes before anything in the seat
    have hprefix : (used ++ s.inController i).Sublist got :=
      (List.sublist_append_left _ _).trans h.order
    rw [hcontroller]
    change (used ++ s.inController i ++ fresh ((s.bridge.step e).controllers i).dataUpdated
      ((s.bridge.step e).controllers i).data).Sublist _
    have hseat := s.bridge.seatStep e i
    generalize (s.bridge.step e).controllers i = seat at hseat ⊢
    cases hseat with
    | same hreport =>
      rw [hreport, List.append_nil]
      exact h.order
    -- what was in the seat is lost, which a sublist allows
    | freed hreport =>
      rw [hreport, fresh_false, List.append_nil, List.append_nil]
      exact hprefix
    -- the new packet takes the place of the one before it
    | put ctl hreport =>
      rw [hreport, fresh_true]
      exact hprefix.append (List.Sublist.refl _)
    | given p hreport hadmits =>
      rw [hreport, List.append_nil]
      exact h.order
  · intro hflag
    change ((s.bridge.step e).controllers i).dataUpdated = true at hflag
    change _ = some ((s.bridge.step e).controllers i).data
    have hseat := s.bridge.seatStep e i
    generalize (s.bridge.step e).controllers i = seat at hseat hflag ⊢
    cases hseat with
    | same hreport =>
      rw [hreport, List.append_nil]
      exact h.latest hflag
    | freed hreport => cases hflag
    | put ctl hreport => rw [hreport, List.getLast?_concat]
    | given p hreport hadmits =>
      rw [hreport, List.append_nil]
      exact h.latest hflag

/-- A step that puts nothing into the seat, and drops what it does not keep. -/
theorem Delivered.move {used' : List ControllerData} {s' : Runtime} (h : Delivered i used got s)
    (hsynced : s'.Synced) (hheld : s'.system.GamepadHeld)
    (horder : (used' ++ s'.inController i ++ s'.inSeat i).Sublist
      (used ++ s.inController i ++ s.inSeat i))
    (hlatest : (s'.bridge.controllers i).dataUpdated = true →
      s'.bridge.controllers i = s.bridge.controllers i) : Delivered i used' got s' where
  synced := hsynced
  held := hheld
  order := horder.trans h.order
  latest hflag := by
    have hsame := hlatest hflag
    rw [hsame] at hflag ⊢
    exact h.latest hflag

/-- A step that leaves both cells as they are. -/
theorem Delivered.of_same {s' : Runtime} (h : Delivered i used got s) (hsynced : s'.Synced)
    (hheld : s'.system.GamepadHeld) (hseat : s'.bridge.controllers i = s.bridge.controllers i)
    (hcontroller : s'.inController i = s.inController i) : Delivered i used got s' := by
  have hinSeat : s'.inSeat i = s.inSeat i := by rw [inSeat, hseat, inSeat]
  refine h.move hsynced hheld ?_ fun _ => hseat
  rw [hcontroller, hinSeat]

/-- Callbacks leave the data of the controllers alone. They copy the properties
of the seat, or clear them, and set the flag of the connection. -/
theorem data_notifySeat (j i : ControllerIdx) (conn : ControllerIdx → Bool) :
    ((s.notifySeat j conn).bluepad.controllers i).hasData =
        (s.bluepad.controllers i).hasData ∧
      ((s.notifySeat j conn).bluepad.controllers i).data = (s.bluepad.controllers i).data := by
  unfold notifySeat
  split
  · exact ⟨rfl, rfl⟩
  · by_cases hij : i = j
    · subst hij
      split <;> simp [Bluepad32.onConnected, Bluepad32.onDisconnected, Bluepad32.setController]
    · split <;> simp [Bluepad32.onConnected, Bluepad32.onDisconnected, Bluepad32.setController, hij]

/-- Callbacks do not touch the seats. -/
theorem bridge_notifySeat (j : ControllerIdx) (conn : ControllerIdx → Bool) :
    (s.notifySeat j conn).bridge = s.bridge := by
  unfold notifySeat
  split
  · rfl
  · split <;> rfl

/-- **The poll of seat `i`** moves what the seat holds into the controller, new
or not: the flag of the controller is the one the seat had, and the flag of the
seat is cleared. What the controller held before is dropped. -/
theorem Delivered.fetch_self {rest : List ControllerIdx} {conn : ControllerIdx → Bool}
    (h : Delivered i used got s) (hpc : s.pc = .fetch i rest conn)
    (hsynced : (s.cpu b incoming).Synced) (hheld : (s.cpu b incoming).system.GamepadHeld) :
    Delivered i used got (s.cpu b incoming) := by
  have hcells : (s.cpu b incoming).inController i = s.inSeat i ∧
      (s.cpu b incoming).inSeat i = [] := by
    simp only [cpu, hpc, inController, inSeat, polled, Function.update_self, Bool.true_and,
      Bluepad32.fetch]
    split
    · -- a packet goes from the seat to the loop, or there is none
      next hflag => simp [Bluepad32.setController, Bridge.setSeat, hflag]
    · next hflag => simp [Bluepad32.setController, hflag]
  refine h.move hsynced hheld ?_ fun hflag => ?_
  · rw [hcells.1, hcells.2, List.append_nil]
    refine List.Sublist.append ?_ (List.Sublist.refl _)
    exact List.sublist_append_left _ _
  · -- the flag of the seat is clear after the poll
    exfalso
    have hclear := hcells.2
    rw [inSeat, hflag] at hclear
    cases hclear

/-- The poll of another seat leaves both cells of `i` alone. -/
theorem Delivered.fetch_other {j : ControllerIdx} {rest : List ControllerIdx}
    {conn : ControllerIdx → Bool} (h : Delivered i used got s) (hpc : s.pc = .fetch j rest conn)
    (hij : i ≠ j) (hsynced : (s.cpu b incoming).Synced)
    (hheld : (s.cpu b incoming).system.GamepadHeld) : Delivered i used got (s.cpu b incoming) := by
  refine h.of_same hsynced hheld ?_ ?_
  · simp only [cpu, hpc, Bluepad32.fetch]
    split
    · exact Function.update_of_ne hij ..
    · rfl
  · simp only [cpu, hpc, inController, polled, Function.update_of_ne hij, Bluepad32.fetch]
    split <;> simp [Bluepad32.setController, hij]

/-- **The control tick** uses what the controller holds, when it is the gamepad.
Then the controller is connected, and therefore its seat was polled in this
pass: the data is the one of this pass and is used once, since after the tick a
new pass begins. When the controller is not the gamepad what it holds is
dropped. -/
theorem Delivered.tick (h : Delivered i used got s) (hpc : s.pc = .tick)
    (hsynced : (s.cpu b incoming).Synced) (hheld : (s.cpu b incoming).system.GamepadHeld) :
    Delivered i (used ++ s.drove i (.cpu incoming)) got (s.cpu b incoming) := by
  have hafter : (s.cpu b incoming).inController i = [] ∧
      (s.cpu b incoming).inSeat i = s.inSeat i := by
    simp only [cpu, hpc, inController, inSeat, polled, LoopPc.start, Bool.false_and, fresh_false,
      and_self]
  -- a new pass begins, whose flags are cleared
  refine h.move hsynced hheld ?_ fun _ => by simp only [cpu, hpc]
  rw [hafter.1, hafter.2, List.append_nil]
  refine List.Sublist.append (List.Sublist.append (List.Sublist.refl _) ?_) (List.Sublist.refl _)
  simp only [drove, hpc]
  split
  · next hgamepad =>
    -- the gamepad is connected, so this pass has polled its seat
    have hconnected : (s.bluepad.controllers i).connected = true := h.held i hgamepad
    have hpolled : s.polled i = true := by
      rw [h.synced.flags i, accounted_eq (by simp [hpc])] at hconnected
      simpa only [polled, hpc] using hconnected
    rw [inController, hpolled, Bool.true_and]
  · exact List.nil_sublist _

/-- A request does not look at the packets. One that restarts the device loses
what both cells hold. -/
theorem Delivered.serve (h : Delivered i used got s) (hpc : s.pc = .serve)
    (hsynced : (s.cpu b incoming).Synced) (hheld : (s.cpu b incoming).system.GamepadHeld) :
    Delivered i used got (s.cpu b incoming) := by
  cases incoming with
  | none =>
    refine h.of_same hsynced hheld (by simp only [cpu, hpc, serveRequest]) ?_
    simp only [cpu, hpc, serveRequest, inController, polled]
  | some r =>
    simp only [cpu, hpc, serveRequest] at hsynced hheld ⊢
    split at hsynced
    · next hrestart =>
      -- both cells are lost with the memory
      rw [if_pos hrestart] at hheld ⊢
      refine h.move hsynced hheld ?_ fun hflag => by cases hflag
      have hempty : (boot b ((handleRequest b s.millis r.request s.sketch).run nvsDevice r.plan
          s.nvs).2 r.restartPlan 0).inController i = [] := rfl
      have hempty' : (boot b ((handleRequest b s.millis r.request s.sketch).run nvsDevice r.plan
          s.nvs).2 r.restartPlan 0).inSeat i = [] := rfl
      rw [hempty, hempty', List.append_nil, List.append_nil, List.append_assoc]
      exact List.sublist_append_left _ _
    · next hsame =>
      rw [if_neg hsame] at hheld ⊢
      exact h.of_same hsynced hheld rfl (by simp only [inController, polled, hpc])

/-- **Every step moves the reports along the cells, or drops them.** The poll,
the callbacks and the scheduler leave both cells of `i` as they are, as long as
the flag that `polled` reads does not change. -/
theorem Delivered.cpu (h : Delivered i used got s) (incoming : Option Incoming) :
    Delivered i (used ++ s.drove i (.cpu incoming)) got (s.cpu b incoming) := by
  have hsynced : (s.cpu b incoming).Synced := synced_cpu h.synced incoming
  have hheld : (s.cpu b incoming).system.GamepadHeld :=
    gamepadHeld_system (b := b) h.held (.cpu incoming)
  -- only `tick` uses a packet and only `fetch` moves one; the other instructions touch
  -- neither
  cases hpc : s.pc with
  | tick => exact h.tick hpc hsynced hheld
  | poll rest conn =>
    simp only [drove, hpc, List.append_nil]
    cases rest with
    | nil =>
      simp only [Runtime.cpu, hpc] at hsynced hheld ⊢
      split at hsynced
      · next hsame =>
        rw [if_pos hsame] at hheld ⊢
        refine h.of_same hsynced hheld rfl ?_
        simp only [inController, polled, hpc, hsame]
      · next hchange =>
        rw [if_neg hchange] at hheld ⊢
        exact h.of_same hsynced hheld rfl (by simp only [inController, polled, hpc])
    | cons j rest =>
      simp only [Runtime.cpu, hpc] at hsynced hheld ⊢
      split at hsynced
      · next htaken =>
        rw [if_pos htaken] at hheld ⊢
        exact h.of_same hsynced hheld rfl (by simp only [inController, polled, hpc])
      · next hfree =>
        rw [if_neg hfree] at hheld ⊢
        exact h.of_same hsynced hheld rfl (by simp only [inController, polled, hpc])
  | fetch j rest conn =>
    simp only [drove, hpc, List.append_nil]
    by_cases hij : i = j
    · subst hij
      exact h.fetch_self hpc hsynced hheld
    · exact h.fetch_other hpc hij hsynced hheld
  | notify rest conn =>
    simp only [drove, hpc, List.append_nil]
    cases rest with
    | nil =>
      refine h.of_same hsynced hheld (by simp only [Runtime.cpu, hpc]) ?_
      simp only [Runtime.cpu, hpc, inController, polled]
    | cons j rest =>
      refine h.of_same hsynced hheld (by simp only [Runtime.cpu, hpc, bridge_notifySeat]) ?_
      obtain ⟨hflag, hdata⟩ := data_notifySeat (s := s) j i conn
      simp only [Runtime.cpu, hpc, inController, polled, hflag, hdata]
  | scheduler =>
    simp only [drove, hpc, List.append_nil]
    refine h.of_same hsynced hheld (by simp only [Runtime.cpu, hpc]) ?_
    simp only [Runtime.cpu, hpc, inController, polled]
  | serve =>
    simp only [drove, hpc, List.append_nil]
    exact h.serve hpc hsynced hheld

/-- One step, with the ghost lists grown by what it used and what it
received. -/
theorem Delivered.step (h : Delivered i used got s) (e : RuntimeEvent) :
    Delivered i (used ++ s.drove i e) (got ++ s.received i e) (s.step b e) := by
  cases e with
  | bt e =>
    rw [show s.drove i (.bt e) = [] from rfl, List.append_nil]
    exact h.bt e
  | elapse ms =>
    rw [show s.drove i (.elapse ms) = [] from rfl, show s.received i (.elapse ms) = [] from rfl,
      List.append_nil, List.append_nil]
    exact ⟨⟨h.synced.flags, h.synced.nodup⟩, h.held, h.order, h.latest⟩
  | cpu incoming =>
    rw [show s.received i (.cpu incoming) = [] from rfl, List.append_nil]
    exact h.cpu incoming

/-- **Packets.** However the two cores interleave: what drives the outputs while
controller `i` is the gamepad is a subsequence of the reports that its seat
received, so no report drives them twice, out of order, or without having been
received; and a report that waits in the seat is the last one received. -/
theorem packets_sublist (b : Board) (nvs : NvsStore) (plan : Prog.Plan nvsInterface)
    (millis : UInt32) (es : List RuntimeEvent) (i : ControllerIdx) :
    let start := boot b nvs plan millis
    let s := run (step b) start es
    (trace (step b) (drove i) start es).Sublist (trace (step b) (received i) start es) ∧
      ((s.bridge.controllers i).dataUpdated = true →
        (trace (step b) (received i) start es).getLast? = some (s.bridge.controllers i).data) := by
  intro start s
  have hstart : Delivered i [] [] start :=
    ⟨synced_boot b nvs plan millis, System.gamepadHeld_boot b nvs plan millis,
      List.Sublist.refl _, fun hflag => by cases hflag⟩
  -- both traces are ghost variables of one invariant
  have hrun := trace_invariant (J := Delivered i)
    (fun used got t e h => h.step (b := b) e) hstart es
  rw [List.nil_append, List.nil_append] at hrun
  refine ⟨?_, hrun.latest⟩
  exact (List.sublist_append_left _ _).trans
    ((List.sublist_append_left _ _).trans hrun.order)

end Runtime

end RcController
