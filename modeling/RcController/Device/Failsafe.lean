import RcController.Device.Boot
import RcController.Lib.Runs
import RcController.Wiring.Failsafe

/-!
# The failsafe latch

Over a whole run, from boot, on any board and with any storage faults: whenever
failsafe is reported, it is written to the outputs (`FailsafeWritten`), and it stays
reported until a fresh packet or a connecting controller ends it (`failsafe_latch`).

The invariant has two parts (`Latched`). That attached servos have their flag holds in
every state, reported or not, since it is what lets the failsafe reach them when it
sets in. That the failsafe is written holds in the states that report it. A late tick
whose timeout test wraps around does not write the failsafe again; nothing needs it to,
because no step that keeps the report changes what was written.
-/

namespace RcController

open DeviceProg OutputBank Runs

namespace OutputBank

/-- Driving the outputs writes pulses and levels only; servos and flags stay. -/
theorem linked_driveOutputs (runtime : InputIdx → ℚ) {s : OutputBank} (h : Linked s) :
    Linked (s.driveOutputs runtime) := by
  refine Pass.foldl_keeps Linked (fun i t ht j => ?_) _ h
  obtain ⟨pulse, hslot⟩ := slot_driveOutput runtime i t
  rw [hslot]
  by_cases hji : j = i
  · subst hji
    rw [Function.update_self]
    exact ht j
  · rw [Function.update_of_ne hji]
    exact ht j

end OutputBank

/-! ### Requests -/

/-- Deleting an input leaves the wiring of a channel alone. -/
theorem clearSource_fields (index : InputIdx) (c : OutputChannelConfig) :
    (clearSource index c).used = c.used ∧ (clearSource index c).type = c.type ∧
      (clearSource index c).pin = c.pin ∧
      (clearSource index c).pwmFailsafeMode = c.pwmFailsafeMode := by
  unfold clearSource
  dsimp only
  split_ifs <;> exact ⟨rfl, rfl, rfl, rfl⟩

/-- **No effect of a request breaks the link or the failsafe.** An input that is
edited has no part in either. A deleted input changes the sources of outputs,
and no field that the failsafe looks at. What editing an output and applying a
blob do is said by `kept_editOutput` and `kept_applyTables`. -/
theorem kept_effect {b : Board} {s : Sketch} {rc : RcModel} (heffect : Effect b s rc)
    (h : Linked s.rc.bank) :
    Linked rc.bank ∧ (FailsafeWritten s.rc.bank → FailsafeWritten rc.bank) := by
  cases heffect with
  | same => exact ⟨h, fun hs => hs⟩
  | inputs _ => exact ⟨h, fun hs => hs⟩
  -- a cleared term changes neither use nor type nor pin nor failsafe mode of a channel
  | sources _ index =>
    have hfields := fun i => clearSource_fields index (s.rc.bank.outputs i)
    have hpwm : ∀ i, (clearSource index (s.rc.bank.outputs i)).UsedPwm →
        (s.rc.bank.outputs i).UsedPwm := fun i hi =>
      ⟨(hfields i).1.symm.trans hi.1, (hfields i).2.1.symm.trans hi.2⟩
    refine ⟨fun i hi => h i (hpwm i hi), fun hs => ⟨fun i hi hsome => ?_, fun i hi => ?_⟩⟩
    · dsimp only
      rw [(hfields i).2.2.2]
      exact hs.servos i (hpwm i hi) hsome
    · dsimp only
      rw [(hfields i).2.2.1]
      exact hs.switches i ⟨(hfields i).1.symm.trans hi.1, (hfields i).2.1.symm.trans hi.2⟩
  | edited e record message =>
    have hkept := kept_editOutput b e record message h
    exact ⟨hkept.linked, hkept.failsafeWritten⟩
  | applied cfg => exact kept_applyTables b cfg h

/-! ### The invariant -/

/-- **The latch.** Attached servos have their flag, and a reported failsafe is
written. The first part is there in every state, since it is what lets the
failsafe reach all servos when it sets in. -/
structure Latched (s : System) : Prop where
  linked : Linked s.sketch.rc.bank
  written : s.failsafeActive = true → FailsafeWritten s.sketch.rc.bank

/-- The failsafe is reported after a timeout, and while no gamepad is
connected. -/
theorem failsafeActive_iff {s : System} :
    s.failsafeActive = true ↔ s.sketch.signalTimedOut = true ∨ s.gamepadConnected = false := by
  simp [System.failsafeActive]

/-- A state that reports the failsafe only when an earlier one did, with outputs
that kept it. -/
theorem Latched.of_kept {s s' : System} (h : Latched s)
    (hreport : s'.failsafeActive = true → s.failsafeActive = true)
    (hlinked : Linked s'.sketch.rc.bank)
    (hkept : FailsafeWritten s.sketch.rc.bank → FailsafeWritten s'.sketch.rc.bank) : Latched s' :=
  ⟨hlinked, fun hactive => hkept (h.written (hreport hactive))⟩

/-- A state right after the failsafe was written to all outputs, reported or
not. -/
theorem Latched.of_applyFailsafe {s : System} {bank : OutputBank} (h : Linked bank)
    (hbank : s.sketch.rc.bank = bank.applyFailsafeAllOutputs) : Latched s := by
  obtain ⟨hlinked, hwritten⟩ := failsafeWritten_applyFailsafe h
  rw [← hbank] at hlinked hwritten
  exact ⟨hlinked, fun _ => hwritten⟩

/-- Before anything is set up no servo is attached. -/
theorem linked_blank : Linked ({} : OutputBank) := fun _ => Slot.linked_of_bare rfl

/-- The boot ends with the failsafe of all outputs, whether the boot preset
could be laid out or not. -/
theorem latched_boot (b : Board) (nvs : NvsStore) (plan : Prog.Plan nvsInterface)
    (millis : UInt32) : Latched (System.boot b nvs plan millis) := by
  have happlied :=
    (kept_applyTables b (startup.run nvsDevice plan nvs).1.config (s := {}) linked_blank).1
  refine .of_applyFailsafe happlied ?_
  rw [sketch_boot]
  rfl

/-- After boot no gamepad is connected. -/
theorem failsafeActive_boot (b : Board) (nvs : NvsStore) (plan : Prog.Plan nvsInterface)
    (millis : UInt32) : (System.boot b nvs plan millis).failsafeActive = true := by
  have hgamepad : (System.boot b nvs plan millis).sketch.gamepad = none := by
    rw [sketch_boot]
    rfl
  rw [failsafeActive_iff, System.gamepadConnected, hgamepad]
  exact .inr rfl

/-! ### One event -/

section Step

variable {b : Board} {s : System}

/-- What a request does: it restarts the device, or it has one of the effects.
The handlers are not looked at again in this module. -/
theorem request_cases (r : Request) (plan restartPlan : Prog.Plan nvsInterface) :
    (∃ nvs, s.request b r plan restartPlan = System.boot b nvs restartPlan 0) ∨
    ∃ sketch nvs, s.request b r plan restartPlan = { s with sketch := sketch, nvs := nvs } ∧
      Handled b s.sketch sketch := by
  have hhandled := (handleRequest_always b s.millis r s.sketch).run nvsDevice plan s.nvs
  unfold System.request
  dsimp only
  split
  · exact .inl ⟨_, rfl⟩
  · exact .inr ⟨_, _, rfl, hhandled⟩

/-- A request leaves the report as it was: the report depends on the connection
alone. -/
theorem failsafeActive_of_session {sketch : Sketch} (nvs : NvsStore)
    (h : SameSession s.sketch sketch) :
    ({ s with sketch := sketch, nvs := nvs } : System).failsafeActive = s.failsafeActive := by
  unfold System.failsafeActive System.gamepadConnected
  dsimp only
  rw [h.gamepad, h.signalTimedOut]

/-- A request keeps the latch. A restart starts over with it (`latched_boot`),
and an effect keeps what is written (`kept_effect`) without changing the
report. -/
theorem latched_request (h : Latched s) (r : Request) (plan restartPlan : Prog.Plan nvsInterface) :
    Latched (s.request b r plan restartPlan) := by
  rcases request_cases (b := b) (s := s) r plan restartPlan with
    ⟨nvs, hboot⟩ | ⟨sketch, nvs, hsame, hhandled⟩
  · rw [hboot]
    exact latched_boot b nvs restartPlan 0
  · rw [hsame]
    obtain ⟨hlinked, hkept⟩ := kept_effect hhandled.effect h.linked
    refine h.of_kept (fun hactive => ?_) hlinked hkept
    rwa [failsafeActive_of_session nvs hhandled.session] at hactive

/-- **A control tick.** Without a gamepad, or after the timeout, it writes the
failsafe. A fresh packet ends the report, so that there is nothing to show. In
between it does nothing. -/
theorem latched_tick (h : Latched s) (packet : Option Snapshot) :
    Latched (s.step b (.tick packet)) := by
  simp only [System.step, processControlTick]
  cases hconnected : s.gamepadConnected with
  | false => exact .of_applyFailsafe h.linked rfl
  | true =>
    cases packet with
    | some c =>
      -- a fresh packet: the failsafe is not reported any more
      refine ⟨linked_driveOutputs _ h.linked, fun hactive => ?_⟩
      rw [failsafeActive_iff] at hactive
      rcases hactive with htimeout | hgone
      · cases htimeout
      · change s.gamepadConnected = false at hgone
        rw [hconnected] at hgone
        cases hgone
    | none =>
      simp only [if_true]
      split
      · exact .of_applyFailsafe h.linked rfl
      · exact h

/-- The loss of the gamepad writes the failsafe. The loss of another controller
writes nothing, and the report is the one from before: the flag that is cleared
is not that of the gamepad. -/
theorem latched_disconnect (h : Latched s) (ctl : ControllerIdx) :
    Latched (s.step b (.disconnect ctl)) := by
  simp only [System.step, onDisconnectedController]
  split
  · exact .of_applyFailsafe h.linked rfl
  · next hother =>
    -- another controller went: the gamepad is as connected as before
    refine h.of_kept (fun hactive => ?_) h.linked fun hs => hs
    rw [failsafeActive_iff] at hactive ⊢
    refine hactive.imp id fun hgone => ?_
    unfold System.gamepadConnected at hgone ⊢
    dsimp only at hgone
    cases hgamepad : s.sketch.gamepad with
    | none => rfl
    | some c =>
      have hne : c ≠ ctl := fun heq => hother (by rw [hgamepad, heq])
      rw [hgamepad] at hgone
      simpa [hne] using hgone

/-- A controller that connects changes no table and drives no output. -/
theorem rc_onConnected (now : UInt32) (connected : ControllerIdx → Bool) (ctl : ControllerIdx)
    (kind : ControllerKind) (s : Sketch) :
    (onConnectedController now connected ctl kind s).rc = s.rc := by
  simp only [onConnectedController, setBtScanActive]
  split_ifs <;> rfl

/-- A controller that connects can only end the report: the flag it sets can
make the gamepad connected, never the other way round. -/
theorem latched_connect (h : Latched s) (ctl : ControllerIdx) (kind : ControllerKind) :
    Latched (s.step b (.connect ctl kind)) := by
  -- a controller that connects can only end the report, and no output is written
  have hbank : (s.step b (.connect ctl kind)).sketch.rc.bank = s.sketch.rc.bank :=
    congrArg RcModel.bank (rc_onConnected _ _ ctl kind s.sketch)
  refine h.of_kept (fun hactive => ?_) (by rw [hbank]; exact h.linked) fun hs => by rwa [hbank]
  have hgrow : ∀ gamepad : Option ControllerIdx,
      gamepad.any (Function.update s.connected ctl true) = false →
        gamepad.any s.connected = false := by
    intro gamepad hgone
    cases gamepad with
    | none => rfl
    | some c =>
      by_cases hc : c = ctl
      · subst hc
        simp at hgone
      · simpa [hc] using hgone
  rw [failsafeActive_iff] at hactive ⊢
  simp only [System.step, onConnectedController, System.gamepadConnected] at hactive ⊢
  split at hactive
  · exact hactive.imp id (hgrow _)
  · split at hactive
    · exact hactive.imp id (hgrow _)
    · -- the new gamepad is connected and its report is cleared
      exfalso
      simp only [setBtScanActive] at hactive
      split_ifs at hactive <;> simp at hactive

/-- The scan scheduler touches neither the tables nor the connection. -/
theorem scheduler_session (s : System) :
    (updateBtScanScheduler s.millis s.gamepadConnected s.sketch).rc = s.sketch.rc ∧
      SameSession s.sketch (updateBtScanScheduler s.millis s.gamepadConnected s.sketch) := by
  simp only [updateBtScanScheduler, setBtScanActive]
  split_ifs <;> exact ⟨rfl, rfl, rfl, rfl⟩

/-- So it keeps the latch. -/
theorem latched_scheduler (h : Latched s) : Latched (s.step b .schedulerTick) := by
  have hsame := scheduler_session s
  have hbank : (s.step b .schedulerTick).sketch.rc.bank = s.sketch.rc.bank :=
    congrArg RcModel.bank hsame.1
  refine h.of_kept (fun hactive => ?_) (by rw [hbank]; exact h.linked) fun hs => by rwa [hbank]
  exact (failsafeActive_of_session s.nvs hsame.2).symm.trans hactive

/-- **Every event keeps the latch.** Time that passes changes nothing by itself:
the timeout is noticed by a tick. -/
theorem latched_step (h : Latched s) (event : Event) : Latched (s.step b event) := by
  cases event with
  | request r plan restartPlan => exact latched_request h r plan restartPlan
  | tick packet => exact latched_tick h packet
  | schedulerTick => exact latched_scheduler h
  | connect ctl kind => exact latched_connect h ctl kind
  | disconnect ctl => exact latched_disconnect h ctl
  | elapse _ => exact ⟨h.linked, h.written⟩

/-- A disconnect does not end a reported failsafe. The timeout stays, and a
gamepad that was not connected is not connected afterwards. -/
theorem failsafeActive_disconnect (ctl : ControllerIdx) (hactive : s.failsafeActive = true) :
    (s.step b (.disconnect ctl)).failsafeActive = true := by
  rw [failsafeActive_iff] at hactive ⊢
  simp only [System.step, onDisconnectedController, System.gamepadConnected]
  split
  · exact .inr rfl
  · -- the flag stays, and a gamepad that was gone is still gone
    refine hactive.imp id fun hgone => ?_
    unfold System.gamepadConnected at hgone
    cases hgamepad : s.sketch.gamepad with
    | none => rfl
    | some c =>
      rw [hgamepad] at hgone
      by_cases hc : c = ctl
      · subst hc
        simp
      · simpa [hc] using hgone

/-- Only a fresh packet of a connected gamepad lets a tick end a reported
failsafe. -/
theorem failsafeActive_tick {packet : Option Snapshot} (hactive : s.failsafeActive = true)
    (hpacket : packet = none ∨ s.gamepadConnected = false) :
    (s.step b (.tick packet)).failsafeActive = true := by
  rw [failsafeActive_iff]
  simp only [System.step, processControlTick]
  cases hconnected : s.gamepadConnected with
  | false => exact .inr hconnected
  | true =>
    obtain rfl := hpacket.resolve_right (by simp [hconnected])
    simp only [if_true]
    split
    · exact .inl rfl
    · exact failsafeActive_iff.mp hactive

/-- **What ends a reported failsafe**: a fresh packet from the connected
gamepad, or a controller that connects. The other events leave the report as it
was or restart the device, which reports the failsafe itself. -/
theorem failsafe_ends {event : Event} (hactive : s.failsafeActive = true)
    (hends : (s.step b event).failsafeActive = false) :
    (∃ packet, event = .tick (some packet) ∧ s.gamepadConnected = true) ∨
      ∃ ctl kind, event = .connect ctl kind := by
  cases event with
  | request r plan restartPlan =>
    -- a restart reports the failsafe itself, and no handler changes the session
    exfalso
    change (s.request b r plan restartPlan).failsafeActive = false at hends
    rcases request_cases (b := b) (s := s) r plan restartPlan with
      ⟨nvs, hboot⟩ | ⟨sketch, nvs, hsame, hhandled⟩
    · rw [hboot, failsafeActive_boot] at hends
      cases hends
    · rw [hsame, failsafeActive_of_session nvs hhandled.session, hactive] at hends
      cases hends
  | tick packet =>
    by_cases hpacket : packet = none ∨ s.gamepadConnected = false
    · rw [failsafeActive_tick hactive hpacket] at hends
      cases hends
    · rw [not_or] at hpacket
      obtain ⟨c, rfl⟩ := Option.ne_none_iff_exists'.mp hpacket.1
      exact .inl ⟨c, rfl, by simpa using hpacket.2⟩
  | schedulerTick =>
    exfalso
    change ({ s with sketch := _ } : System).failsafeActive = false at hends
    rw [failsafeActive_of_session s.nvs (scheduler_session s).2, hactive] at hends
    cases hends
  | connect ctl kind => exact .inr ⟨ctl, kind, rfl⟩
  | disconnect ctl =>
    rw [failsafeActive_disconnect ctl hactive] at hends
    cases hends
  | elapse ms =>
    have hsame : (s.step b (.elapse ms)).failsafeActive = s.failsafeActive := rfl
    rw [hsame, hactive] at hends
    cases hends

end Step

/-- **The failsafe latch.** In every state reached from boot by any events, with
any storage faults and on any board, a reported failsafe is written to all
outputs, and only a fresh packet from the connected gamepad or a controller that
connects ends the report. -/
theorem failsafe_latch (b : Board) (nvs : NvsStore) (plan : Prog.Plan nvsInterface)
    (millis : UInt32) (events : List Event) :
    let s := run (System.step b) (System.boot b nvs plan millis) events
    (s.failsafeActive = true → FailsafeWritten s.sketch.rc.bank) ∧
      ∀ event, s.failsafeActive = true → (s.step b event).failsafeActive = false →
        (∃ packet, event = .tick (some packet) ∧ s.gamepadConnected = true) ∨
          ∃ ctl kind, event = .connect ctl kind := by
  intro s
  have hlatched : Latched s :=
    run_invariant_of_step (I := Latched) (fun _ e h => latched_step h e)
      (latched_boot b nvs plan millis) events
  exact ⟨hlatched.written, fun _ => failsafe_ends⟩

end RcController
