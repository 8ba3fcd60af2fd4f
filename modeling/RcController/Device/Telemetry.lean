import RcController.Device.Failsafe
import RcController.Wiring.Pulse

/-!
# Telemetry is what the pins are driven with

Over a whole run, from boot, on a reliable board and with any storage faults: the last
pulse of every used servo channel with its flag set is the one its reported signal
stands for (`telemetry_is_pulse`).

Most steps that touch the hardware leave signal and pulse in agreement by themselves, so
what has to be carried along is little: the agreement through the steps that touch
nothing, and that a flag means an attached servo (`Told`).
-/

namespace RcController

open DeviceProg OutputBank Runs

/-- What is carried along: a servo that is driven shows its signal in its pulse,
and a flag means a servo that is attached. -/
structure Told (b : Board) (s : OutputBank) : Prop where
  shown : s.Shown
  seated : s.Seated b

/-- Nothing is attached before boot. -/
theorem told_blank (b : Board) : Told b {} :=
  ⟨fun _ => Cell.shown_of_flag rfl, fun _ => Slot.seated_of_flag rfl⟩

section Steps

variable {b : Board}

/-- The failsafe writes pulses to the servos that are there. -/
theorem Told.applyFailsafe {s : OutputBank} (h : Told b s) : Told b s.applyFailsafeAllOutputs :=
  ⟨shown_applyFailsafe s, h.seated.applyFailsafe⟩

/-- Boot ends in a rebuild, which attaches before it flags. -/
theorem told_boot (hb : b.Reliable) (nvs : NvsStore) (plan : Prog.Plan nvsInterface)
    (millis : UInt32) : Told b (System.boot b nvs plan millis).sketch.rc.bank := by
  rw [sketch_boot]
  -- `setup()` applies the boot preset to blank globals and writes the failsafe
  have hblank : Told b ({} : RcModel).bank := told_blank b
  exact (⟨shown_applyTables b _ hblank.shown, seated_applyTables hb _ hblank.seated⟩ :
    Told b (applyTables b (startup.run nvsDevice plan nvs).1.config {}).1.bank).applyFailsafe

/-- Clearing the terms of a deleted input changes no channel's type and no
servo. -/
theorem Told.clearSource {s : OutputBank} (h : Told b s) (index : InputIdx) :
    Told b { s with outputs := fun i => clearSource index (s.outputs i) } := by
  refine ⟨fun i hdriven => h.shown i ?_, fun i => h.seated i⟩
  obtain ⟨hused, htype, -, -⟩ := clearSource_fields index (s.outputs i)
  obtain ⟨hpwm, hflag, hpin⟩ := hdriven
  exact ⟨⟨hused.symm.trans hpwm.1, htype.symm.trans hpwm.2⟩, hflag, hpin⟩

/-- **No effect of a request breaks the telemetry.** It leaves the bank alone,
deletes an input, edits the outputs or applies a blob. -/
theorem told_effect (hb : b.Reliable) {s : Sketch} {rc : RcModel} (heffect : Effect b s rc)
    (h : Told b s.rc.bank) : Told b rc.bank := by
  cases heffect with
  | same => exact h
  | inputs _ => exact h
  | sources _ index => exact h.clearSource index
  | edited e record message =>
    exact ⟨shown_editOutput b e record message s, seated_editOutput hb h.seated e record message⟩
  | applied cfg => exact ⟨shown_applyTables b cfg h.shown, seated_applyTables hb cfg h.seated⟩

/-- A tick drives the outputs, or puts them into the failsafe. -/
theorem told_tick {s : Sketch} (h : Told b s.rc.bank) (now : UInt32) (connected : Bool)
    (packet : Option Snapshot) : Told b (processControlTick b now connected packet s).rc.bank := by
  unfold processControlTick
  -- every branch drives the outputs, writes the failsafe or leaves the bank alone
  split
  · cases packet with
    | some c => exact ⟨shown_driveOutputs _ _, h.seated.driveOutputs _⟩
    | none =>
      dsimp only
      split
      · exact h.applyFailsafe
      · exact h
  · exact h.applyFailsafe

/-- **Every event keeps the telemetry.** -/
theorem told_step (hb : b.Reliable) {s : System} (h : Told b s.sketch.rc.bank) (event : Event) :
    Told b (s.step b event).sketch.rc.bank := by
  cases event with
  | request r plan restartPlan =>
    change Told b (s.request b r plan restartPlan).sketch.rc.bank
    rcases request_cases (b := b) (s := s) r plan restartPlan with
      ⟨nvs, hboot⟩ | ⟨sketch, nvs, hsame, hhandled⟩
    -- a restart boots; every other request has one of the effects
    · rw [hboot]
      exact told_boot hb nvs restartPlan 0
    · rw [hsame]
      exact told_effect hb hhandled.effect h
  | tick packet => exact told_tick h s.millis s.gamepadConnected packet
  | schedulerTick =>
    change Told b (updateBtScanScheduler s.millis s.gamepadConnected s.sketch).rc.bank
    rw [(scheduler_session s).1]
    exact h
  | connect ctl kind =>
    change Told b (onConnectedController s.millis _ ctl kind s.sketch).rc.bank
    rw [rc_onConnected]
    exact h
  | disconnect ctl =>
    change Told b (onDisconnectedController ctl s.sketch).rc.bank
    unfold onDisconnectedController
    split
    · exact h.applyFailsafe
    · exact h
  | elapse _ => exact h

end Steps

/-- **Telemetry is what the pins are driven with.** In every state reached from
boot by any events, the last pulse of a used servo channel with its flag set is
the one its signal stands for, and the one the I/O trace prints for it. By the
invariant, such a servo is driven and shows its signal, and the rounding is the
one of the trace. -/
theorem telemetry_is_pulse {b : Board} (hb : b.Reliable) (nvs : NvsStore)
    (plan : Prog.Plan nvsInterface) (millis : UInt32) (events : List Event) :
    let bank := (run (System.step b) (System.boot b nvs plan millis) events).sketch.rc.bank
    ∀ i, (bank.outputs i).UsedPwm → bank.pwmAttached i = true →
      (bank.pwmOutputs i).pulse = some (lround (1500 + 500 * bank.outputRuntime i)) ∧
        pwmUsFromSignal (bank.outputRuntime i) = lround (1500 + 500 * bank.outputRuntime i) := by
  intro bank i hpwm hflag
  have htold : Told b bank :=
    run_invariant_of_step (I := fun s : System => Told b s.sketch.rc.bank)
      (fun _ e h => told_step hb h e) (told_boot hb nvs plan millis) events
  -- a flagged servo of a used channel is driven, and what is driven shows its signal
  have hdriven : (bank.slot i).Driven := (htold.seated i).driven hpwm hflag
  obtain ⟨⟨hlo, hhi⟩, hpulse⟩ := htold.shown i hdriven
  exact ⟨hpulse, pwmUsFromSignal_eq hlo hhi⟩

/-- After boot with the built-in car, and a tick that drives it, for the servo
in slot 0. -/
theorem telemetry_is_pulse_car :
    let bank := (run (System.step smallBoard) (System.boot smallBoard {} (fun _ _ => false) 0)
      [.connect 0 .gamepad, .tick (some {})]).sketch.rc.bank
    (bank.pwmOutputs 0).pulse = some (lround (1500 + 500 * bank.outputRuntime 0)) ∧
      pwmUsFromSignal (bank.outputRuntime 0) = lround (1500 + 500 * bank.outputRuntime 0) :=
  telemetry_is_pulse smallBoard_reliable {} (fun _ _ => false) 0 _ 0 (by decide +kernel)
    (by decide +kernel)

end RcController
