import RcController.Device.Failsafe
import RcController.Device.Scan

/-!
# The contract of the scan scheduler

What the specification says of the scan, along the runs of the device: it is off while a
gamepad is connected (`scan_off_while_connected`), a pairing window lasts its 120 s
(`window_closes_iff`), and a phase of the scan lasts its time (`phase_lasts`).

Times are readings of `millis()`. A deadline is computed by adding to one, so the clock
has to be 120 s away from its wrap when it is set, and that is all that is asked of it.

Each result is about a state of a run and what comes after it. It rests on one fact: apart
from the scheduler's own ticks only a few events touch the five globals of the scan
(`sameScan_step`). Between two of those only the clock moves.
-/

namespace RcController

open DeviceProg OutputBank Runs

/-! ### The globals of the scan -/

/-- The globals of the scan are as they were. -/
structure SameScan (s s' : Sketch) : Prop where
  gamepad : s'.gamepad = s.gamepad
  enabled : s'.pairingScanEnabled = s.pairingScanEnabled
  window : s'.pairingScanUntilMs = s.pairingScanUntilMs
  active : s'.btScanActive = s.btScanActive
  toggle : s'.btScanToggleAtMs = s.btScanToggleAtMs

namespace SameScan

/-- Nothing has happened. -/
theorem refl (s : Sketch) : SameScan s s := ⟨rfl, rfl, rfl, rfl, rfl⟩

end SameScan

section Handlers

variable (b : Board) (s : Sketch)

/-- Editing an output is not about the scan. -/
theorem sameScan_editOutput (e : OutputIdx) (record : OutputChannelConfig) (message : String) :
    SameScan s (editOutput b e record message s).1 := by
  unfold editOutput
  dsimp only
  split <;> exact ⟨rfl, rfl, rfl, rfl, rfl⟩

/-- The requests about models and the access point write no global of the
scan. -/
theorem ModelEdit.sameScan {b : Board} {s s' : Sketch} (h : ModelEdit b s s') : SameScan s s' := by
  rw [h.rest]
  exact ⟨rfl, rfl, rfl, rfl, rfl⟩

/-- **A request that is not about pairing** leaves the scan alone, whatever the
storage answers. -/
theorem sameScan_handleRequest (millis : UInt32) (r : Request) (hon : r.endpoint ≠ .pairingOn)
    (hoff : r.endpoint ≠ .pairingOff) :
    (handleRequest b millis r s).Always fun x => SameScan s x.1 := by
  by_cases hend : r.endpoint.Immediate
  · -- the tables change, and the flag
    rcases Endpoint.immediate_iff.mp hend with hinput | houtput | hpairing | hpairing
    · obtain ⟨s', reply, hrun, hedit⟩ := handleRequest_input b millis hinput s
      rw [hrun]
      cases hedit <;> exact ⟨rfl, rfl, rfl, rfl, rfl⟩
    · rcases handleRequest_edit b millis houtput s with ⟨msg, -, hrun⟩ | ⟨e, record, msg, -, hrun⟩
      · rw [hrun]
        exact .refl s
      · rw [hrun]
        exact sameScan_editOutput b s e record msg
    · -- the two pairing requests are excluded
      exact absurd hpairing hon
    · exact absurd hpairing hoff
  exact (handleRequest_modelEdit b millis r s hend).mono fun _ h => h.sameScan

end Handlers

/-! ### Events -/

/-- A gamepad connects while none is, so it becomes the active one. -/
def Accepts (s : System) (ctl : ControllerIdx) (kind : ControllerKind) : Prop :=
  kind = .gamepad ∧ s.sketch.gamepad.any (Function.update s.connected ctl true) = false

/-- A request that turns pairing on or off. -/
def AsksPairing : Event → Prop
  | .request r _ _ => r.endpoint = .pairingOn ∨ r.endpoint = .pairingOff
  | _ => False

/-- A request to restart the device. -/
def AsksRestart : Event → Prop
  | .request r _ _ => r.endpoint = .apConfigApplyReboot
  | _ => False

/-- The active gamepad is set by an accepted one. -/
def SetsGamepad (s : System) : Event → Prop
  | .connect ctl kind => Accepts s ctl kind
  | _ => False

/-- The active gamepad goes. -/
def DropsGamepad (s : System) : Event → Prop
  | .disconnect ctl => s.sketch.gamepad = some ctl
  | _ => False

/-- The tick that closes a pairing window. -/
def Expires (s : System) : Event → Prop
  | .schedulerTick => s.sketch.pairingScanEnabled = true ∧ s.sketch.pairingScanUntilMs < s.millis
  | _ => False

/-- The clock does not come within 120 s of its wrap. -/
def NoWrap (s : System) : Event → Prop
  | .elapse ms => s.millis.toNat + ms.toNat + 120000 < 2 ^ 32
  | _ => True

section Step

variable {b : Board} {s : System}

/-- The control tick reads the connection and writes the outputs. -/
theorem sameScan_tick (b : Board) (now : UInt32) (connected : Bool) (packet : Option Snapshot)
    (s : Sketch) : SameScan s (processControlTick b now connected packet s) := by
  unfold processControlTick
  split
  · cases packet with
    | some c => exact ⟨rfl, rfl, rfl, rfl, rfl⟩
    | none =>
      dsimp only
      split <;> exact ⟨rfl, rfl, rfl, rfl, rfl⟩
  · exact ⟨rfl, rfl, rfl, rfl, rfl⟩

/-- **The events that leave the scan alone**: all but the scheduler's ticks, the
pairing requests, a restart, and the coming and going of the active gamepad. -/
theorem sameScan_step {e : Event} (htick : e ≠ .schedulerTick) (hpairing : ¬ AsksPairing e)
    (hrestart : ¬ AsksRestart e) (hset : ¬ SetsGamepad s e) (hdrop : ¬ DropsGamepad s e) :
    SameScan s.sketch (s.step b e).sketch := by
  cases e with
  | request r plan restartPlan =>
    change SameScan s.sketch (s.request b r plan restartPlan).sketch
    rw [request_eq hrestart]
    rw [AsksPairing, not_or] at hpairing
    exact (sameScan_handleRequest b s.sketch s.millis r hpairing.1 hpairing.2).run nvsDevice plan
      s.nvs
  | tick packet => exact sameScan_tick b s.millis s.gamepadConnected packet s.sketch
  | schedulerTick => exact absurd rfl htick
  | connect ctl kind =>
    change SameScan s.sketch (onConnectedController s.millis _ ctl kind s.sketch)
    unfold onConnectedController
    -- a gamepad that is turned away, and a device that is no gamepad
    by_cases hkind : kind = .gamepad
    · have hany : s.sketch.gamepad.any (Function.update s.connected ctl true) = true := by
        by_contra hnone
        exact hset ⟨hkind, by simpa using hnone⟩
      rw [if_neg (by simpa using hkind), if_pos hany]
      exact .refl s.sketch
    · rw [if_pos hkind]
      exact .refl s.sketch
  -- another controller than the active one
  | disconnect ctl =>
    change SameScan s.sketch (onDisconnectedController ctl s.sketch)
    unfold onDisconnectedController
    rw [if_neg fun heq => hdrop heq.symm]
    exact .refl s.sketch
  | elapse ms => exact .refl s.sketch

/-- A controller stays connected until it disconnects or the device restarts. -/
theorem connected_step {ctl : ControllerIdx} (h : s.connected ctl = true) {e : Event}
    (hdisconnect : e ≠ .disconnect ctl) (hrestart : ¬ AsksRestart e) :
    (s.step b e).connected ctl = true := by
  cases e with
  | request r plan restartPlan =>
    change (s.request b r plan restartPlan).connected ctl = true
    rw [request_eq hrestart]
    exact h
  | tick _ => exact h
  | schedulerTick => exact h
  | connect other kind =>
    change Function.update s.connected other true ctl = true
    -- connecting another one does not disconnect this one
    by_cases hother : ctl = other
    · rw [hother, Function.update_self]
    · rw [Function.update_of_ne hother]
      exact h
  | disconnect other =>
    have hother : ctl ≠ other := fun heq => hdisconnect (by rw [heq])
    change Function.update s.connected other false ctl = true
    rw [Function.update_of_ne hother]
    exact h
  | elapse _ => exact h

/-- What a pairing request does to the globals: it opens the window or closes
it, and does not look at the storage. -/
theorem sketch_pairing {r : Request} (plan restartPlan : Prog.Plan nvsInterface) :
    (r.endpoint = .pairingOn → (s.request b r plan restartPlan).sketch
        = (handleApiPairingOn s.millis s.sketch).1) ∧
      (r.endpoint = .pairingOff → (s.request b r plan restartPlan).sketch
        = (handleApiPairingOff s.sketch).1) := by
  constructor <;> intro h <;>
    rw [request_eq (by rw [h]; exact Endpoint.noConfusion)] <;>
    unfold handleRequest <;> rw [h] <;> rfl

end Step

/-! ### The scheduler's tick -/

/-- The first half of `updateBtScanScheduler`: a pairing window that is over is
closed. -/
def closeWindow (now : UInt32) (s : Sketch) : Sketch :=
  if s.pairingScanEnabled && s.pairingScanUntilMs < now then
    { s with pairingScanEnabled := false, btScanToggleAtMs := 0 } else s

/-- How long a phase of the scan lasts. -/
def phaseMs (active pairing : Bool) : UInt32 :=
  if active then (if pairing then kBtPairingScanOnMs else kBtAutoScanOnMs)
  else (if pairing then kBtPairingScanOffMs else kBtAutoScanOffMs)

/-- The second half: the scan is off while a gamepad is connected, and pulses
while none is. -/
theorem scheduler_eq (now : UInt32) (connected : Bool) (s : Sketch) :
    updateBtScanScheduler now connected s =
      let t := closeWindow now s
      if connected then { t with btScanActive := false, btScanToggleAtMs := now + 2000 }
      else if t.btScanToggleAtMs ≠ 0 && now < t.btScanToggleAtMs then t
      else
        { t with
          btScanActive := !t.btScanActive
          btScanToggleAtMs := now + phaseMs (!t.btScanActive) t.pairingScanEnabled } := by
  -- its first test is the closing of the window
  have hfirst : (if s.pairingScanEnabled && s.pairingScanUntilMs < now then
      { s with pairingScanEnabled := false, btScanToggleAtMs := 0 } else s) = closeWindow now s :=
    rfl
  unfold updateBtScanScheduler
  rw [hfirst]
  generalize closeWindow now s = t
  dsimp only
  rw [setBtScanActive_eq, setBtScanActive_eq]
  cases hactive : t.btScanActive <;> rfl

/-- A window that is not over stays as it is, and so does one that is not
there. -/
theorem closeWindow_of_open {now : UInt32} {s : Sketch}
    (h : ¬ (s.pairingScanEnabled = true ∧ s.pairingScanUntilMs < now)) : closeWindow now s = s := by
  unfold closeWindow
  rw [if_neg (by simpa using h)]

/-- Closing the window leaves the phase and the active gamepad. It sets the time
of the next toggle to zero, which makes the same tick toggle. -/
theorem closeWindow_fields (now : UInt32) (s : Sketch) :
    (closeWindow now s).gamepad = s.gamepad ∧ (closeWindow now s).btScanActive = s.btScanActive ∧
      (closeWindow now s).pairingScanUntilMs = s.pairingScanUntilMs ∧
      (closeWindow now s).pairingScanEnabled
        = (s.pairingScanEnabled && !decide (s.pairingScanUntilMs < now)) := by
  unfold closeWindow
  cases henabled : s.pairingScanEnabled <;> by_cases hover : s.pairingScanUntilMs < now <;>
    simp [henabled, hover]

/-- A tick does to the pairing window what its first half does, and leaves the
active gamepad. -/
theorem scheduler_pairing (now : UInt32) (connected : Bool) (s : Sketch) :
    (updateBtScanScheduler now connected s).gamepad = s.gamepad ∧
      (updateBtScanScheduler now connected s).pairingScanUntilMs = s.pairingScanUntilMs ∧
      (updateBtScanScheduler now connected s).pairingScanEnabled
        = (s.pairingScanEnabled && !decide (s.pairingScanUntilMs < now)) := by
  obtain ⟨hgamepad, -, hwindow, henabled⟩ := closeWindow_fields now s
  rw [scheduler_eq]
  dsimp only
  split_ifs <;> exact ⟨hgamepad, hwindow, henabled⟩

/-! ### The scan while a gamepad is connected -/

section Contract

variable {b : Board} {s : System}

/-- The active gamepad is connected, and the scan is off. -/
structure Playing (ctl : ControllerIdx) (s : System) : Prop where
  gamepad : s.sketch.gamepad = some ctl
  connected : s.connected ctl = true
  off : s.sketch.btScanActive = false

/-- What leaves the scan and the connection alone. -/
theorem Playing.of_sameScan {ctl : ControllerIdx} (h : Playing ctl s) {s' : System}
    (hscan : SameScan s.sketch s'.sketch) (hconnected : s'.connected ctl = true) :
    Playing ctl s' :=
  ⟨hscan.gamepad.trans h.gamepad, hconnected, hscan.active.trans h.off⟩

/-- A gamepad that is accepted is the active one, and ends the scan. -/
theorem playing_accepted {ctl : ControllerIdx} {kind : ControllerKind} (h : Accepts s ctl kind) :
    Playing ctl (s.step b (.connect ctl kind)) := by
  obtain ⟨hkind, hany⟩ := h
  have hend : (s.step b (.connect ctl kind)).sketch.gamepad = some ctl ∧
      (s.step b (.connect ctl kind)).sketch.btScanActive = false := by
    simp only [System.step, onConnectedController, setBtScanActive_eq]
    rw [if_neg (by simpa using hkind), if_neg (by simp [hany])]
    split <;> exact ⟨rfl, rfl⟩
  exact ⟨hend.1, Function.update_self .., hend.2⟩

/-- **The scan stays off** until the active gamepad goes or the device restarts.
A tick turns it off again, the pairing requests do not turn it on, and no second
gamepad is accepted while the first is connected. -/
theorem playing_step {ctl : ControllerIdx} (h : Playing ctl s) {e : Event}
    (hdisconnect : e ≠ .disconnect ctl) (hrestart : ¬ AsksRestart e) :
    Playing ctl (s.step b e) := by
  have hconnected := connected_step (b := b) h.connected hdisconnect hrestart
  by_cases htick : e = .schedulerTick
  · subst htick
    -- a tick with a gamepad connected turns the scan off, or leaves it off
    have hon : s.gamepadConnected = true := by
      rw [System.gamepadConnected, h.gamepad]
      exact h.connected
    refine ⟨(scheduler_pairing s.millis s.gamepadConnected s.sketch).1.trans h.gamepad,
      hconnected, ?_⟩
    change (updateBtScanScheduler s.millis s.gamepadConnected s.sketch).btScanActive = false
    rw [scheduler_eq, hon]
    rfl
  by_cases hpairing : AsksPairing e
  · -- the pairing requests write neither the scan flag nor the active gamepad
    cases e with
    | request r plan restartPlan =>
      obtain ⟨hon, hoff⟩ := sketch_pairing (b := b) (s := s) (r := r) plan restartPlan
      rcases hpairing with hr | hr
      · exact ⟨(congrArg Sketch.gamepad (hon hr)).trans h.gamepad, hconnected,
          (congrArg Sketch.btScanActive (hon hr)).trans h.off⟩
      · exact ⟨(congrArg Sketch.gamepad (hoff hr)).trans h.gamepad, hconnected,
          (congrArg Sketch.btScanActive (hoff hr)).trans h.off⟩
    | _ => exact hpairing.elim
  -- every other event leaves the scan alone, unless it takes or drops a gamepad
  refine h.of_sameScan (sameScan_step htick hpairing hrestart ?_ ?_) hconnected
  · -- no second gamepad is accepted while the first one is connected
    intro hset
    -- the first gamepad does not leave
    cases e with
    | connect other kind =>
      obtain ⟨-, hany⟩ := hset
      rw [h.gamepad] at hany
      have hstill : Function.update s.connected other true ctl = true := hconnected
      rw [Option.any_some, hstill] at hany
      cases hany
    | _ => exact hset.elim
  · intro hdrop
    cases e with
    | disconnect other =>
      have hsome : s.sketch.gamepad = some other := hdrop
      rw [h.gamepad] at hsome
      exact hdisconnect (by rw [Option.some.inj hsome])
    | _ => exact hdrop.elim

/-- From the connect callback to the disconnect, by the invariant rule. -/
theorem scan_off_while_connected {ctl : ControllerIdx} {kind : ControllerKind}
    (h : Accepts s ctl kind) {es : List Event}
    (hes : ∀ e ∈ es, e ≠ .disconnect ctl ∧ ¬ AsksRestart e) :
    Playing ctl (run (System.step b) (s.step b (.connect ctl kind)) es) :=
  run_invariant (C := fun _ e => e ≠ .disconnect ctl ∧ ¬ AsksRestart e)
    (fun _ _ hI hC => playing_step hI hC.1 hC.2) (playing_accepted h) (stepsMeet_of_mem hes _)

/-! ### The pairing window -/

/-- The window is open until the given time. -/
structure WindowOpen (untilMs : UInt32) (s : System) : Prop where
  enabled : s.sketch.pairingScanEnabled = true
  window : s.sketch.pairingScanUntilMs = untilMs

/-- What ends a pairing window, or opens another one, other than the
scheduler. -/
def EndsWindow (s : System) (e : Event) : Prop := AsksPairing e ∨ AsksRestart e ∨ SetsGamepad s e

/-- An event that is no tick leaves the window, unless it is one of those that
end it. -/
theorem window_step {e : Event} (hends : ¬ EndsWindow s e) (htick : e ≠ .schedulerTick) :
    (s.step b e).sketch.pairingScanEnabled = s.sketch.pairingScanEnabled ∧
      (s.step b e).sketch.pairingScanUntilMs = s.sketch.pairingScanUntilMs := by
  unfold EndsWindow at hends
  push Not at hends
  obtain ⟨hpairing, hrestart, hset⟩ := hends
  by_cases hdrop : DropsGamepad s e
  · -- the active gamepad goes, and pairing goes on
    cases e with
    | disconnect ctl =>
      have hsome : s.sketch.gamepad = some ctl := hdrop
      simp only [System.step, onDisconnectedController]
      rw [if_pos hsome.symm]
      exact ⟨rfl, rfl⟩
    | _ => exact hdrop.elim
  · have hscan := sameScan_step (b := b) htick hpairing hrestart hset hdrop
    exact ⟨hscan.enabled, hscan.window⟩

/-- A window that was closed stays closed. -/
theorem closed_step (h : s.sketch.pairingScanEnabled = false) {e : Event}
    (hends : ¬ EndsWindow s e) : (s.step b e).sketch.pairingScanEnabled = false := by
  by_cases htick : e = .schedulerTick
  · subst htick
    refine (scheduler_pairing s.millis s.gamepadConnected s.sketch).2.2.trans ?_
    rw [h, Bool.false_and]
  · exact (window_step hends htick).1.trans h

/-- **When the scheduler closes a window**: at its first tick after the end of
it. The induction is over the events; a tick that comes too late closes the
window, after which none of the remaining events opens it, and any other event
leaves it as it is. -/
theorem window_iff {untilMs : UInt32} (h : WindowOpen untilMs s) {es : List Event}
    (hends : StepsMeet (System.step b) (fun u e => ¬ EndsWindow u e) s es) :
    (run (System.step b) s es).sketch.pairingScanEnabled = true ↔
      StepsMeet (System.step b) (fun u e => e = .schedulerTick → u.millis ≤ untilMs) s es := by
  induction es generalizing s with
  | nil => exact iff_of_true h.enabled trivial
  | cons e es ih =>
    obtain ⟨he, hes⟩ := hends
    by_cases hlate : e = .schedulerTick ∧ ¬ s.millis ≤ untilMs
    · -- this tick closes the window, and nothing after it opens one
      obtain ⟨rfl, hlate⟩ := hlate
      have hclosed : (s.step b .schedulerTick).sketch.pairingScanEnabled = false := by
        refine (scheduler_pairing s.millis s.gamepadConnected s.sketch).2.2.trans ?_
        rw [h.window, h.enabled]
        simpa using hlate
      have hend : (run (System.step b) (s.step b .schedulerTick) es).sketch.pairingScanEnabled
          = false :=
        run_invariant (I := fun u : System => u.sketch.pairingScanEnabled = false)
          (fun _ _ hI hC => closed_step hI hC) hclosed hes
      rw [run_cons, hend]
      exact iff_of_false Bool.false_ne_true fun hall => hlate (hall.1 rfl)
    · -- the window stays open through this event, and the induction goes on
      have htime : e = .schedulerTick → s.millis ≤ untilMs := fun htick => by
        by_contra hnot
        exact hlate ⟨htick, hnot⟩
      have hnext : WindowOpen untilMs (s.step b e) := by
        by_cases htick : e = .schedulerTick
        · subst htick
          obtain ⟨-, hwindow, henabled⟩ :=
            scheduler_pairing s.millis s.gamepadConnected s.sketch
          refine ⟨henabled.trans ?_, hwindow.trans h.window⟩
          rw [h.window, h.enabled]
          simpa using htime rfl
        · obtain ⟨henabled, hwindow⟩ := window_step (b := b) he htick
          exact ⟨henabled.trans h.enabled, hwindow.trans h.window⟩
      rw [run_cons, ih hnext hes]
      exact ⟨fun hall => ⟨htime, hall⟩, fun hall => hall.2⟩

/-- A pairing request opens a window of 120 s, whether one is open already or
not. -/
theorem windowOpen_request {r : Request} (hr : r.endpoint = .pairingOn)
    (plan restartPlan : Prog.Plan nvsInterface) :
    WindowOpen (s.millis + kPairingWindowMs) (s.request b r plan restartPlan) := by
  have hsketch := (sketch_pairing (b := b) (s := s) plan restartPlan).1 hr
  constructor
  · rw [hsketch]
    rfl
  · rw [hsketch]
    rfl

/-! ### The phases of the scan -/

/-- A phase is under way: no gamepad is active, and the next toggle is due at
the given time. -/
structure InPhase (active : Bool) (dueMs : UInt32) (s : System) : Prop where
  gamepad : s.sketch.gamepad = none
  active : s.sketch.btScanActive = active
  due : s.sketch.btScanToggleAtMs = dueMs

/-- What interrupts a phase: a pairing request, a restart, an accepted gamepad,
and the tick that closes a window. -/
def Interrupts (s : System) (e : Event) : Prop :=
  AsksPairing e ∨ AsksRestart e ∨ SetsGamepad s e ∨ Expires s e

/-- **A phase goes on** until a tick at its end, unless it is interrupted. The
time of the next toggle must not be zero, since zero means that it is due. -/
theorem inPhase_step {active : Bool} {dueMs : UInt32} (h : InPhase active dueMs s)
    (hdue : dueMs ≠ 0) {e : Event} (hnot : ¬ Interrupts s e)
    (htime : e = .schedulerTick → s.millis < dueMs) : InPhase active dueMs (s.step b e) := by
  unfold Interrupts at hnot
  push Not at hnot
  obtain ⟨hpairing, hrestart, hset, hexpire⟩ := hnot
  by_cases htick : e = .schedulerTick
  · subst htick
    -- a tick before the phase is over changes nothing
    have hoff : s.gamepadConnected = false := by
      rw [System.gamepadConnected, h.gamepad]
      rfl
    have hsame : updateBtScanScheduler s.millis s.gamepadConnected s.sketch = s.sketch := by
      rw [scheduler_eq, closeWindow_of_open hexpire, hoff]
      dsimp only
      rw [if_neg Bool.false_ne_true, if_pos]
      simp [h.due, hdue, htime rfl]
    exact ⟨(congrArg Sketch.gamepad hsame).trans h.gamepad,
      (congrArg Sketch.btScanActive hsame).trans h.active,
      (congrArg Sketch.btScanToggleAtMs hsame).trans h.due⟩
  · -- there is no gamepad to drop
    have hdrop : ¬ DropsGamepad s e := by
      intro hdrop
      cases e with
      | disconnect ctl =>
        have hsome : s.sketch.gamepad = some ctl := hdrop
        rw [h.gamepad] at hsome
        cases hsome
      | _ => exact hdrop.elim
    have hscan := sameScan_step (b := b) htick hpairing hrestart hset hdrop
    exact ⟨hscan.gamepad.trans h.gamepad, hscan.active.trans h.active, hscan.toggle.trans h.due⟩

/-- **A tick at the end of a phase** begins the opposite one. -/
theorem phase_ends {active : Bool} {dueMs : UInt32} (h : InPhase active dueMs s)
    (htime : dueMs ≤ s.millis) : (s.step b .schedulerTick).sketch.btScanActive = !active := by
  have hoff : s.gamepadConnected = false := by
    rw [System.gamepadConnected, h.gamepad]
    rfl
  obtain ⟨-, hactive, -, -⟩ := closeWindow_fields s.millis s.sketch
  change (updateBtScanScheduler s.millis s.gamepadConnected s.sketch).btScanActive = _
  rw [scheduler_eq, hoff]
  dsimp only
  -- no gamepad, and nothing left to wait for
  rw [if_neg Bool.false_ne_true, if_neg]
  · change (!(closeWindow s.millis s.sketch).btScanActive) = !active
    rw [hactive, h.active]
  · -- the next toggle is due, be it that the phase is over or that the window was closed
    have hover : ¬ s.millis < s.sketch.btScanToggleAtMs := by
      rw [h.due]
      exact UInt32.not_lt.mpr htime
    unfold closeWindow
    split
    · simp
    · simp [hover]

/-- **A tick that toggles begins a phase** of the time its mode has. The mode is
the one after the tick, which may have closed the window first. -/
theorem inPhase_toggle (hnone : s.sketch.gamepad = none)
    (htoggle : (s.step b .schedulerTick).sketch.btScanActive ≠ s.sketch.btScanActive) :
    InPhase (s.step b .schedulerTick).sketch.btScanActive
      (s.millis + phaseMs (s.step b .schedulerTick).sketch.btScanActive
        (s.step b .schedulerTick).sketch.pairingScanEnabled) (s.step b .schedulerTick) := by
  have hoff : s.gamepadConnected = false := by
    rw [System.gamepadConnected, hnone]
    rfl
  obtain ⟨hgamepad, hactive, -, -⟩ := closeWindow_fields s.millis s.sketch
  change (updateBtScanScheduler s.millis s.gamepadConnected s.sketch).btScanActive ≠ _ at htoggle
  have hsketch : (s.step b .schedulerTick).sketch
      = updateBtScanScheduler s.millis s.gamepadConnected s.sketch := rfl
  rw [scheduler_eq, hoff] at htoggle
  dsimp only at htoggle
  rw [if_neg Bool.false_ne_true] at htoggle
  -- the scan has toggled, so the tick was not one that waits
  by_cases hwait : ((closeWindow s.millis s.sketch).btScanToggleAtMs ≠ 0 &&
      decide (s.millis < (closeWindow s.millis s.sketch).btScanToggleAtMs)) = true
  · rw [if_pos hwait, hactive] at htoggle
    exact absurd rfl htoggle
  · -- a new phase begins now, and its end is one phase away
    have hend : (s.step b .schedulerTick).sketch = { closeWindow s.millis s.sketch with
        btScanActive := !(closeWindow s.millis s.sketch).btScanActive
        btScanToggleAtMs := s.millis + phaseMs (!(closeWindow s.millis s.sketch).btScanActive)
          (closeWindow s.millis s.sketch).pairingScanEnabled } := by
      rw [hsketch, scheduler_eq, hoff]
      dsimp only
      rw [if_neg Bool.false_ne_true, if_neg hwait]
    rw [hend]
    refine ⟨?_, ?_, ?_⟩
    · rw [hend]
      exact hgamepad.trans hnone
    · rw [hend]
    · rw [hend]

/-! ### The contract along a run -/

/-- What is kept along a run: the active gamepad is connected, and the clock is
120 s away from its wrap. -/
structure Attended (s : System) : Prop where
  session : ∀ ctl, s.sketch.gamepad = some ctl → s.connected ctl = true
  clock : s.millis.toNat + 120000 < 2 ^ 32

/-- A device that has booted has no gamepad. -/
theorem attended_boot (nvs : NvsStore) (plan : Prog.Plan nvsInterface) {millis : UInt32}
    (h : millis.toNat + 120000 < 2 ^ 32) : Attended (System.boot b nvs plan millis) := by
  refine ⟨fun ctl hctl => ?_, h⟩
  rw [sketch_boot] at hctl
  cases hctl

/-- An event that leaves the active gamepad leaves it connected. -/
theorem session_of_gamepad (h : Attended s) {e : Event} (hrestart : ¬ AsksRestart e)
    (hdrop : ¬ DropsGamepad s e) (hgamepad : (s.step b e).sketch.gamepad = s.sketch.gamepad)
    (ctl : ControllerIdx) (hctl : (s.step b e).sketch.gamepad = some ctl) :
    (s.step b e).connected ctl = true := by
  rw [hgamepad] at hctl
  refine connected_step (h.session ctl hctl) ?_ hrestart
  rintro rfl
  exact hdrop hctl

/-- **Every event keeps the gamepad connected** and the clock away from its
wrap. A gamepad that is accepted is connected; one that goes is forgotten in the
same event. -/
theorem attended_step (h : Attended s) {e : Event} (hwrap : NoWrap s e) :
    Attended (s.step b e) := by
  cases e with
  | request r plan restartPlan =>
    change Attended (s.request b r plan restartPlan)
    rcases request_cases (b := b) (s := s) r plan restartPlan with
      ⟨nvs, hboot⟩ | ⟨sketch, nvs, hsame, hhandled⟩
    · rw [hboot]
      -- a restart sets the clock to zero and forgets the gamepad
      exact attended_boot nvs restartPlan (by decide)
    · rw [hsame]
      exact ⟨fun ctl hctl => h.session ctl (hhandled.session.gamepad.symm.trans hctl), h.clock⟩
  | tick packet =>
    have hscan := sameScan_tick b s.millis s.gamepadConnected packet s.sketch
    exact ⟨session_of_gamepad h (fun h => h) (fun h => h) hscan.gamepad, h.clock⟩
  | schedulerTick =>
    have hgamepad := (scheduler_pairing s.millis s.gamepadConnected s.sketch).1
    exact ⟨session_of_gamepad h (fun h => h) (fun h => h) hgamepad, h.clock⟩
  | connect ctl kind =>
    refine ⟨?_, h.clock⟩
    -- a gamepad is taken only while the one the sketch has is not connected
    by_cases haccept : Accepts s ctl kind
    · have hplaying := playing_accepted (b := b) haccept
      intro other hother
      rw [hplaying.gamepad] at hother
      obtain rfl := Option.some.inj hother
      exact hplaying.connected
    · have hscan := sameScan_step (b := b) (s := s) (e := .connect ctl kind) Event.noConfusion
        (fun h => h) (fun h => h) haccept fun h => h
      exact session_of_gamepad h (fun h => h) (fun h => h) hscan.gamepad
  | disconnect ctl =>
    refine ⟨?_, h.clock⟩
    by_cases hdrop : s.sketch.gamepad = some ctl
    · intro other hother
      have hnone : (s.step b (.disconnect ctl)).sketch.gamepad = none := by
        simp only [System.step, onDisconnectedController]
        rw [if_pos hdrop.symm]
        rfl
      rw [hnone] at hother
      cases hother
    · have hscan := sameScan_step (b := b) (s := s) (e := .disconnect ctl) Event.noConfusion
        (fun h => h) (fun h => h) (fun h => h) hdrop
      exact session_of_gamepad h (fun h => h) hdrop hscan.gamepad
  | elapse ms =>
    have hsum : s.millis.toNat + ms.toNat + 120000 < 2 ^ 32 := hwrap
    refine ⟨h.session, ?_⟩
    change (s.millis + ms).toNat + 120000 < 2 ^ 32
    rw [UInt32.toNat_add, Nat.mod_eq_of_lt (by omega)]
    exact hsum

/-- A deadline set that far from the wrap is the time it is meant to be, and not
zero. -/
theorem toNat_deadline {t ms : UInt32} (hclock : t.toNat + 120000 < 2 ^ 32)
    (hms : ms.toNat ≤ 120000) (hpos : 0 < ms.toNat) :
    (t + ms).toNat = t.toNat + ms.toNat ∧ t + ms ≠ 0 := by
  have hsum : (t + ms).toNat = t.toNat + ms.toNat := by
    rw [UInt32.toNat_add, Nat.mod_eq_of_lt (by omega)]
  refine ⟨hsum, fun hzero => ?_⟩
  rw [hzero] at hsum
  have hnil : (0 : UInt32).toNat = 0 := rfl
  omega

/-- All phases last for a positive time of at most 120 s. -/
theorem phaseMs_spec (active pairing : Bool) :
    (phaseMs active pairing).toNat ≤ 120000 ∧ 0 < (phaseMs active pairing).toNat := by
  cases active <;> cases pairing <;> decide

end Contract

/-- **The contract of the scan scheduler** in a state, for everything that can
happen next. -/
structure ScanContract (b : Board) (s : System) : Prop where
  -- off from the connect callback of an accepted gamepad to its disconnect
  connected : ∀ ctl kind, Accepts s ctl kind → ∀ es,
    (∀ e ∈ es, e ≠ .disconnect ctl ∧ ¬ AsksRestart e) →
    (run (System.step b) (s.step b (.connect ctl kind)) es).sketch.btScanActive = false
  -- a window opened now is open until a tick that comes more than 120 s later
  window : ∀ r plan restartPlan, r.endpoint = .pairingOn → ∀ es,
    StepsMeet (System.step b) (fun u e => ¬ EndsWindow u e)
      (s.step b (.request r plan restartPlan)) es →
    ((run (System.step b) (s.step b (.request r plan restartPlan)) es).sketch.pairingScanEnabled
        = true ↔
      StepsMeet (System.step b)
        (fun u e => e = .schedulerTick → u.millis.toNat ≤ s.millis.toNat + 120000)
        (s.step b (.request r plan restartPlan)) es)
  -- a phase begun now lasts until the first tick at or after its time
  phase : s.gamepadConnected = false →
    (s.step b .schedulerTick).sketch.btScanActive ≠ s.sketch.btScanActive → ∀ es,
    let began := s.step b .schedulerTick
    let dueMs := s.millis.toNat
      + (phaseMs began.sketch.btScanActive began.sketch.pairingScanEnabled).toNat
    let u := run (System.step b) began es
    StepsMeet (System.step b) (fun u e => ¬ Interrupts u e) began es →
    StepsMeet (System.step b) (fun u e => e = .schedulerTick → u.millis.toNat < dueMs) began es →
    u.sketch.btScanActive = began.sketch.btScanActive ∧
      (dueMs ≤ u.millis.toNat →
        (u.step b .schedulerTick).sketch.btScanActive = !began.sketch.btScanActive)

theorem Attended.contract {b : Board} {s : System} (h : Attended s) : ScanContract b s where
  connected ctl kind haccept es hes := (scan_off_while_connected haccept hes).off
  window r plan restartPlan hr es hes := by
    obtain ⟨hsum, -⟩ := toNat_deadline h.clock
      (show kPairingWindowMs.toNat ≤ 120000 by decide) (by decide)
    have hiff := window_iff (windowOpen_request (b := b) (s := s) hr plan restartPlan) hes
    simp only [UInt32.le_iff_toNat_le, hsum] at hiff
    exact hiff
  phase hoff hbegins es := by
    intro began dueMs u hfree htime
    have hnone : s.sketch.gamepad = none := by
      cases hgamepad : s.sketch.gamepad with
      | none => rfl
      | some ctl =>
        -- a gamepad that is active is connected
        have hon := h.session ctl hgamepad
        rw [System.gamepadConnected, hgamepad] at hoff
        exact absurd (hoff.symm.trans hon) Bool.false_ne_true
    obtain ⟨hle, hpos⟩ := phaseMs_spec began.sketch.btScanActive began.sketch.pairingScanEnabled
    obtain ⟨hsum, hdue⟩ := toNat_deadline h.clock hle hpos
    have hphase : InPhase began.sketch.btScanActive
        (s.millis + phaseMs began.sketch.btScanActive began.sketch.pairingScanEnabled) u := by
      refine run_invariant (C := fun v e => ¬ Interrupts v e ∧ (e = .schedulerTick →
        v.millis.toNat < dueMs)) (fun v e hI hC => inPhase_step hI hdue hC.1 fun htick => ?_)
        (inPhase_toggle hnone hbegins) ?_
      · rw [UInt32.lt_iff_toNat_lt, hsum]
        exact hC.2 htick
      · exact stepsMeet_and hfree htime
    refine ⟨hphase.active, fun hend => phase_ends hphase ?_⟩
    rw [UInt32.le_iff_toNat_le, hsum]
    exact hend

/-- **The scan scheduler keeps its contract** in every state of every run whose
clock stays 120 s away from its wrap. -/
theorem scan_contract (b : Board) (nvs : NvsStore) (plan : Prog.Plan nvsInterface)
    (millis : UInt32) (hmillis : millis.toNat + 120000 < 2 ^ 32) (events : List Event)
    (hwrap : StepsMeet (System.step b) NoWrap (System.boot b nvs plan millis) events) :
    ScanContract b (run (System.step b) (System.boot b nvs plan millis) events) :=
  (run_invariant (I := Attended) (fun _ _ hI hC => attended_step hI hC)
    (attended_boot nvs plan hmillis) hwrap).contract

/-- Five seconds after boot, when the first phase begins. -/
theorem scan_contract_start :
    ScanContract smallBoard (run (System.step smallBoard)
      (System.boot smallBoard {} (fun _ _ => false) 0) [.schedulerTick, .elapse 5000]) :=
  scan_contract smallBoard {} (fun _ _ => false) 0 (by decide) [.schedulerTick, .elapse 5000]
    ⟨trivial, show 0 + 5000 + 120000 < 2 ^ 32 by norm_num, trivial⟩

end RcController
