import RcController.Device.Failsafe
import RcController.Device.Loop
import RcController.Lib.Watchdog

/-!
# The failsafe deadline

The signal timeout is a watchdog on the 32-bit clock of the device: a fresh packet or a
connecting gamepad feeds it, a control tick polls it, and it is armed while the failsafe
is not reported. `system_watchdog` is that refinement. It holds in every run, since the
gamepad of the sketch is always one that is connected (`GamepadHeld`); a gamepad that was
not could come back without feeding.

With the latch, the watchdog gives the deadline: whatever the Bluetooth side does and
however long the device runs, the outputs are at their failsafe or the last packet is at
most 450 ms older than the last control tick (`failsafe_deadline`). The clock may wrap;
the control ticks must only not be a whole turn of the clock apart.
-/

namespace RcController

open DeviceProg OutputBank Runs Watchdog

namespace System

variable {b : Board} {s : System}

/-! ### The gamepad is connected -/

/-- The gamepad of the sketch is a connected controller. The sketch forgets it
in the callback of its loss, which comes before the flag is cleared. -/
def GamepadHeld (s : System) : Prop := ∀ g, s.sketch.gamepad = some g → s.connected g = true

/-- What a handler or the scheduler does leaves the gamepad and the flags
alone. -/
theorem GamepadHeld.of_session {sketch : Sketch} {nvs : NvsStore} (h : s.GamepadHeld)
    (hsame : SameSession s.sketch sketch) :
    ({ s with sketch := sketch, nvs := nvs } : System).GamepadHeld := fun g hg =>
  h g (hsame.gamepad.symm.trans hg)

/-- A device that has booted has no gamepad. -/
theorem gamepad_boot (b : Board) (nvs : NvsStore) (plan : Prog.Plan nvsInterface)
    (millis : UInt32) : (System.boot b nvs plan millis).sketch.gamepad = none := by
  rw [sketch_boot]
  rfl

/-- So there is nothing to be connected. -/
theorem gamepadHeld_boot (b : Board) (nvs : NvsStore) (plan : Prog.Plan nvsInterface)
    (millis : UInt32) : (System.boot b nvs plan millis).GamepadHeld := by
  intro g hg
  rw [gamepad_boot] at hg
  cases hg

/-- What a control tick does to the connection. The time of the last packet is
set by a packet of a connected gamepad only; the flag of the timeout is cleared
by such a packet, set by a tick that comes too late without one, and left alone
while no gamepad is connected. -/
structure TickSession (s s' : System) (packet : Option Snapshot) : Prop where
  connected : s'.connected = s.connected
  gamepad : s'.sketch.gamepad = s.sketch.gamepad
  millis : s'.millis = s.millis
  lastPacketMs : s'.sketch.lastPacketMs =
    if s.gamepadConnected && packet.isSome then s.millis else s.sketch.lastPacketMs
  signalTimedOut : s'.sketch.signalTimedOut =
    if s.gamepadConnected then
      packet.isNone && (decide (kSignalTimeoutMs < s.millis - s.sketch.lastPacketMs) ||
        s.sketch.signalTimedOut)
    else s.sketch.signalTimedOut

/-- The cases follow `processControlTick`: no gamepad, a packet, no packet and
too late, no packet and still in time. -/
theorem session_tick (packet : Option Snapshot) :
    TickSession s (s.step b (.tick packet)) packet := by
  simp only [System.step, processControlTick]
  cases hconnected : s.gamepadConnected with
  | false => exact ⟨rfl, rfl, rfl, by simp [hconnected]; rfl, by simp [hconnected]; rfl⟩
  | true =>
    cases packet with
    | some c => exact ⟨rfl, rfl, rfl, by simp [hconnected], by simp [hconnected]⟩
    | none =>
      by_cases hlate : kSignalTimeoutMs < s.millis - s.sketch.lastPacketMs
      · simp only [if_true, if_pos hlate]
        exact ⟨rfl, rfl, rfl, by simp; rfl, by simp [hconnected, hlate]⟩
      · simp only [if_true, if_neg hlate]
        exact ⟨rfl, rfl, rfl, by simp, by simp [hconnected, hlate]⟩

/-- A tick does not change whether the gamepad is connected. -/
theorem TickSession.gamepadConnected {s' : System} {packet : Option Snapshot}
    (h : TickSession s s' packet) : s'.gamepadConnected = s.gamepadConnected := by
  simp only [System.gamepadConnected, h.gamepad, h.connected]

/-- The gamepad after a controller has connected: that controller, when it is
accepted. -/
theorem gamepad_onConnected (now : UInt32) (connected : ControllerIdx → Bool) (ctl : ControllerIdx)
    (kind : ControllerKind) (t : Sketch) :
    (onConnectedController now connected ctl kind t).gamepad =
      if kind = .gamepad ∧ t.gamepad.any connected = false then some ctl else t.gamepad := by
  unfold onConnectedController setBtScanActive
  by_cases hkind : kind = .gamepad
  · cases hany : t.gamepad.any connected with
    | true => simp [hkind]
    | false =>
      rw [if_neg (not_not_intro hkind), if_neg Bool.false_ne_true, if_pos (And.intro hkind rfl)]
      dsimp only
      split <;> split <;> rfl
  · simp [hkind]

/-- **Every event keeps the gamepad connected.** A controller that is accepted
is connected when it is, and one whose loss is reported is forgotten when it was
the gamepad. The loss of another controller clears another flag. -/
theorem gamepadHeld_step (h : s.GamepadHeld) (event : Event) : (s.step b event).GamepadHeld := by
  cases event with
  | request r plan restartPlan =>
    change (s.request b r plan restartPlan).GamepadHeld
    rcases request_cases (b := b) (s := s) r plan restartPlan with
      ⟨nvs, hboot⟩ | ⟨sketch, nvs, hsame, hhandled⟩
    · rw [hboot]
      exact gamepadHeld_boot b nvs restartPlan 0
    · rw [hsame]
      exact h.of_session hhandled.session
  | tick packet => exact fun g hg => h g ((session_tick (b := b) packet).gamepad.symm.trans hg)
  | schedulerTick => exact h.of_session (scheduler_session s).2
  | connect ctl kind =>
    intro g hg
    change (onConnectedController _ _ ctl kind s.sketch).gamepad = some g at hg
    change Function.update s.connected ctl true g = true
    -- a new controller becomes the gamepad only when it is a gamepad and there is none
    rw [gamepad_onConnected] at hg
    by_cases hctl : g = ctl
    · rw [hctl, Function.update_self]
    · rw [Function.update_of_ne hctl]
      split at hg
      · exact absurd (Option.some.inj hg).symm hctl
      · exact h g hg
  | disconnect ctl =>
    intro g hg
    change (onDisconnectedController ctl s.sketch).gamepad = some g at hg
    change Function.update s.connected ctl false g = true
    -- the gamepad is given up together with its connection
    unfold onDisconnectedController at hg
    split at hg
    · cases hg
    · next hother =>
      have hctl : g ≠ ctl := fun heq => hother (by rw [hg, heq])
      rw [Function.update_of_ne hctl]
      exact h g hg
  | elapse _ => exact h

/-! ### The watchdog of the device -/

/-- The signal timeout as a watchdog. It is armed while the failsafe is not
reported. -/
def dog (s : System) : Dog where
  now := s.millis.toNat
  last := s.sketch.lastPacketMs.toNat
  armed := !s.failsafeActive

/-- A request restarts the device: it is the one that applies the access point,
and it has been carried out. -/
def Restarts (b : Board) (r : Request) (plan : Prog.Plan nvsInterface) (s : System) : Prop :=
  r.endpoint = .apConfigApplyReboot ∧
    ((handleRequest b s.millis r s.sketch).run nvsDevice plan s.nvs).1.2.ok = true

instance (b : Board) (r : Request) (plan : Prog.Plan nvsInterface) (s : System) :
    Decidable (s.Restarts b r plan) := inferInstanceAs (Decidable (_ ∧ _))

/-- What an event is to the watchdog. A packet or an accepted controller feeds
it, any other tick polls it, the loss of the gamepad stops it, and a restart
sets its clock to zero. -/
def watchEvents (b : Board) (s : System) : Event → List Watchdog.Event
  | .request r plan _ => if s.Restarts b r plan then [.restart 0] else []
  | .tick packet => if s.gamepadConnected && packet.isSome then [.feed] else [.poll]
  | .schedulerTick => []
  | .connect ctl kind =>
    if kind = .gamepad ∧ s.sketch.gamepad.any (Function.update s.connected ctl true) = false then
      [.feed]
    else []
  | .disconnect ctl => if some ctl = s.sketch.gamepad then [.stop] else []
  | .elapse ms => [.elapse ms.toNat]

/-- One step of the watchdog on the 32-bit clock. -/
abbrev watch : Dog → Watchdog.Event → Dog := Watchdog.step (2 ^ 32) 450

/-- The test of a late tick is the test of the watchdog. Both take the
difference of two readings on the 32-bit clock. -/
theorem timeout_iff (s : System) :
    kSignalTimeoutMs < s.millis - s.sketch.lastPacketMs ↔ 450 < s.dog.difference (2 ^ 32) := by
  rw [UInt32.lt_iff_toNat_lt, UInt32.toNat_sub]
  rfl

/-- What leaves the connection alone leaves the watchdog alone. -/
theorem dog_of_session {sketch : Sketch} (nvs : NvsStore) (h : SameSession s.sketch sketch) :
    ({ s with sketch := sketch, nvs := nvs } : System).dog = s.dog := by
  have hactive := failsafeActive_of_session nvs h
  simp only [dog, hactive, h.lastPacketMs]

/-- A request is nothing to the watchdog, unless it restarts the device. Then
the clock starts at zero, no packet has come, and the failsafe is reported. -/
theorem dog_request (r : Request) (plan restartPlan : Prog.Plan nvsInterface) :
    (s.step b (.request r plan restartPlan)).dog =
      run watch s.dog (s.watchEvents b (.request r plan restartPlan)) := by
  simp only [watchEvents]
  split
  · next hrestart =>
    -- a restart sets the clock, and the dog is disarmed
    have hboot : s.step b (.request r plan restartPlan) = System.boot b _ restartPlan 0 :=
      if_pos hrestart
    have hactive := failsafeActive_boot b
      ((handleRequest b s.millis r s.sketch).run nvsDevice plan s.nvs).2 restartPlan 0
    rw [hboot]
    simp only [dog, hactive, sketch_boot]
    rfl
  · next hrestart =>
    -- any other request leaves the clock, the last packet and the flag
    have hsame : s.step b (.request r plan restartPlan) =
        { s with sketch := _, nvs := _ } := if_neg hrestart
    have hhandled := (handleRequest_always b s.millis r s.sketch).run nvsDevice plan s.nvs
    rw [hsame]
    exact dog_of_session _ hhandled.session

/-- A tick feeds the watchdog or polls it. Without a gamepad the failsafe is
reported anyway, so that the watchdog is not armed and the poll does nothing. -/
theorem dog_tick (packet : Option Snapshot) :
    (s.step b (.tick packet)).dog = run watch s.dog (s.watchEvents b (.tick packet)) := by
  have hsession := session_tick (b := b) (s := s) packet
  have hdog : (s.step b (.tick packet)).dog = Dog.mk s.millis.toNat
      (s.step b (.tick packet)).sketch.lastPacketMs.toNat
      (!((s.step b (.tick packet)).sketch.signalTimedOut || !s.gamepadConnected)) := by
    simp only [dog, failsafeActive, hsession.gamepadConnected, hsession.millis]
  rw [hdog, hsession.lastPacketMs, hsession.signalTimedOut]
  -- a tick feeds the dog with a packet, polls it without one, and does neither without a
  -- gamepad
  cases hconnected : s.gamepadConnected with
  | false => simp [watchEvents, hconnected, watch, Watchdog.step, dog, failsafeActive]
  | true =>
    cases packet with
    | some c => simp [watchEvents, hconnected, watch, Watchdog.step, dog]
    | none =>
      have htest := timeout_iff s
      simp [watchEvents, hconnected, watch, Watchdog.step, dog, failsafeActive, htest,
        Bool.and_comm]

/-- **A controller connects.** When it is accepted its packet counts as new,
which feeds the watchdog. When it is not, the watchdog must not notice: the
report of the failsafe depends on the flag of the gamepad, and the flag that the
connection sets could be that one only if it had been clear, which `GamepadHeld`
excludes. -/
theorem dog_connect (h : s.GamepadHeld) (ctl : ControllerIdx) (kind : ControllerKind) :
    (s.step b (.connect ctl kind)).dog = run watch s.dog (s.watchEvents b (.connect ctl kind)) := by
  simp only [watchEvents]
  split
  · next haccept =>
    -- the new gamepad is connected and its packet is as old as the callback
    have hgamepad : (s.step b (.connect ctl kind)).sketch.gamepad = some ctl :=
      (gamepad_onConnected ..).trans (if_pos haccept)
    have hheld := gamepadHeld_step (b := b) h (.connect ctl kind) ctl hgamepad
    have hfresh : (s.step b (.connect ctl kind)).sketch.lastPacketMs = s.millis ∧
        (s.step b (.connect ctl kind)).sketch.signalTimedOut = false := by
      simp only [System.step, onConnectedController, setBtScanActive]
      rw [if_neg (not_not_intro haccept.1), if_neg (by simp [haccept.2])]
      split <;> split <;> exact ⟨rfl, rfl⟩
    simp only [dog, failsafeActive, System.gamepadConnected, hgamepad, hfresh, Option.any_some,
      hheld, run_cons, run_nil, watch, Watchdog.step]
    rfl
  · next hreject =>
    have hsketch : (s.step b (.connect ctl kind)).sketch = s.sketch := by
      simp only [System.step, onConnectedController]
      rw [not_and, Bool.not_eq_false] at hreject
      split
      · rfl
      · next hkind => rw [if_pos (hreject (not_not.mp hkind))]
    have hconnected : (s.step b (.connect ctl kind)).gamepadConnected = s.gamepadConnected := by
      simp only [System.gamepadConnected, hsketch]
      cases hg : s.sketch.gamepad with
      | none => rfl
      | some g =>
        -- the gamepad was connected already, so its flag cannot have come back
        have hheld := h g hg
        by_cases hctl : g = ctl
        · subst hctl
          simp [System.step, hheld]
        · simp [System.step, hctl]
    simp only [dog, failsafeActive, hconnected, hsketch, run_nil]
    rfl

/-- A controller is lost. The loss of the gamepad stops the watchdog, and the
loss of another one changes no flag that it looks at. -/
theorem dog_disconnect (ctl : ControllerIdx) :
    (s.step b (.disconnect ctl)).dog = run watch s.dog (s.watchEvents b (.disconnect ctl)) := by
  by_cases hgamepad : some ctl = s.sketch.gamepad
  · simp only [watchEvents, if_pos hgamepad, run_cons, run_nil, dog, System.step,
      onDisconnectedController]
    rfl
  · have hsketch : (s.step b (.disconnect ctl)).sketch = s.sketch := by
      simp only [System.step, onDisconnectedController, if_neg hgamepad]
    -- another controller left, so the gamepad is as connected as it was
    have hconnected : (s.step b (.disconnect ctl)).gamepadConnected = s.gamepadConnected := by
      simp only [System.gamepadConnected, hsketch]
      cases hg : s.sketch.gamepad with
      | none => rfl
      | some g =>
        have hctl : g ≠ ctl := fun heq => hgamepad (by rw [hg, heq])
        simp [System.step, hctl]
    simp only [watchEvents, if_neg hgamepad, dog, failsafeActive, hconnected, hsketch, run_nil]
    rfl

/-- **The signal timeout is a watchdog**: every event moves it as the watchdog
events it emits. The rule for refinements then carries this over a whole run. -/
theorem dog_step (h : s.GamepadHeld) (event : Event) :
    (s.step b event).dog = run watch s.dog (s.watchEvents b event) := by
  cases event with
  | request r plan restartPlan => exact dog_request r plan restartPlan
  | tick packet => exact dog_tick packet
  | schedulerTick => exact dog_of_session s.nvs (scheduler_session s).2
  | connect ctl kind => exact dog_connect h ctl kind
  | disconnect ctl => exact dog_disconnect ctl
  | elapse ms =>
    simp only [watchEvents, run_cons, run_nil, watch, Watchdog.step, dog, System.step,
      UInt32.toNat_add]
    rfl

/-- A restart sets the clock to zero. -/
theorem restart_mem_watchEvents {event : Event} {now : ℕ}
    (h : Watchdog.Event.restart now ∈ s.watchEvents b event) : now = 0 := by
  cases event <;> simp only [watchEvents] at h
  case request r plan restartPlan =>
    split at h
    · simpa using h
    · cases h
  case tick packet => split at h <;> simp at h
  case schedulerTick => cases h
  case connect ctl kind => split at h <;> simp at h
  case disconnect ctl => split at h <;> simp at h
  case elapse ms => simp at h

/-- **The deadline.** After any events from boot, the outputs are at their
failsafe, or the time since the last packet or accepted controller is within the
timeout but for the time since the last control tick. -/
theorem deadline (b : Board) (nvs : NvsStore) (plan : Prog.Plan nvsInterface) (millis : UInt32)
    (events : List Event) {l : List Watchdog.Event}
    (hl : l = trace (System.step b) (watchEvents b) (System.boot b nvs plan millis) events)
    (hpoll : PolledWithin (2 ^ 32 - 450) l) :
    FailsafeWritten (run (System.step b) (System.boot b nvs plan millis) events).sketch.rc.bank ∨
      silence l ≤ 450 + unpolled l := by
  have hlatched := run_invariant_of_step (I := Latched) (fun _ e h => latched_step (b := b) h e)
    (latched_boot b nvs plan millis) events
  have hdog : (run (System.step b) (System.boot b nvs plan millis) events).dog =
      run watch (System.boot b nvs plan millis).dog
        (trace (System.step b) (watchEvents b) (System.boot b nvs plan millis) events) :=
    run_refines_of dog (fun _ e h => gamepadHeld_step h e) (fun _ e h => dog_step h e)
      (gamepadHeld_boot b nvs plan millis) events
  rw [← hl] at hdog
  cases hactive : (run (System.step b) (System.boot b nvs plan millis) events).failsafeActive with
  | true => exact .inl (hlatched.written hactive)
  | false =>
    -- the watchdog is still armed, so it has been fed in time
    refine .inr (silence_le (UInt32.toNat_lt _) (UInt32.toNat_lt _) ?_ l (fun now hmem => ?_) hpoll
      ?_ (d := (System.boot b nvs plan millis).dog))
    · change (!(System.boot b nvs plan millis).failsafeActive) = false
      rw [failsafeActive_boot]
      rfl
    · rw [hl] at hmem
      obtain ⟨t, e, hemit⟩ := exists_of_mem_trace hmem
      rw [restart_mem_watchEvents hemit]
      exact Nat.two_pow_pos 32
    · rw [← hdog]
      change (!(run (System.step b) (System.boot b nvs plan millis) events).failsafeActive) = true
      rw [hactive]
      rfl

/-! ### Short runs -/

/-- The time that an event takes. -/
def duration : Event → ℕ
  | .elapse ms => ms.toNat
  | .request _ _ _ | .tick _ | .schedulerTick | .connect _ _ | .disconnect _ => 0

/-- Only the passing of time takes time. -/
theorem elapsed_watchEvents (event : Event) :
    elapsed (s.watchEvents b event) = duration event := by
  cases event <;> simp only [watchEvents, duration]
  case elapse ms => simp [elapsed]
  case schedulerTick => rfl
  all_goals split <;> rfl

/-- The watchdog counts the time that the events take. -/
theorem elapsed_trace (s : System) (events : List Event) :
    elapsed (trace (System.step b) (watchEvents b) s events) = (events.map duration).sum := by
  induction events generalizing s with
  | nil => rfl
  | cons e es ih =>
    rw [trace_cons, elapsed_append, ih, elapsed_watchEvents, List.map_cons, List.sum_cons]

end System

namespace Runtime

/-- What the watchdog sees of a run of the firmware: the events that the run
emits, and what each of these is to the watchdog. -/
def watched (b : Board) (start : Runtime) (es : List RuntimeEvent) : List Watchdog.Event :=
  trace (System.step b) (System.watchEvents b) start.system (trace (step b) systemEvents start es)

/-- **The failsafe deadline.** However the Bluetooth side, the clock and
`loop()` interleave: if every control tick comes less than a turn of the clock,
less the timeout, after the one before, then at any time the outputs are at
their failsafe, or the last packet or accepted controller is at most 450 ms
older than the last control tick. -/
theorem failsafe_deadline (b : Board) (nvs : NvsStore) (plan : Prog.Plan nvsInterface)
    (millis : UInt32) (es : List RuntimeEvent)
    (hpoll : PolledWithin (2 ^ 32 - 450) (watched b (boot b nvs plan millis) es)) :
    FailsafeWritten (run (step b) (boot b nvs plan millis) es).sketch.rc.bank ∨
      silence (watched b (boot b nvs plan millis) es) ≤
        450 + unpolled (watched b (boot b nvs plan millis) es) := by
  have hrefines := run_refines system (system_step b) (boot b nvs plan millis) es
  -- the outputs are those of the system
  have hbank : (run (step b) (boot b nvs plan millis) es).sketch.rc.bank =
      (run (System.step b) (System.boot b nvs plan millis)
        (trace (step b) systemEvents (boot b nvs plan millis) es)).sketch.rc.bank :=
    congrArg (fun t : System => t.sketch.rc.bank) hrefines
  rw [hbank]
  exact System.deadline b nvs plan millis _ rfl hpoll

/-- The time that an event takes. -/
def duration : RuntimeEvent → ℕ
  | .elapse ms => ms.toNat
  | .bt _ | .cpu _ => 0

/-- What a step emits takes the time that the step takes. -/
theorem duration_systemEvents (s : Runtime) (e : RuntimeEvent) :
    ((s.systemEvents e).map System.duration).sum = duration e := by
  cases e with
  | bt e => rfl
  | elapse ms => simp [systemEvents, System.duration, duration]
  -- the loop takes no time of its own, whatever it emits
  | cpu incoming =>
    simp only [systemEvents, duration]
    split
    · rfl
    · rfl
    · rfl
    · split
      · rfl
      · split <;> rfl
    · rfl
    · cases incoming <;> rfl
    · rfl

/-- A run shorter than a turn of the clock, less the timeout, has its control
ticks in time. -/
theorem polledWithin_of_duration {es : List RuntimeEvent}
    (h : (es.map duration).sum < 2 ^ 32 - 450) (b : Board) (start : Runtime) :
    PolledWithin (2 ^ 32 - 450) (watched b start es) := by
  refine polledWithin_of_elapsed ?_
  have hevents : ∀ s : Runtime, ((trace (step b) systemEvents s es).map System.duration).sum =
      (es.map duration).sum := by
    clear h
    induction es with
    | nil => exact fun _ => rfl
    | cons e es ih =>
      intro s
      rw [trace_cons, List.map_append, List.sum_append, ih, duration_systemEvents, List.map_cons,
        List.sum_cons]
  rw [watched, System.elapsed_trace, hevents]
  exact h

/-- A gamepad arrives, is found by one pass, and then is silent for 500 ms. -/
theorem failsafe_deadline_silent :
    let es := arrives 0 1 ++ loopSteps 13 ++ [.elapse 500] ++ loopSteps 9
    FailsafeWritten
        (run (step smallBoard) (boot smallBoard {} (fun _ _ => false) 0) es).sketch.rc.bank ∨
      silence (watched smallBoard (boot smallBoard {} (fun _ _ => false) 0) es) ≤
        450 + unpolled (watched smallBoard (boot smallBoard {} (fun _ _ => false) 0) es) :=
  failsafe_deadline smallBoard {} (fun _ _ => false) 0 _
    (polledWithin_of_duration (by decide) smallBoard _)

end Runtime

end RcController
