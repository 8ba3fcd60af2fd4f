import RcController.Lib.Runs
import RcController.Lib.WrapClock
import RcController.Device.Handlers

/-!
# The scan scheduler and the clock

`updateBtScanScheduler` keeps its deadlines as readings of `millis()` and compares them
with `<`. A deadline that lies behind a wrap of the counter looks as if it had passed
long ago, and a deadline that passed before a wrap looks as if it were far away; the value
0, which a deadline may happen to have, stands for a toggle that is due at once.

What a run of the scheduler depends on is seen on a copy that keeps its deadlines in real
time (`Scan`) and only looks at the clock to compare them. The firmware with boot offset `c`
follows this copy exactly (`Follows.step`), at any offset. So two runs of the same events
that differ in the offset part at the first comparison that comes out differently, and this
is where one clock wraps between the deadline and the tick and the other one does not
(`scanTrace_eq_iff`).
-/

namespace RcController

open DeviceProg Runs WrapClock

/-! ### Events in real time -/

/-- What the scheduler sees. A tick finds the gamepad connected or not; a
controller that connects finds which others are connected. -/
inductive ScanEvent where
  | tick (connected : Bool)
  | pairingOn
  | pairingOff
  | connect (connected : ControllerIdx → Bool) (ctl : ControllerIdx) (kind : ControllerKind)
  | disconnect (ctl : ControllerIdx)

/-- `millis()` at time `t` after a boot with offset `c`. -/
def millisAt (c t : ℕ) : UInt32 := UInt32.ofNat (t + c)

/-- What an event does to the globals when `millis()` is `now`. These are the
handlers of the source, at a reading of the clock. -/
def ScanEvent.handle (now : UInt32) (s : Sketch) : ScanEvent → Sketch
  | .tick connected => updateBtScanScheduler now connected s
  | .pairingOn => (handleApiPairingOn now s).1
  | .pairingOff => (handleApiPairingOff s).1
  | .connect connected ctl kind => onConnectedController now connected ctl kind s
  | .disconnect ctl => onDisconnectedController ctl s

/-- An event some time after the one before it: what `g_pairingScanEnabled` and
`g_btScanActive` are then, and the globals with the time. -/
def scanExec (c : ℕ) (s : Sketch × ℕ) (e : ℕ × ScanEvent) : (Bool × Bool) × Sketch × ℕ :=
  let s' := e.2.handle (millisAt c (s.2 + e.1)) s.1
  ((s'.pairingScanEnabled, s'.btScanActive), s', s.2 + e.1)

/-- The globals after `setup()` at time 0. -/
def bootSketch (b : Board) (nvs : NvsStore) (plan : Prog.Plan nvsInterface) (c : ℕ) : Sketch :=
  ((setup b (millisAt c 0)).run nvsDevice plan nvs).1

/-- The two globals after each event of a run from boot. This is what one can
see of the scan from outside. -/
def scanTrace (b : Board) (nvs : NvsStore) (plan : Prog.Plan nvsInterface) (c : ℕ)
    (es : List (ℕ × ScanEvent)) : List (Bool × Bool) :=
  answers (scanExec c) (bootSketch b nvs plan c, 0) es

/-! ### The clock -/

/-- The range of `millis()`. -/
abbrev kMillisRange : ℕ := 2 ^ 32

/-- A comparison of two readings as numbers. -/
theorem millisAt_lt_iff {c d t : ℕ} : millisAt c t < millisAt c d ↔
    reading kMillisRange c t < reading kMillisRange c d := by
  unfold millisAt reading
  rw [UInt32.lt_iff_toNat_lt, UInt32.toNat_ofNat', UInt32.toNat_ofNat']

/-- Adding to a reading is reading later. -/
theorem millisAt_add (c t : ℕ) (ms : UInt32) : millisAt c t + ms = millisAt c (t + ms.toNat) := by
  unfold millisAt
  have hms : UInt32.ofNat (t + c) + ms = UInt32.ofNat (t + c) + UInt32.ofNat ms.toNat := by
    rw [UInt32.ofNat_toNat]
  rw [hms, ← UInt32.ofNat_add, Nat.add_right_comm]

/-! ### The scheduler with deadlines in real time -/

/-- The state of the scheduler, deadlines in real time. `pairing` is the end of
the pairing window while it is open; `toggleAt` is `none` when a toggle is due
at once. -/
structure Scan where
  gamepad : Option ControllerIdx := none
  pairing : Option ℕ := none
  active : Bool := false
  toggleAt : Option ℕ := none

namespace Scan

/-- The test for the end of the pairing window. -/
def windowOver (c t : ℕ) (a : Scan) : Bool :=
  match a.pairing with
  | some u => millisAt c u < millisAt c t
  | none => false

/-- The first thing a tick does: a pairing window that is over is closed. -/
def expire (c t : ℕ) (a : Scan) : Scan :=
  if a.windowOver c t then { a with pairing := none, toggleAt := none } else a

/-- The test for a toggle that is not due yet. -/
def waits (c t : ℕ) (a : Scan) : Bool :=
  match a.toggleAt with
  | some d => millisAt c t < millisAt c d
  | none => false

/-- How long the phase lasts that a toggle begins. -/
def pulseMs (a : Scan) : UInt32 :=
  if a.active then if a.pairing.isSome then kBtPairingScanOffMs else kBtAutoScanOffMs
  else if a.pairing.isSome then kBtPairingScanOnMs else kBtAutoScanOnMs

/-- A tick, with deadlines in real time. The tests are still those of the
firmware, on readings of the clock with offset `c`. -/
def tick (c t : ℕ) (connected : Bool) (a : Scan) : Scan :=
  let a := a.expire c t
  if connected then { a with active := false, toggleAt := some (t + 2000) }
  else if a.waits c t then a
  else { a with active := !a.active, toggleAt := some (t + a.pulseMs.toNat) }

/-- The other events set deadlines or forget them, and look at no clock. -/
def handle (c t : ℕ) (a : Scan) : ScanEvent → Scan
  | .tick connected => a.tick c t connected
  | .pairingOn => { a with pairing := some (t + kPairingWindowMs.toNat), toggleAt := none }
  | .pairingOff => { a with pairing := none, toggleAt := none }
  | .connect connected ctl kind =>
    if kind ≠ .gamepad then a
    else if a.gamepad.any connected then a
    else { gamepad := some ctl }
  | .disconnect ctl =>
    if some ctl = a.gamepad then { a with gamepad := none, toggleAt := none } else a

/-- An event some time after the one before it. -/
def step (c : ℕ) (s : Scan × ℕ) (e : ℕ × ScanEvent) : Scan × ℕ :=
  (s.1.handle c (s.2 + e.1) e.2, s.2 + e.1)

/-- The scheduler after boot. -/
def boot : Scan where
  toggleAt := some 5000

end Scan

/-- The firmware with boot offset `c` keeps the deadlines of the scheduler as
readings of its clock. A deadline that is forgotten is kept as zero. -/
structure Scan.KeptAs (c : ℕ) (a : Scan) (s : Sketch) : Prop where
  gamepad : s.gamepad = a.gamepad
  enabled : s.pairingScanEnabled = a.pairing.isSome
  window : ∀ u, a.pairing = some u → s.pairingScanUntilMs = millisAt c u
  active : s.btScanActive = a.active
  due : a.toggleAt = none → s.btScanToggleAtMs = 0
  toggle : ∀ d, a.toggleAt = some d → s.btScanToggleAtMs = millisAt c d

section KeptAs

variable {c t : ℕ} {a : Scan} {s : Sketch}

/-- Setting the scan to what it is already changes nothing, so the test in the
source does not matter. -/
@[simp] theorem setBtScanActive_eq (enabled : Bool) (s : Sketch) :
    setBtScanActive enabled s = { s with btScanActive := enabled } := by
  unfold setBtScanActive
  split
  · next h => rw [← h]
  · rfl

/-- Both test the end of the window in the same way. -/
theorem Scan.KeptAs.windowOver (h : a.KeptAs c s) :
    (s.pairingScanEnabled && s.pairingScanUntilMs < millisAt c t) = a.windowOver c t := by
  unfold Scan.windowOver
  rw [h.enabled]
  cases hpairing : a.pairing with
  | none => rfl
  | some u => rw [h.window u hpairing, Option.isSome_some, Bool.true_and]

/-- The test of the firmware for the value 0 changes nothing: no reading is
below 0. -/
theorem Scan.KeptAs.waits (h : a.KeptAs c s) :
    (s.btScanToggleAtMs ≠ 0 && millisAt c t < s.btScanToggleAtMs) = a.waits c t := by
  unfold Scan.waits
  cases hdue : a.toggleAt with
  | none => simp [h.due hdue]
  | some d =>
    rw [h.toggle d hdue]
    by_cases hzero : millisAt c d = 0
    · simp [hzero, UInt32.lt_iff_toNat_lt]
    · simp [hzero]

/-- Both close the window in the same way. -/
theorem Scan.KeptAs.expire (h : a.KeptAs c s) : (a.expire c t).KeptAs c
    (if s.pairingScanEnabled && s.pairingScanUntilMs < millisAt c t then
      { s with pairingScanEnabled := false, btScanToggleAtMs := 0 } else s) := by
  rw [h.windowOver]
  unfold Scan.expire
  split
  · exact ⟨h.gamepad, rfl, fun _ hu => (by cases hu), h.active, fun _ => rfl,
      fun _ hd => (by cases hd)⟩
  · exact h

/-- What a phase set by the firmware is called in real time. -/
theorem Scan.KeptAs.pulseMs (h : a.KeptAs c s) : a.pulseMs =
    if s.btScanActive then if s.pairingScanEnabled then kBtPairingScanOffMs else kBtAutoScanOffMs
    else if s.pairingScanEnabled then kBtPairingScanOnMs else kBtAutoScanOnMs := by
  unfold Scan.pulseMs
  rw [h.active, h.enabled]

/-- **A tick** of the firmware is a tick of the scheduler in real time: both
close a window that is over, and then either turn the scan off, or wait, or
begin the opposite phase with the deadline of its length. -/
theorem Scan.KeptAs.tick (h : a.KeptAs c s) (connected : Bool) :
    (a.tick c t connected).KeptAs c (updateBtScanScheduler (millisAt c t) connected s) := by
  have hexpired := h.expire (t := t)
  unfold updateBtScanScheduler Scan.tick
  dsimp only
  generalize (if s.pairingScanEnabled && s.pairingScanUntilMs < millisAt c t then
    { s with pairingScanEnabled := false, btScanToggleAtMs := 0 } else s) = s' at hexpired ⊢
  cases connected with
  | true =>
    rw [if_pos rfl, if_pos rfl, setBtScanActive_eq]
    refine ⟨hexpired.gamepad, hexpired.enabled, hexpired.window, rfl, fun hd => (by cases hd), ?_⟩
    rintro d hd
    obtain rfl : t + 2000 = d := Option.some.inj hd
    exact millisAt_add c t 2000
  | false =>
    rw [if_neg Bool.false_ne_true, if_neg Bool.false_ne_true, hexpired.waits]
    split
    · exact hexpired
    · have hactive := hexpired.active
      have hpulse := hexpired.pulseMs
      -- the phase that begins is the opposite of the one that ends
      cases hphase : s'.btScanActive with
      | true =>
        rw [if_pos rfl, setBtScanActive_eq]
        rw [hphase] at hactive hpulse
        refine ⟨hexpired.gamepad, hexpired.enabled, hexpired.window, by simp [← hactive],
          fun hd => (by cases hd), ?_⟩
        rintro d hd
        obtain rfl := Option.some.inj hd
        rw [hpulse, if_pos rfl]
        exact millisAt_add c t _
      | false =>
        rw [if_neg Bool.false_ne_true, setBtScanActive_eq]
        rw [hphase] at hactive hpulse
        refine ⟨hexpired.gamepad, hexpired.enabled, hexpired.window, by simp [← hactive],
          fun hd => (by cases hd), ?_⟩
        rintro d hd
        obtain rfl := Option.some.inj hd
        rw [hpulse, if_neg Bool.false_ne_true]
        exact millisAt_add c t _

/-- **The firmware follows the scheduler in real time**, at any offset. -/
theorem Scan.KeptAs.step (h : a.KeptAs c s) (e : ScanEvent) :
    (a.handle c t e).KeptAs c (e.handle (millisAt c t) s) := by
  cases e with
  | tick connected => exact h.tick connected
  | pairingOn =>
    refine ⟨h.gamepad, rfl, fun u hu => ?_, h.active, fun _ => rfl, fun _ hd => (by cases hd)⟩
    obtain rfl := Option.some.inj hu
    exact millisAt_add c t kPairingWindowMs
  | pairingOff =>
    exact ⟨h.gamepad, rfl, fun _ hu => (by cases hu), h.active, fun _ => rfl,
      fun _ hd => (by cases hd)⟩
  | connect connected ctl kind =>
    change (if kind ≠ .gamepad then a else if a.gamepad.any connected then a
      else { gamepad := some ctl }).KeptAs c
        (onConnectedController (millisAt c t) connected ctl kind s)
    unfold onConnectedController
    rw [h.gamepad]
    split
    · exact h
    · split
      · exact h
      · dsimp only
        rw [setBtScanActive_eq]
        -- closing the window of a pairing that is off changes nothing
        cases hpairing : s.pairingScanEnabled <;>
          exact ⟨rfl, by simp, fun _ hu => (by cases hu), rfl, fun _ => rfl,
            fun _ hd => (by cases hd)⟩
  | disconnect ctl =>
    change (if some ctl = a.gamepad then { a with gamepad := none, toggleAt := none } else a).KeptAs
      c (onDisconnectedController ctl s)
    unfold onDisconnectedController
    rw [h.gamepad]
    split
    · exact ⟨rfl, h.enabled, h.window, h.active, fun _ => rfl, fun _ hd => (by cases hd)⟩
    · exact h

end KeptAs

/-! ### Two clocks -/

/-- **The clocks wrap alike**: between the deadline a tick looks at and the tick
itself the two clocks wrap equally often. A tick looks at the end of the pairing
window while that is open, and, when no gamepad is connected, at the next
toggle. -/
def SameWraps (c c' : ℕ) (s : Scan × ℕ) (e : ℕ × ScanEvent) : Prop :=
  match e.2 with
  | .tick connected =>
    (∀ u, s.1.pairing = some u →
      wraps kMillisRange c u (s.2 + e.1) = wraps kMillisRange c' u (s.2 + e.1)) ∧
    (connected = false → ∀ d, (s.1.expire c (s.2 + e.1)).toggleAt = some d →
      wraps kMillisRange c d (s.2 + e.1) = wraps kMillisRange c' d (s.2 + e.1))
  | _ => True

section TwoClocks

variable {c c' t : ℕ} {a : Scan}

/-- Two clocks agree on whether a toggle is due when they wrap equally often
between its deadline and the tick. -/
theorem Scan.waits_eq_iff : a.waits c t = a.waits c' t ↔
    ∀ d, a.toggleAt = some d → wraps kMillisRange c d t = wraps kMillisRange c' d t := by
  unfold Scan.waits
  cases a.toggleAt with
  | none => simp
  | some d =>
    simp only [Option.some.injEq, forall_eq', decide_eq_decide, millisAt_lt_iff]
    exact same_order_iff (by norm_num)

/-- They agree on the end of the window under the same condition on its
deadline. -/
theorem Scan.windowOver_eq_iff : a.windowOver c t = a.windowOver c' t ↔
    ∀ u, a.pairing = some u → wraps kMillisRange c u t = wraps kMillisRange c' u t := by
  unfold Scan.windowOver
  cases a.pairing with
  | none => simp
  | some u =>
    simp only [Option.some.injEq, forall_eq', decide_eq_decide, millisAt_lt_iff]
    rw [same_order_iff (by norm_num), wraps_swap kMillisRange c t u, wraps_swap kMillisRange c' t u,
      neg_inj]

/-- Where the tests come out alike, the scheduler goes on alike. -/
theorem Scan.step_congr {s : Scan × ℕ} {e : ℕ × ScanEvent} (h : SameWraps c c' s e) :
    Scan.step c' s e = Scan.step c s e := by
  obtain ⟨gap, e⟩ := e
  cases e with
  | tick connected =>
    obtain ⟨hwindow, htoggle⟩ := h
    -- the first test decides on the window, and the second one on the toggle
    have hexpire : s.1.expire c' (s.2 + gap) = s.1.expire c (s.2 + gap) := by
      unfold Scan.expire
      rw [Scan.windowOver_eq_iff.mpr hwindow]
    have htick : s.1.tick c' (s.2 + gap) connected = s.1.tick c (s.2 + gap) connected := by
      unfold Scan.tick
      rw [hexpire]
      cases connected with
      | true => rfl
      | false =>
        have hwaits : (s.1.expire c (s.2 + gap)).waits c' (s.2 + gap)
            = (s.1.expire c (s.2 + gap)).waits c (s.2 + gap) :=
          (Scan.waits_eq_iff.mpr (htoggle rfl)).symm
        dsimp only
        rw [hwaits]
    exact congrArg (·, s.2 + gap) htick
  -- no other event looks at the clock
  | pairingOn => rfl
  | pairingOff => rfl
  | connect connected ctl kind => rfl
  | disconnect ctl => rfl

/-- **Where a test comes out differently, it shows**: in the pairing mode, or
else in the scan. The first test decides whether the window is open after the
tick, and when it comes out alike the second decides whether the scan toggles.
So two traces that agree have clocks that wrap alike at every tick. -/
theorem Scan.sameWraps_of_observed {s : Scan × ℕ} {e : ℕ × ScanEvent}
    (hpairing : (Scan.step c s e).1.pairing.isSome = (Scan.step c' s e).1.pairing.isSome)
    (hactive : (Scan.step c s e).1.active = (Scan.step c' s e).1.active) : SameWraps c c' s e := by
  obtain ⟨gap, e⟩ := e
  cases e with
  | tick connected =>
    -- a tick leaves the window as its first test left it
    have hkeeps : ∀ c, (s.1.tick c (s.2 + gap) connected).pairing
        = (s.1.expire c (s.2 + gap)).pairing := by
      intro c
      unfold Scan.tick
      dsimp only
      split
      · rfl
      · split <;> rfl
    have hopen : ∀ c, (s.1.expire c (s.2 + gap)).pairing.isSome
        = (s.1.pairing.isSome && !s.1.windowOver c (s.2 + gap)) := by
      intro c
      unfold Scan.expire
      cases hover : s.1.windowOver c (s.2 + gap) with
      | true => simp
      | false => simp
    have hwindow : s.1.windowOver c (s.2 + gap) = s.1.windowOver c' (s.2 + gap) := by
      change (s.1.tick c (s.2 + gap) connected).pairing.isSome
        = (s.1.tick c' (s.2 + gap) connected).pairing.isSome at hpairing
      rw [hkeeps, hkeeps, hopen, hopen] at hpairing
      cases hsome : s.1.pairing with
      | none => simp [Scan.windowOver, hsome]
      | some u => simpa [hsome] using hpairing
    refine ⟨Scan.windowOver_eq_iff.mp hwindow, fun hnot => ?_⟩
    subst hnot
    have hexpire : s.1.expire c' (s.2 + gap) = s.1.expire c (s.2 + gap) := by
      unfold Scan.expire
      rw [hwindow]
    -- one of two schedulers that differ in the second test toggles, and the other does not
    rw [← Scan.waits_eq_iff]
    have htoggle : ∀ c, (s.1.tick c (s.2 + gap) false).active
        = ((s.1.expire c (s.2 + gap)).active ^^ !(s.1.expire c (s.2 + gap)).waits c
          (s.2 + gap)) := by
      intro c
      unfold Scan.tick
      rw [if_neg Bool.false_ne_true]
      split
      · next hwaits => simp [hwaits]
      · next hwaits => simp [hwaits]
    change (s.1.tick c (s.2 + gap) false).active = (s.1.tick c' (s.2 + gap) false).active at hactive
    rw [htoggle, htoggle, hexpire] at hactive
    simpa using hactive
  | pairingOn => trivial
  | pairingOff => trivial
  | connect connected ctl kind => trivial
  | disconnect ctl => trivial

/-- The events of a run, from globals that keep one scheduler at two offsets.
The induction is over the events: as long as the clocks wrap alike, both keep
the same scheduler, and at the first tick where they do not the traces part. -/
theorem answers_eq_iff {s s' : Sketch} (h : a.KeptAs c s) (h' : a.KeptAs c' s')
    (es : List (ℕ × ScanEvent)) :
    answers (scanExec c) (s, t) es = answers (scanExec c') (s', t) es ↔
      StepsMeet (Scan.step c) (SameWraps c c') (a, t) es := by
  induction es generalizing a s s' t with
  | nil => exact ⟨fun _ => trivial, fun _ => rfl⟩
  | cons e es ih =>
    have hnext : (Scan.step c (a, t) e).1.KeptAs c (scanExec c (s, t) e).2.1 := h.step e.2
    have hnext' : (Scan.step c' (a, t) e).1.KeptAs c' (scanExec c' (s', t) e).2.1 := h'.step e.2
    rw [answers, answers, List.cons.injEq]
    constructor
    · -- what is observed after this event decides its tests
      rintro ⟨hobs, hrest⟩
      obtain ⟨hpairing, hactive⟩ := Prod.mk.inj hobs
      have hwraps : SameWraps c c' (a, t) e := by
        refine Scan.sameWraps_of_observed ?_ ?_
        · rw [← hnext.enabled, ← hnext'.enabled]
          exact hpairing
        · rw [← hnext.active, ← hnext'.active]
          exact hactive
      rw [Scan.step_congr hwraps] at hnext'
      exact ⟨hwraps, (ih hnext hnext').mp hrest⟩
    · -- with equal wraps both keep the same scheduler, and show the same
      rintro ⟨hwraps, hrest⟩
      rw [Scan.step_congr hwraps] at hnext'
      refine ⟨Prod.ext ?_ ?_, (ih hnext hnext').mpr hrest⟩
      · exact hnext.enabled.trans hnext'.enabled.symm
      · exact hnext.active.trans hnext'.active.symm

end TwoClocks

/-! ### From boot -/

theorem Scan.KeptAs.loadBootPreset {c : ℕ} {a : Scan} {s : Sketch} (h : a.KeptAs c s) :
    (loadBootPreset s).Always fun x => a.KeptAs c x.1 := by
  refine Prog.always_bind_of_forall _ fun boot => ?_
  refine Prog.always_bind_of_forall _ fun loaded => ?_
  cases loaded with
  | ok cfg => exact ⟨h.gamepad, h.enabled, h.window, h.active, h.due, h.toggle⟩
  | error e =>
    refine Prog.always_bind_of_forall _ fun loaded => ?_
    cases loaded <;> exact ⟨h.gamepad, h.enabled, h.window, h.active, h.due, h.toggle⟩

theorem keptAs_setup (b : Board) (c : ℕ) :
    (setup b (millisAt c 0)).Always fun s => Scan.boot.KeptAs c s := by
  refine Prog.always_bind_of_forall _ fun ssid => ?_
  refine Prog.always_bind_of_forall _ fun pass => ?_
  have hboot : Scan.boot.KeptAs c
      { apSsid := ssid, apPassword := pass, btScanToggleAtMs := millisAt c 0 + 5000 } := by
    refine ⟨rfl, rfl, fun _ hu => (by cases hu), rfl, fun hd => (by cases hd), ?_⟩
    rintro d hd
    obtain rfl : 5000 = d := Option.some.inj hd
    exact millisAt_add c 0 5000
  refine hboot.loadBootPreset.bind fun x hx => ?_
  refine applyToSketch_bind ?_
  exact ⟨hx.gamepad, hx.enabled, hx.window, hx.active, hx.due, hx.toggle⟩

/-- **The scan does not depend on the clock** as long as the two clocks wrap
alike, and no longer. -/
theorem scanTrace_eq_iff (b : Board) (nvs : NvsStore) (plan : Prog.Plan nvsInterface) (c c' : ℕ)
    (es : List (ℕ × ScanEvent)) :
    scanTrace b nvs plan c es = scanTrace b nvs plan c' es ↔
      StepsMeet (Scan.step c) (SameWraps c c') (Scan.boot, 0) es :=
  answers_eq_iff ((keptAs_setup b c).run nvsDevice plan nvs)
    ((keptAs_setup b c').run nvsDevice plan nvs) es

/-- One millisecond after boot the scan is still off. When the clock is about to
wrap at boot it is already on, because the first toggle lies behind the wrap. -/
theorem scan_starts_at_wrap :
    scanTrace smallBoard {} (fun _ _ => false) 0 [(1, .tick false)] = [(false, false)] ∧
      scanTrace smallBoard {} (fun _ _ => false) (2 ^ 32 - 1000) [(1, .tick false)]
        = [(false, true)] := by
  constructor <;> decide +kernel

end RcController
