import RcController.Lib.FirstFit
import RcController.Model.Codec

/-!
# What setup does to a slot

A channel is spread over three tables: its record, the attached flag and the servo.
`OutputBank.slot` puts them together, and the wiring proofs speak of slots only. Every
operation of `rc_model.cpp` replaces one slot, computed from that slot and, for
`setupOutputHardware` alone, from the pins the other records claim.

The claims of the records are a table of the first-fit library (`claims`), with the
PWM channels as the movable ones. `setupOutputHardware` is read in two ways:

* `setup_cases`, for any board: the cases its callers have to handle, also when an
  attach fails for no reason the firmware can see;
* `setup_of_settle` and `setup_of_stuck`, for a reliable board: the channel gets the
  pin its claim settles on, or the setup fails.
-/

namespace RcController

open FirstFit

/-! ### Claims -/

/-- The pins of the board as resources: a servo can have those with PWM, and the
scan tries them in order. -/
def Board.pool (b : Board) : Pool Pin := ⟨b.hasPwm, OutputBank.scanPins⟩

/-- A record in use claims its pin. A servo may be moved and a switch may
not. -/
def OutputChannelConfig.claim (c : OutputChannelConfig) : Option (Claim Pin) :=
  if c.used then some ⟨decide (c.type = .pwm), c.pin⟩ else none

/-- The claims of a table. -/
def claims (outputs : OutputIdx → OutputChannelConfig) : Claims OutputIdx Pin :=
  fun i => (outputs i).claim

/-- What is in use claims its pin, and what is not claims nothing. -/
theorem OutputChannelConfig.claim_of_used {c : OutputChannelConfig} (h : c.used = true) :
    c.claim = some ⟨decide (c.type = .pwm), c.pin⟩ := if_pos h

theorem OutputChannelConfig.claim_of_unused {c : OutputChannelConfig} (h : c.used = false) :
    c.claim = none := by simp [claim, h]

/-- So a claim tells that the record is in use, and on which pin. -/
theorem OutputChannelConfig.claim_eq_some {c : OutputChannelConfig} {k : Claim Pin} :
    c.claim = some k ↔ c.used = true ∧ k = ⟨decide (c.type = .pwm), c.pin⟩ := by
  cases h : c.used with
  | true => simp [claim, h, eq_comm]
  | false => simp [claim, h]

/-- Writing a record changes one claim. -/
theorem claims_update (outputs : OutputIdx → OutputChannelConfig) (i : OutputIdx)
    (c : OutputChannelConfig) :
    claims (Function.update outputs i c) = Function.update (claims outputs) i c.claim := by
  funext j
  by_cases hji : j = i
  · subst hji
    simp [claims]
  · simp [claims, hji]

/-- No two channels in use share a pin, and every servo channel in use is on a
pin with PWM. -/
structure WiringOk (b : Board) (outputs : OutputIdx → OutputChannelConfig) : Prop where
  distinct : ∀ i j, (outputs i).used = true → (outputs j).used = true →
    (outputs i).pin = (outputs j).pin → i = j
  capable : ∀ i, (outputs i).UsedPwm → b.hasPwm (outputs i).pin = true

/-- A wired table is one whose claims are settled. -/
theorem wiringOk_iff {b : Board} {outputs : OutputIdx → OutputChannelConfig} :
    WiringOk b outputs ↔ Settled b.pool (claims outputs) := by
  -- a claim is the pin of an output in use
  constructor
  · intro h
    constructor
    · intro i j k l hi hj hres
      obtain ⟨hui, rfl⟩ := OutputChannelConfig.claim_eq_some.mp hi
      obtain ⟨huj, rfl⟩ := OutputChannelConfig.claim_eq_some.mp hj
      exact h.distinct i j hui huj hres
    · intro i k hi hm
      obtain ⟨hui, rfl⟩ := OutputChannelConfig.claim_eq_some.mp hi
      exact h.capable i ⟨hui, of_decide_eq_true hm⟩
  · intro h
    constructor
    · intro i j hui huj hpin
      exact h.distinct (OutputChannelConfig.claim_of_used hui)
        (OutputChannelConfig.claim_of_used huj) hpin
    · intro i hi
      exact h.capable (OutputChannelConfig.claim_of_used hi.1) (by simp [hi.2])

namespace OutputBank

/-- The conflict scan looks for a claim of another slot. -/
theorem outputPinAlreadyUsed_eq (pin : Pin) (i : OutputIdx) (s : OutputBank) :
    outputPinAlreadyUsed pin i s = decide (Taken (claims s.outputs) i pin) := by
  unfold outputPinAlreadyUsed
  apply decide_eq_decide.mpr
  constructor
  · rintro ⟨j, hne, hused, hpin⟩
    exact ⟨j, _, hne, OutputChannelConfig.claim_of_used hused, hpin⟩
  · rintro ⟨j, k, hne, hj, hpin⟩
    obtain ⟨hused, rfl⟩ := OutputChannelConfig.claim_eq_some.mp hj
    exact ⟨j, hne, hused, hpin⟩

/-- The search for a free pin is the scan of the library. -/
theorem firstAvailablePwmPin_eq (b : Board) (i : OutputIdx) (s : OutputBank) :
    firstAvailablePwmPin b i s = scanPins.find? (b.pool.avail (claims s.outputs) i) := by
  unfold firstAvailablePwmPin
  congr 1
  funext pin
  rw [outputPinAlreadyUsed_eq]
  rfl

end OutputBank

/-! ### Slots -/

/-- What the three tables hold for one channel. -/
structure Slot where
  record : OutputChannelConfig
  flag : Bool
  servo : Servo

namespace Slot

/-- The failsafe pulse of its record. -/
def failsafeUs (x : Slot) : ℤ := pwmFailsafeUs x.record.pwmFailsafeMode

/-- The servo attached to a pin, before anything was written to it. -/
def attach (pin : Pin) (x : Slot) : Slot := ⟨{ x.record with pin := pin }, true, ⟨some pin, none⟩⟩

/-- Attached to a pin and at its failsafe pulse, as a setup leaves it. -/
def onPin (pin : Pin) (x : Slot) : Slot :=
  ⟨{ x.record with pin := pin }, true, ⟨some pin, some x.failsafeUs⟩⟩

/-- Set up on the pin its claim settles on; a switch has no servo. -/
def settled (pin : Pin) (x : Slot) : Slot := if x.record.type = .pwm then x.onPin pin else x

/-- Detached if the flag is set. -/
def release (x : Slot) : Slot := if x.flag then { x with flag := false, servo := {} } else x

/-- The same for a channel in use, which is what the release loop does. -/
def released (x : Slot) : Slot := if x.record.used then x.release else x

/-- Pulses get through to the servo: the record is a used servo channel, it has
its flag, and the servo is attached. -/
def Driven (x : Slot) : Prop :=
  x.record.UsedPwm ∧ x.flag = true ∧ x.servo.pin.isSome = true

instance (x : Slot) : Decidable x.Driven := inferInstanceAs (Decidable (_ ∧ _ ∧ _))

/-- The failsafe pulse written, if it gets through. -/
def writeFailsafe (x : Slot) : Slot :=
  if x.Driven then { x with servo := ⟨x.servo.pin, some x.failsafeUs⟩ } else x

/-- It does when the servo is driven, and otherwise nothing happens. -/
theorem writeFailsafe_of_driven {x : Slot} (h : x.Driven) :
    x.writeFailsafe = { x with servo := ⟨x.servo.pin, some x.failsafeUs⟩ } := if_pos h

theorem writeFailsafe_of_not_driven {x : Slot} (h : ¬ x.Driven) : x.writeFailsafe = x := if_neg h

end Slot

namespace OutputBank

def slot (s : OutputBank) (i : OutputIdx) : Slot := ⟨s.outputs i, s.pwmAttached i, s.pwmOutputs i⟩

/-- Banks with the same slots have the same records. So what is said of slots is
said of the table. -/
theorem outputs_eq_of_slot {s s' : OutputBank} {i : OutputIdx} {x : Slot}
    (h : s'.slot = Function.update s.slot i x) :
    s'.outputs = Function.update s.outputs i x.record := by
  funext j
  have hj : s'.outputs j = (s'.slot j).record := rfl
  rw [hj, h]
  by_cases hji : j = i
  · subst hji
    simp
  · simp only [Function.update_of_ne hji]
    rfl

/-- Writing a record changes the record of the slot. This and the next lemmas
say what the basic operations do to a slot. -/
theorem slot_setOutput (i : OutputIdx) (c : OutputChannelConfig) (s : OutputBank) :
    (setOutput i c s).slot = Function.update s.slot i { s.slot i with record := c } := by
  funext j
  by_cases hji : j = i
  · subst hji
    simp [slot, setOutput]
  · simp [slot, setOutput, hji]

/-- Setting the flag changes the flag alone, and detaching the servo, below, the
servo alone. -/
theorem slot_setAttached (i : OutputIdx) (flag : Bool) (s : OutputBank) :
    (setAttached i flag s).slot = Function.update s.slot i { s.slot i with flag := flag } := by
  funext j
  by_cases hji : j = i
  · subst hji
    simp [slot, setAttached]
  · simp [slot, setAttached, hji]

/-- Replacing the servo of a slot. -/
theorem slot_servo (i : OutputIdx) (v : Servo) (s : OutputBank) :
    ({ s with pwmOutputs := Function.update s.pwmOutputs i v } : OutputBank).slot
      = Function.update s.slot i { s.slot i with servo := v } := by
  funext j
  by_cases hji : j = i
  · subst hji
    simp [slot]
  · simp [slot, hji]

theorem slot_detachServo (i : OutputIdx) (s : OutputBank) :
    (detachServo i s).slot = Function.update s.slot i { s.slot i with servo := {} } :=
  slot_servo i _ s

@[simp] theorem slot_setRuntime (i : OutputIdx) (v : ℚ) (s : OutputBank) :
    (setRuntime i v s).slot = s.slot := rfl

@[simp] theorem slot_digitalWrite (pin : Pin) (level : Bool) (s : OutputBank) :
    (digitalWrite pin level s).slot = s.slot := rfl

/-- Releasing a channel detaches its servo and clears its flag, when the flag is
set. -/
theorem slot_releaseOutputHardware (i : OutputIdx) (s : OutputBank) :
    (releaseOutputHardware i s).slot = Function.update s.slot i (s.slot i).release := by
  unfold releaseOutputHardware Slot.release
  change (if (s.slot i).flag = true then _ else _ : OutputBank).slot = _
  by_cases hflag : (s.slot i).flag = true
  · rw [if_pos hflag, if_pos hflag, slot_setAttached, slot_detachServo]
    simp
  · rw [if_neg hflag, if_neg hflag, Function.update_eq_self]

/-- The pulse of a failsafe mode is within the bounds given to the servo. -/
theorem constrain_pwmFailsafeUs (m : PwmFailsafeMode) :
    constrain (pwmFailsafeUs m) kPwmMinUs kPwmMaxUs = pwmFailsafeUs m := by
  cases m <;> rfl

/-- Writing the failsafe sets the pulse of a servo that has its flag. The signal
and the level of a switch are written along with it, and are not part of the
slot. -/
theorem slot_writeFailsafeForOutput (i : OutputIdx) (s : OutputBank) :
    (writeFailsafeForOutput i s).slot = Function.update s.slot i (s.slot i).writeFailsafe := by
  unfold writeFailsafeForOutput
  by_cases hpwm : (s.outputs i).UsedPwm
  · have hused : (s.outputs i).used = true := hpwm.1
    have htype : (s.outputs i).type = .pwm := hpwm.2
    simp only [hused, htype, Bool.not_true, Bool.false_eq_true, if_false, slot_setRuntime]
    by_cases hdriven : (s.slot i).Driven
    · have hflag : s.pwmAttached i = true := hdriven.2.1
      have hatt : s.attached i = true := hdriven.2.2
      rw [Slot.writeFailsafe_of_driven hdriven, if_pos hflag, writeMicroseconds, if_pos hatt,
        slot_servo, constrain_pwmFailsafeUs]
      rfl
    · rw [Slot.writeFailsafe_of_not_driven hdriven, Function.update_eq_self]
      split
      · next hflag =>
        -- the flag is set but nothing is attached, so the pulse is not written
        have hatt : ¬ s.attached i = true := fun hatt => hdriven ⟨hpwm, hflag, hatt⟩
        rw [writeMicroseconds, if_neg hatt]
      · rfl
  · rw [Slot.writeFailsafe_of_not_driven fun h => hpwm h.1, Function.update_eq_self]
    cases hused : (s.outputs i).used with
    | false => rfl
    | true =>
      cases htype : (s.outputs i).type with
      | pwm => exact absurd ⟨hused, htype⟩ hpwm
      | switch => rfl

/-- Driving a channel moves the pulse of its servo, and nothing else of its
slot. -/
theorem slot_driveOutput (runtime : InputIdx → ℚ) (i : OutputIdx) (s : OutputBank) :
    ∃ pulse, (driveOutput runtime i s).slot
      = Function.update s.slot i { s.slot i with servo := ⟨(s.slot i).servo.pin, pulse⟩ } := by
  -- a branch that writes no pulse leaves the slot as it is
  have hsame : s.slot
      = Function.update s.slot i
        { s.slot i with servo := ⟨(s.slot i).servo.pin, (s.slot i).servo.pulse⟩ } :=
    (Function.update_eq_self _ _).symm
  unfold driveOutput
  dsimp only
  split
  · exact ⟨_, hsame⟩
  · split
    · split
      · unfold writeMicroseconds
        split
        · exact ⟨_, slot_servo i _ _⟩
        · exact ⟨_, hsame⟩
      · exact ⟨_, hsame⟩
    · exact ⟨_, hsame⟩

/-! ### Attaching -/

/-- `setPeriodHertz` does not attach a servo that was not attached. -/
theorem slot_setPeriodHertz (b : Board) (i : OutputIdx) (s : OutputBank) :
    ∃ v : Servo,
      (setPeriodHertz b i s).slot = Function.update s.slot i { s.slot i with servo := v } ∧
      (v.pin.isSome = true → (s.slot i).servo.pin.isSome = true) := by
  unfold setPeriodHertz
  -- without a servo there is nothing to set; with one it is detached and attached anew
  cases hpin : (s.pwmOutputs i).pin with
  | none =>
    exact ⟨s.pwmOutputs i, Function.update_eq_self_iff.mpr rfl |>.symm, fun h => h⟩
  | some pin =>
    unfold attachServo
    have hsome : (s.slot i).servo.pin.isSome = true := by simp [slot, hpin]
    dsimp only
    split
    · refine ⟨⟨some pin, none⟩, ?_, fun _ => hsome⟩
      rw [slot_servo, slot_detachServo]
      simp
    · exact ⟨{}, slot_detachServo i s, fun _ => hsome⟩

/-- On a reliable board `setPeriodHertz` keeps a servo on its PWM pin. -/
theorem slot_setPeriodHertz_of_reliable {b : Board} (hb : b.Reliable) (i : OutputIdx)
    (s : OutputBank) :
    ∃ v : Servo,
      (setPeriodHertz b i s).slot = Function.update s.slot i { s.slot i with servo := v } ∧
      v.pin = (s.slot i).servo.pin.filter b.hasPwm := by
  unfold setPeriodHertz
  cases hpin : (s.pwmOutputs i).pin with
  | none =>
    refine ⟨s.pwmOutputs i, Function.update_eq_self_iff.mpr rfl |>.symm, ?_⟩
    simp [slot, hpin]
  | some pin =>
    unfold attachServo
    dsimp only
    -- the servo comes back on its pin if the board has PWM there
    by_cases hpwm : b.hasPwm pin = true
    · rw [if_pos (by simp [hpwm, hb _ _ _ hpwm])]
      refine ⟨⟨some pin, none⟩, ?_, by simp [slot, hpin, Option.filter, hpwm]⟩
      rw [slot_servo, slot_detachServo]
      simp
    · rw [if_neg (by simp [hpwm])]
      exact ⟨{}, slot_detachServo i s, by simp [slot, hpin, Option.filter, hpwm]⟩

/-- **One attempt to attach**: the channel moves to the pin, which was
available, or at most its servo is lost. -/
theorem tryAttachOnPin_cases (b : Board) (i : OutputIdx) (pin : Pin) (s : OutputBank) :
    (b.pool.avail (claims s.outputs) i pin = true ∧ (tryAttachOnPin b i pin s).2 = true ∧
      (tryAttachOnPin b i pin s).1.slot = Function.update s.slot i ((s.slot i).attach pin)) ∨
    ((tryAttachOnPin b i pin s).2 = false ∧
      ∃ v : Servo, (tryAttachOnPin b i pin s).1.slot
          = Function.update s.slot i { s.slot i with servo := v } ∧
        (v.pin.isSome = true → (s.slot i).servo.pin.isSome = true)) := by
  have hsame : s.slot = Function.update s.slot i { s.slot i with servo := (s.slot i).servo } :=
    (Function.update_eq_self _ _).symm
  unfold tryAttachOnPin
  by_cases hpwm : b.hasPwm pin = true
  swap
  · simp only [hpwm, Bool.not_false, if_true]
    exact .inr ⟨trivial, _, hsame, fun h => h⟩
  by_cases htaken : Taken (claims s.outputs) i pin
  · simp only [outputPinAlreadyUsed_eq, hpwm, htaken, Bool.not_true, Bool.false_eq_true, if_false,
      decide_true, if_true]
    exact .inr ⟨trivial, _, hsame, fun h => h⟩
  · simp only [outputPinAlreadyUsed_eq, hpwm, htaken, Bool.not_true, Bool.false_eq_true, if_false,
      decide_false]
    have havail : b.pool.avail (claims s.outputs) i pin = true := Pool.avail_iff.mpr ⟨hpwm, htaken⟩
    -- after the first test the servo is detached, by this call or before it
    obtain ⟨s₀, hs₀, hslot₀, hatt₀⟩ :
        ∃ s₀, (if s.attached i = true then detachServo i s else s) = s₀ ∧
        (∃ v : Servo, s₀.slot = Function.update s.slot i { s.slot i with servo := v }) ∧
        s₀.attached i = false := by
      by_cases hatt : s.attached i = true
      · exact ⟨_, if_pos hatt, ⟨_, slot_detachServo i s⟩, by simp [attached, detachServo]⟩
      · exact ⟨_, if_neg hatt, ⟨_, hsame⟩, by simpa using hatt⟩
    obtain ⟨v, hv⟩ := hslot₀
    rw [hs₀]
    unfold attachServo
    split
    · refine .inl ⟨havail, by simp [attached], ?_⟩
      rw [if_neg (by simp [attached])]
      rw [slot_setAttached, slot_setOutput, slot_servo, hv]
      have houts : s₀.outputs i = s.outputs i := by rw [outputs_eq_of_slot hv]; simp [slot]
      simp [houts, Slot.attach]
      rfl
    · refine .inr ⟨by simp [hatt₀], v, ?_, ?_⟩
      · simpa [hatt₀] using hv
      · intro hsome
        have hnone : (s₀.slot i).servo.pin.isSome = false := hatt₀
        rw [hv] at hnone
        simp [hsome] at hnone

/-- A reliable board attaches a servo to every available pin. -/
theorem attachOk_of_avail {b : Board} (hb : b.Reliable) {c : Claims OutputIdx Pin}
    {i : OutputIdx} {pin : Pin} (h : b.pool.avail c i pin = true)
    (servos : OutputIdx → Option Pin) : b.attachOk servos i pin = true :=
  hb servos i pin (Pool.avail_iff.mp h).1

/-- An attempt on a pin that is not available is given up before the servo is
touched. -/
theorem tryAttachOnPin_of_not_avail {b : Board} {i : OutputIdx} {pin : Pin} {s : OutputBank}
    (h : b.pool.avail (claims s.outputs) i pin = false) :
    tryAttachOnPin b i pin s = (s, false) := by
  unfold tryAttachOnPin
  cases hpwm : b.hasPwm pin with
  | false => rfl
  | true =>
    have htaken : Taken (claims s.outputs) i pin := by
      by_contra hfree
      have havail : b.pool.avail (claims s.outputs) i pin = true := Pool.avail_iff.mpr ⟨hpwm, hfree⟩
      rw [h] at havail
      cases havail
    simp [outputPinAlreadyUsed_eq, htaken]

/-- An attempt on an available pin succeeds when the servo can be attached
there, next to the servos of the other channels. -/
theorem tryAttachOnPin_of_avail {b : Board} {i : OutputIdx} {pin : Pin} {s : OutputBank}
    (hattach : b.attachOk (Function.update (fun j => (s.pwmOutputs j).pin) i none) i pin = true)
    (h : b.pool.avail (claims s.outputs) i pin = true) :
    (tryAttachOnPin b i pin s).2 = true ∧
      (tryAttachOnPin b i pin s).1.slot = Function.update s.slot i ((s.slot i).attach pin) := by
  rcases tryAttachOnPin_cases b i pin s with ⟨-, hok, hslot⟩ | ⟨hfail, -⟩
  · exact ⟨hok, hslot⟩
  · obtain ⟨hpwm, hfree⟩ := Pool.avail_iff.mp h
    have hpwm' : b.hasPwm pin = true := hpwm
    -- the servo is detached when the attempt comes to attaching it
    obtain ⟨s₀, hs₀, hservos⟩ : ∃ s₀, (if s.attached i = true then detachServo i s else s) = s₀ ∧
        (fun j => (s₀.pwmOutputs j).pin)
          = Function.update (fun j => (s.pwmOutputs j).pin) i none := by
      refine ⟨_, rfl, funext fun j => ?_⟩
      by_cases hji : j = i
      · subst hji
        cases hpin : (s.pwmOutputs j).pin <;> simp [attached, detachServo, hpin]
      · by_cases hatt : s.attached i = true <;> simp [hatt, detachServo, hji]
    have hserved : (attachServo b i pin s₀).attached i = true := by
      simp [attachServo, hpwm', hservos, hattach, attached]
    unfold tryAttachOnPin at hfail
    simp only [hpwm', outputPinAlreadyUsed_eq, hfree, hs₀, hserved, Bool.not_true,
      Bool.false_eq_true, if_false, decide_false] at hfail
    cases hfail

/-! ### Looking for a pin -/

/-- What some attempts to attach lead to: the channel is on an available pin, or
it is as it was and has lost its servo at most. -/
def Attempt (b : Board) (c : Claims OutputIdx Pin) (i : OutputIdx) (x y : Slot) : Prop :=
  (∃ pin, b.pool.avail c i pin = true ∧ y = x.attach pin) ∨
    ∃ v : Servo, y = { x with servo := v } ∧ (v.pin.isSome = true → x.servo.pin.isSome = true)

/-- An attempt after a servo was lost is an attempt. -/
theorem Attempt.of_servo {b : Board} {c : Claims OutputIdx Pin} {i : OutputIdx} {x y : Slot}
    {v : Servo} (hv : v.pin.isSome = true → x.servo.pin.isSome = true)
    (h : Attempt b c i { x with servo := v } y) : Attempt b c i x y := by
  rcases h with ⟨pin, havail, rfl⟩ | ⟨v', rfl, hv'⟩
  · exact .inl ⟨pin, havail, rfl⟩
  · exact .inr ⟨v', rfl, fun h => hv (hv' h)⟩

/-- Replacing the servo of a slot does not move any claim. -/
theorem claims_of_slot_servo {s s' : OutputBank} {i : OutputIdx} {v : Servo}
    (h : s'.slot = Function.update s.slot i { s.slot i with servo := v }) :
    claims s'.outputs = claims s.outputs := by
  rw [outputs_eq_of_slot h]
  exact congrArg claims (Function.update_eq_self i s.outputs)

/-- The scan is a series of attempts, up to the first that succeeds. -/
theorem scanAttach_cases (b : Board) (i : OutputIdx) (requestedPin : Pin) (pins : List Pin)
    (s : OutputBank) :
    ∃ y, (scanAttach b i requestedPin pins s).slot = Function.update s.slot i y ∧
      Attempt b (claims s.outputs) i (s.slot i) y := by
  induction pins generalizing s with
  | nil =>
    exact ⟨s.slot i, (Function.update_eq_self i s.slot).symm, .inr ⟨_, rfl, fun h => h⟩⟩
  | cons pin pins ih =>
    rw [scanAttach]
    split
    · exact ih s
    · -- the pin is available and taken, or the attempt fails and the scan goes on
      rcases tryAttachOnPin_cases b i pin s with ⟨havail, hok, hslot⟩ | ⟨hfail, v, hslot, hv⟩
      · simp only [hok, if_true]
        exact ⟨_, hslot, .inl ⟨pin, havail, rfl⟩⟩
      · simp only [hfail, Bool.false_eq_true, if_false]
        obtain ⟨y, hy, hattempt⟩ := ih (tryAttachOnPin b i pin s).1
        rw [claims_of_slot_servo hslot, hslot, Function.update_self] at hattempt
        refine ⟨y, ?_, hattempt.of_servo hv⟩
        rw [hy, hslot, Function.update_idem]

/-- On a reliable board the scan attaches to the first available pin. The pin it
skips is the one that was tried before and is not available, so skipping it
changes nothing. -/
theorem scanAttach_of_reliable {b : Board} (hb : b.Reliable) {i : OutputIdx} {requestedPin : Pin}
    {s : OutputBank} (hreq : b.pool.avail (claims s.outputs) i requestedPin = false)
    (pins : List Pin) :
    (scanAttach b i requestedPin pins s).slot =
      match pins.find? (b.pool.avail (claims s.outputs) i) with
      | some pin => Function.update s.slot i ((s.slot i).attach pin)
      | none => s.slot := by
  induction pins with
  | nil => rfl
  | cons pin pins ih =>
    rw [scanAttach]
    -- on such a board the first pin available is the first that attaches
    by_cases havail : b.pool.avail (claims s.outputs) i pin = true
    · have hne : pin ≠ requestedPin := by
        rintro rfl
        rw [hreq] at havail
        cases havail
      obtain ⟨hok, hslot⟩ := tryAttachOnPin_of_avail (attachOk_of_avail hb havail _) havail
      rw [if_neg hne, List.find?_cons_of_pos havail]
      simp only [hok, if_true]
      exact hslot
    · rw [List.find?_cons_of_neg havail, tryAttachOnPin_of_not_avail (by simpa using havail)]
      split
      · exact ih
      · exact ih

/-- The part of a setup that looks for a pin: the one of the record first, and
then the scan. -/
def searchPin (b : Board) (i : OutputIdx) (s : OutputBank) : OutputBank :=
  let r := tryAttachOnPin b i (s.outputs i).pin s
  if r.2 then r.1 else scanAttach b i (s.outputs i).pin scanPins r.1

/-- It is a series of attempts as well. -/
theorem searchPin_cases (b : Board) (i : OutputIdx) (s : OutputBank) :
    ∃ y, (searchPin b i s).slot = Function.update s.slot i y ∧
      Attempt b (claims s.outputs) i (s.slot i) y := by
  unfold searchPin
  rcases tryAttachOnPin_cases b i (s.outputs i).pin s
    with ⟨havail, hok, hslot⟩ | ⟨hfail, v, hslot, hv⟩
  · simp only [hok, if_true]
    exact ⟨_, hslot, .inl ⟨_, havail, rfl⟩⟩
  · simp only [hfail, Bool.false_eq_true, if_false]
    obtain ⟨y, hy, hattempt⟩ := scanAttach_cases b i (s.outputs i).pin scanPins
      (tryAttachOnPin b i (s.outputs i).pin s).1
    rw [claims_of_slot_servo hslot, hslot, Function.update_self] at hattempt
    refine ⟨y, ?_, hattempt.of_servo hv⟩
    rw [hy, hslot, Function.update_idem]

/-- On a reliable board the search ends on the pin the claim picks. -/
theorem searchPin_of_reliable {b : Board} (hb : b.Reliable) (i : OutputIdx) (s : OutputBank) :
    (searchPin b i s).slot =
      match pick b.pool (claims s.outputs) i (s.outputs i).pin with
      | some pin => Function.update s.slot i ((s.slot i).attach pin)
      | none => s.slot := by
  unfold searchPin pick
  by_cases havail : b.pool.avail (claims s.outputs) i (s.outputs i).pin = true
  · obtain ⟨hok, hslot⟩ := tryAttachOnPin_of_avail (attachOk_of_avail hb havail _) havail
    rw [if_pos havail]
    simp only [hok, if_true]
    exact hslot
  · rw [if_neg havail, tryAttachOnPin_of_not_avail (by simpa using havail)]
    exact scanAttach_of_reliable hb (by simpa using havail) scanPins

/-! ### What attaching leaves alone -/

/-- A part of the bank that attaching and releasing leave alone, since none of
the basic operations on slots changes it. -/
structure Aside {α : Type} (f : OutputBank → α) : Prop where
  record : ∀ s i c, f (setOutput i c s) = f s
  flag : ∀ s i v, f (setAttached i v s) = f s
  servo : ∀ s v, f { s with pwmOutputs := v } = f s

/-- The levels of the pins are such a part, and so are the signals. -/
theorem aside_gpio : Aside gpio := ⟨fun _ _ _ => rfl, fun _ _ _ => rfl, fun _ _ => rfl⟩

theorem aside_outputRuntime : Aside outputRuntime :=
  ⟨fun _ _ _ => rfl, fun _ _ _ => rfl, fun _ _ => rfl⟩

namespace Aside

variable {α : Type} {f : OutputBank → α}

/-- Each of the functions leaves it alone. The basic ones attach and detach,
write a pulse and set the period. -/
theorem attachServo (h : Aside f) (b : Board) (i : OutputIdx) (pin : Pin) (s : OutputBank) :
    f (attachServo b i pin s) = f s := by
  unfold OutputBank.attachServo
  split
  · exact h.servo s _
  · rfl

theorem detachServo (h : Aside f) (i : OutputIdx) (s : OutputBank) : f (detachServo i s) = f s :=
  h.servo s _

theorem writeMicroseconds (h : Aside f) (i : OutputIdx) (us : ℤ) (s : OutputBank) :
    f (writeMicroseconds i us s) = f s := by
  unfold OutputBank.writeMicroseconds
  split
  · exact h.servo s _
  · rfl

theorem setPeriodHertz (h : Aside f) (b : Board) (i : OutputIdx) (s : OutputBank) :
    f (setPeriodHertz b i s) = f s := by
  unfold OutputBank.setPeriodHertz
  split
  · rw [h.attachServo, h.detachServo]
  · rfl

/-- Releasing leaves it alone. -/
theorem releaseIfUsed (h : Aside f) (i : OutputIdx) (s : OutputBank) :
    f (releaseIfUsed i s) = f s := by
  unfold OutputBank.releaseIfUsed releaseOutputHardware
  split
  · split
    · rw [h.flag, h.detachServo]
    · rfl
  · rfl

/-- One attempt leaves it alone. -/
theorem tryAttachOnPin (h : Aside f) (b : Board) (i : OutputIdx) (pin : Pin) (s : OutputBank) :
    f (tryAttachOnPin b i pin s).1 = f s := by
  -- a servo that was on the slot is detached before the attempt
  have hdetach : f (if s.attached i then OutputBank.detachServo i s else s) = f s := by
    split
    · exact h.detachServo i s
    · rfl
  unfold OutputBank.tryAttachOnPin
  split
  · rfl
  · split
    · rfl
    · dsimp only
      generalize (if s.attached i then OutputBank.detachServo i s else s) = t at hdetach ⊢
      split
      · exact (h.attachServo b i pin t).trans hdetach
      · rw [h.flag, h.record]
        exact (h.attachServo b i pin t).trans hdetach

/-- The scan over the pins leaves it alone. -/
theorem scanAttach (h : Aside f) (b : Board) (i : OutputIdx) (requestedPin : Pin) (pins : List Pin)
    (s : OutputBank) : f (scanAttach b i requestedPin pins s) = f s := by
  induction pins generalizing s with
  | nil => rfl
  | cons pin pins ih =>
    rw [OutputBank.scanAttach]
    split
    · exact ih s
    · dsimp only
      split
      · exact h.tryAttachOnPin b i pin s
      · exact (ih _).trans (h.tryAttachOnPin b i pin s)

/-- So does the search. -/
theorem searchPin (h : Aside f) (b : Board) (i : OutputIdx) (s : OutputBank) :
    f (searchPin b i s) = f s := by
  unfold OutputBank.searchPin
  dsimp only
  split
  · exact h.tryAttachOnPin b i _ s
  · exact (h.scanAttach b i _ _ _).trans (h.tryAttachOnPin b i _ s)

end Aside

/-! ### Setting up a channel -/

/-- The setup of a servo: the period is set, a pin is searched, and the failsafe
is written if the flag is up at the end. -/
theorem setupOutputHardware_pwm {b : Board} {i : OutputIdx} {s : OutputBank}
    (htype : (s.outputs i).type = .pwm) :
    setupOutputHardware b i s =
      let t := searchPin b i (setPeriodHertz b i s)
      if t.pwmAttached i then (writeFailsafeForOutput i t, .ok ())
      else (t, .error ("PWM attach failed on GPIO "
        ++ toString ((setPeriodHertz b i s).outputs i).pin)) := by
  unfold setupOutputHardware
  rw [htype]
  change (if !(searchPin b i (setPeriodHertz b i s)).pwmAttached i then _ else _) = _
  dsimp only
  cases (searchPin b i (setPeriodHertz b i s)).pwmAttached i <;> rfl

/-- Setting up a switch moves nothing. -/
theorem slot_setup_switch {b : Board} {i : OutputIdx} {s : OutputBank}
    (htype : (s.outputs i).type = .switch) : (setupOutputHardware b i s).1.slot = s.slot := by
  have hnot : ¬ (s.outputs i).UsedPwm := OutputChannelConfig.not_usedPwm_of_switch htype
  unfold setupOutputHardware
  rw [htype]
  dsimp only
  split
  · rfl
  · rw [slot_writeFailsafeForOutput, slot_digitalWrite,
      Slot.writeFailsafe_of_not_driven fun hdriven => hnot hdriven.1, Function.update_eq_self]

/-- A switch fails on a pin that another channel claims, and on no other. -/
theorem setup_switch_ok_iff {b : Board} {i : OutputIdx} {s : OutputBank}
    (htype : (s.outputs i).type = .switch) :
    (setupOutputHardware b i s).2 = .ok () ↔ ¬ Taken (claims s.outputs) i (s.outputs i).pin := by
  unfold setupOutputHardware
  rw [htype]
  dsimp only
  rw [outputPinAlreadyUsed_eq]
  by_cases htaken : Taken (claims s.outputs) i (s.outputs i).pin
  · rw [if_pos (by simpa using htaken)]
    exact iff_of_false nofun (not_not.mpr htaken)
  · rw [if_neg (by simpa using htaken)]
    exact iff_of_true rfl htaken

/-- The flag of the one slot that moved. -/
theorem flag_of_slot {s t : OutputBank} {i : OutputIdx} {y : Slot}
    (h : t.slot = Function.update s.slot i y) : t.pwmAttached i = y.flag := by
  change (t.slot i).flag = y.flag
  rw [h, Function.update_self]

/-- What a setup does to a slot, and how it ends. -/
inductive Setup (b : Board) (c : Claims OutputIdx Pin) (i : OutputIdx) (x : Slot) :
    Slot → Except String Unit → Prop where
  -- the servo is attached to an available pin and driven with the failsafe
  | placed {pin : Pin} (hpwm : x.record.type = .pwm) (havail : b.pool.avail c i pin = true) :
      Setup b c i x (x.onPin pin) (.ok ())
  -- no pin was found, but the flag was set already and passes for success
  | stale {v : Servo} (hpwm : x.record.type = .pwm) (hflag : x.flag = true)
      (hpulse : v.pin.isSome = true → v.pulse = some x.failsafeUs) :
      Setup b c i x { x with servo := v } (.ok ())
  | failed {v : Servo} {e : String} (hpwm : x.record.type = .pwm) (hflag : x.flag = false)
      (hpin : v.pin.isSome = true → x.servo.pin.isSome = true) :
      Setup b c i x { x with servo := v } (.error e)
  | level (hswitch : x.record.type = .switch) (hfree : ¬ Taken c i x.record.pin) :
      Setup b c i x x (.ok ())
  | conflict {e : String} (hswitch : x.record.type = .switch) (htaken : Taken c i x.record.pin) :
      Setup b c i x x (.error e)

/-- **The setup of a channel in use, on any board.** Its cases are those of the
inductive, and whatever calls a setup goes by them. -/
theorem setup_cases (b : Board) {i : OutputIdx} {s : OutputBank}
    (hused : (s.outputs i).used = true) :
    ∃ y, (setupOutputHardware b i s).1.slot = Function.update s.slot i y ∧
      Setup b (claims s.outputs) i (s.slot i) y (setupOutputHardware b i s).2 := by
  cases htype : (s.outputs i).type with
  | pwm =>
    have hpwm : (s.slot i).record.type = .pwm := htype
    obtain ⟨v, hv, hvpin⟩ := slot_setPeriodHertz b i s
    obtain ⟨y, hy, hattempt⟩ := searchPin_cases b i (setPeriodHertz b i s)
    rw [claims_of_slot_servo hv, hv, Function.update_self] at hattempt
    rw [hv, Function.update_idem] at hy
    rw [setupOutputHardware_pwm htype]
    dsimp only
    rw [flag_of_slot hy]
    -- the flag tells the two outcomes of the search apart, unless it was set before
    rcases hattempt.of_servo hvpin with ⟨pin, havail, rfl⟩ | ⟨v', rfl, hv'⟩
    · rw [if_pos (show ((s.slot i).attach pin).flag = true from rfl)]
      refine ⟨_, ?_, .placed hpwm havail⟩
      have hdriven : ((s.slot i).attach pin).Driven := ⟨⟨hused, htype⟩, rfl, rfl⟩
      rw [slot_writeFailsafeForOutput, hy, Function.update_self, Function.update_idem,
        Slot.writeFailsafe_of_driven hdriven]
      rfl
    · by_cases hset : (s.slot i).flag = true
      · rw [if_pos hset]
        have hslot := slot_writeFailsafeForOutput i (searchPin b i (setPeriodHertz b i s))
        rw [hy, Function.update_self, Function.update_idem] at hslot
        by_cases hsome : v'.pin.isSome = true
        · have hdriven : Slot.Driven { s.slot i with servo := v' } := ⟨⟨hused, htype⟩, hset, hsome⟩
          rw [Slot.writeFailsafe_of_driven hdriven] at hslot
          exact ⟨_, hslot, .stale hpwm hset fun _ => rfl⟩
        · rw [Slot.writeFailsafe_of_not_driven fun h => hsome h.2.2] at hslot
          exact ⟨_, hslot, .stale hpwm hset fun h => absurd h hsome⟩
      · rw [if_neg hset]
        exact ⟨_, hy, .failed hpwm (by simpa using hset) hv'⟩
  | switch =>
    refine ⟨s.slot i, by rw [slot_setup_switch htype, Function.update_eq_self], ?_⟩
    have hiff := setup_switch_ok_iff (b := b) htype
    cases hr : (setupOutputHardware b i s).2 with
    | ok _ => exact .level htype (hiff.mp hr)
    | error e =>
      refine .conflict htype (by_contra fun hfree => ?_)
      rw [hiff.mpr hfree] at hr
      cases hr

/-! ### Setting up a channel on a reliable board -/

/-- The search for a servo's pin once the period is set, which moves no
claim. -/
theorem searchPin_setPeriodHertz {b : Board} (hb : b.Reliable) (i : OutputIdx) (s : OutputBank) :
    ∃ v : Servo, v.pin = (s.slot i).servo.pin.filter b.hasPwm ∧
      (searchPin b i (setPeriodHertz b i s)).slot = Function.update s.slot i
        (match pick b.pool (claims s.outputs) i (s.outputs i).pin with
          | some pin => (s.slot i).attach pin
          | none => { s.slot i with servo := v }) := by
  obtain ⟨v, hv, hvpin⟩ := slot_setPeriodHertz_of_reliable hb i s
  have hpin : ((setPeriodHertz b i s).outputs i).pin = (s.outputs i).pin := by
    rw [outputs_eq_of_slot hv, Function.update_self]
    rfl
  -- the search asks for the pin of the record, which the period leaves alone
  have hsearch := searchPin_of_reliable hb i (setPeriodHertz b i s)
  rw [claims_of_slot_servo hv, hpin, hv] at hsearch
  refine ⟨v, hvpin, hsearch.trans ?_⟩
  cases pick b.pool (claims s.outputs) i (s.outputs i).pin with
  | none => rfl
  | some pin =>
    dsimp only
    rw [Function.update_self, Function.update_idem]
    rfl

/-- A servo whose search ends on a pin is set up there. The flag is up, so the
failsafe is written. -/
theorem setup_of_search {b : Board} {i : OutputIdx} {s : OutputBank} {pin : Pin}
    (hpwm : (s.outputs i).UsedPwm)
    (hsearch : (searchPin b i (setPeriodHertz b i s)).slot =
      Function.update s.slot i ((s.slot i).attach pin)) :
    (setupOutputHardware b i s).2 = .ok () ∧
      (setupOutputHardware b i s).1.slot = Function.update s.slot i ((s.slot i).onPin pin) := by
  have hdriven : ((s.slot i).attach pin).Driven := ⟨⟨hpwm.1, hpwm.2⟩, rfl, rfl⟩
  -- the attached servo is flagged, so the setup ends with the failsafe written
  have hset : (searchPin b i (setPeriodHertz b i s)).pwmAttached i = true := flag_of_slot hsearch
  rw [setupOutputHardware_pwm hpwm.2]
  dsimp only
  rw [if_pos hset]
  refine ⟨rfl, ?_⟩
  rw [slot_writeFailsafeForOutput, hsearch, Function.update_self, Function.update_idem]
  exact congrArg (Function.update s.slot i) (Slot.writeFailsafe_of_driven hdriven)

/-- **A claim that settles**: the channel is set up on the pin it settles on. -/
theorem setup_of_settle {b : Board} (hb : b.Reliable) {i : OutputIdx} {s : OutputBank} {pin : Pin}
    {k : Claim Pin} (hk : (s.outputs i).claim = some k)
    (hs : settle b.pool (claims s.outputs) i k = some pin) :
    (setupOutputHardware b i s).2 = .ok () ∧
      (setupOutputHardware b i s).1.slot = Function.update s.slot i ((s.slot i).settled pin) := by
  obtain ⟨hused, rfl⟩ := OutputChannelConfig.claim_eq_some.mp hk
  unfold Slot.settled
  cases htype : (s.outputs i).type with
  | pwm =>
    -- for a servo the claim settles on the pin that the search picks
    have hpick : pick b.pool (claims s.outputs) i (s.outputs i).pin = some pin := by
      simpa [settle, htype] using hs
    obtain ⟨v, -, hsearch⟩ := searchPin_setPeriodHertz hb i s
    rw [hpick] at hsearch
    dsimp only at hsearch
    rw [if_pos (show (s.slot i).record.type = .pwm from htype)]
    exact setup_of_search ⟨hused, htype⟩ hsearch
  | switch =>
    have hfree : ¬ Taken (claims s.outputs) i (s.outputs i).pin := by
      intro htaken
      simp [settle, htype, htaken] at hs
    have hne : ¬ (s.slot i).record.type = .pwm := fun hpwm =>
      OutputChannelConfig.not_usedPwm_of_switch htype ⟨hused, hpwm⟩
    rw [if_neg hne, slot_setup_switch htype]
    exact ⟨(setup_switch_ok_iff htype).mpr hfree, (Function.update_eq_self i s.slot).symm⟩

/-- **A claim that is stuck**: without the flag the setup fails and the slot
keeps all but the pulse of its servo. -/
theorem setup_of_stuck {b : Board} (hb : b.Reliable) {i : OutputIdx} {s : OutputBank}
    {k : Claim Pin}
    (hk : (s.outputs i).claim = some k) (hs : settle b.pool (claims s.outputs) i k = none)
    (hflag : s.pwmAttached i = false) :
    (∃ e, (setupOutputHardware b i s).2 = .error e) ∧
      ∃ v : Servo, (setupOutputHardware b i s).1.slot
          = Function.update s.slot i { s.slot i with servo := v } ∧
        (v.pin = (s.slot i).servo.pin ∨ v.pin = (s.slot i).servo.pin.filter b.hasPwm) := by
  obtain ⟨-, rfl⟩ := OutputChannelConfig.claim_eq_some.mp hk
  cases htype : (s.outputs i).type with
  | pwm =>
    have hpick : pick b.pool (claims s.outputs) i (s.outputs i).pin = none := by
      simpa [settle, htype] using hs
    obtain ⟨v, hvpin, hsearch⟩ := searchPin_setPeriodHertz hb i s
    rw [hpick] at hsearch
    dsimp only at hsearch
    -- nothing sets the flag, and a clear flag is the error
    have hclear : ¬ (searchPin b i (setPeriodHertz b i s)).pwmAttached i = true := by
      rw [flag_of_slot hsearch]
      exact Bool.eq_false_iff.mp hflag
    rw [setupOutputHardware_pwm htype]
    dsimp only
    rw [if_neg hclear]
    exact ⟨⟨_, rfl⟩, v, hsearch, .inr hvpin⟩
  | switch =>
    have htaken : Taken (claims s.outputs) i (s.outputs i).pin := by
      by_contra hfree
      simp [settle, htype, hfree] at hs
    have hiff := setup_switch_ok_iff (b := b) htype
    refine ⟨?_, (s.slot i).servo, ?_, .inl rfl⟩
    · cases hr : (setupOutputHardware b i s).2 with
      | ok _ => exact absurd htaken (hiff.mp hr)
      | error e => exact ⟨e, rfl⟩
    · rw [slot_setup_switch htype]
      exact (Function.update_eq_self i s.slot).symm

end OutputBank

/-! ### A small board

The examples of this development run on it. -/

/-- A reliable board with PWM on pins 4 and 5. -/
def smallBoard : Board where
  hasPwm pin := decide (pin = 4 ∨ pin = 5)
  attachOk _ _ _ := true
  powf x _ := x

/-- It attaches every servo. -/
theorem smallBoard_reliable : smallBoard.Reliable := fun _ _ _ _ => rfl

/-- A servo channel in the first slot, with its servo attached and its flag
set. -/
def oneServo (pin : Pin) : OutputBank where
  outputs i := if i = 0 then { used := true, pin := pin } else {}
  pwmAttached i := decide (i = 0)
  pwmOutputs i := if i = 0 then ⟨some pin, some kPwmNeutralUs⟩ else {}

/-- It is wired when its pin has PWM. -/
theorem wiringOk_oneServo {b : Board} {pin : Pin} (h : b.hasPwm pin = true) :
    WiringOk b (oneServo pin).outputs where
  distinct i j hi hj _ := by
    have hused : ∀ k, ((oneServo pin).outputs k).used = true → k = 0 := by
      intro k hk
      by_contra hne
      simp [oneServo, hne] at hk
    rw [hused i hi, hused j hj]
  capable i hi := by
    by_cases h0 : i = 0
    · simpa [oneServo, h0] using h
    · simp [oneServo, h0, OutputChannelConfig.UsedPwm] at hi

end RcController
