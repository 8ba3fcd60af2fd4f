import RcController.Signals.Mixer
import RcController.Wiring.Failsafe

/-!
# The pulse of a servo and the signal reported for it

The firmware keeps a signal for each output (`outputRuntime`) and writes a pulse to its
servo, by separate statements: when it drives the outputs, when it writes the failsafe,
and when a channel is set up. The two agree when the pulse is the one the signal stands
for (`Cell.Shown`).

Every loop over the outputs leaves them in agreement, whatever they were before: the
last thing it does to a used servo channel with its flag set is to write both. Nothing
has to be known of the board for that (`shown_rebuild`, `shown_applyTables`,
`shown_driveOutputs`).

A pulse only gets through to a servo that is attached. On a reliable board a flag means
that one is, on a PWM pin (`Slot.Seated`), also the flag a deleted channel leaves behind.
-/

namespace RcController

open FirstFit

/-- The pulse that a signal stands for: neutral is 1500 microseconds, and full
deflection 500 more or less. -/
def pulseOf (signal : ℚ) : ℤ := lround (1500 + 500 * signal)

/-- A slot together with the signal that is reported for it. -/
structure Cell where
  slot : Slot
  runtime : ℚ

/-- If the servo is driven, its signal is in range and its last pulse is the one
the signal stands for. -/
def Cell.Shown (x : Cell) : Prop :=
  x.slot.Driven → (-1 ≤ x.runtime ∧ x.runtime ≤ 1) ∧ x.slot.servo.pulse = some (pulseOf x.runtime)

/-- Without the flag nothing is driven, and neither is what is no used servo
channel. -/
theorem Cell.shown_of_flag {x : Cell} (h : x.slot.flag = false) : x.Shown := by
  intro hdriven
  rw [hdriven.2.1] at h
  cases h

theorem Cell.shown_of_not_usedPwm {x : Cell} (h : ¬ x.slot.record.UsedPwm) : x.Shown :=
  fun hdriven => absurd hdriven.1 h

/-! ### Pulses and signals -/

/-- A signal in range stands for a pulse in range. -/
theorem pulseOf_mem {signal : ℚ} (hlo : -1 ≤ signal) (hhi : signal ≤ 1) :
    kPwmMinUs ≤ pulseOf signal ∧ pulseOf signal ≤ kPwmMaxUs := by
  have hpos : (0 : ℚ) ≤ 1500 + 500 * signal := by linarith
  -- `lround` of a number that is not negative is the floor of it plus one half
  unfold pulseOf lround
  rw [if_pos hpos]
  constructor
  · apply Int.le_floor.mpr
    norm_num [kPwmMinUs]
    linarith
  · apply Int.lt_add_one_iff.mp
    apply Int.floor_lt.mpr
    norm_num [kPwmMaxUs]
    linarith

/-- The pulse a channel is driven with is the one its signal stands for. The
constants are those of the failsafe, and the rounding is the same. -/
theorem pwmFromOutput_eq (runtime : InputIdx → ℚ) (out : OutputChannelConfig) :
    pwmFromOutput runtime out = pulseOf (evaluateOutputSignal runtime out) := by
  obtain ⟨hlo, hhi⟩ := evaluateOutputSignal_mem runtime out
  obtain ⟨hmin, hmax⟩ := pulseOf_mem hlo hhi
  have hround : lround (kPwmNeutralUs + evaluateOutputSignal runtime out
      * ((kPwmMaxUs - kPwmNeutralUs : ℤ) : ℚ)) = pulseOf (evaluateOutputSignal runtime out) := by
    unfold pulseOf
    congr 1
    norm_num [kPwmNeutralUs, kPwmMaxUs]
    ring
  -- the pulse is in range, so clamping it does nothing
  unfold pwmFromOutput applyPwmInvert clampPwmUs
  dsimp only
  rw [hround, constrain_eq_self hmin hmax]
  rfl

/-- The I/O trace prints that pulse too. -/
theorem pwmUsFromSignal_eq {signal : ℚ} (hlo : -1 ≤ signal) (hhi : signal ≤ 1) :
    pwmUsFromSignal signal = pulseOf signal := by
  unfold pwmUsFromSignal pulseOf
  rw [constrain_eq_self hlo hhi, mul_comm]

namespace OutputBank

def cell (s : OutputBank) (i : OutputIdx) : Cell := ⟨s.slot i, s.outputRuntime i⟩

/-- The signal of every driven servo is what it is driven with. -/
def Shown (s : OutputBank) : Prop := ∀ i, (s.cell i).Shown

/-! ### The steps -/

/-- A cell is its slot and its signal. -/
theorem cell_eq {s s' : OutputBank} {i : OutputIdx} (hslot : s'.slot i = s.slot i)
    (hruntime : s'.outputRuntime i = s.outputRuntime i) : s'.cell i = s.cell i := by
  unfold cell
  rw [hslot, hruntime]

/-- The signal that is reported for a failsafe mode. -/
def failsafeSignal (mode : PwmFailsafeMode) : ℚ :=
  if pwmFailsafeUs mode ≤ kPwmMinUs then -1
  else if kPwmMaxUs ≤ pwmFailsafeUs mode then 1
  else 0

/-- It is reported whether or not the pulse gets through. -/
theorem outputRuntime_writeFailsafe {i : OutputIdx} {s : OutputBank} (h : (s.outputs i).UsedPwm) :
    (writeFailsafeForOutput i s).outputRuntime i
      = failsafeSignal (s.outputs i).pwmFailsafeMode := by
  have hused : (s.outputs i).used = true := h.1
  have htype : (s.outputs i).type = .pwm := h.2
  unfold writeFailsafeForOutput
  rw [hused, htype]
  exact Function.update_self ..

/-- The pulse of a failsafe mode is the one its signal stands for. -/
theorem pulseOf_failsafe (mode : PwmFailsafeMode) :
    (-1 ≤ failsafeSignal mode ∧ failsafeSignal mode ≤ 1) ∧
      pwmFailsafeUs mode = pulseOf (failsafeSignal mode) := by
  cases mode <;>
    simp [failsafeSignal, pwmFailsafeUs, kPwmMinUs, kPwmMaxUs, kPwmNeutralUs, pulseOf, lround] <;>
    norm_num

/-- **Writing the failsafe** writes pulse and signal alike. If the servo is not
driven there is nothing to agree. -/
theorem shown_writeFailsafe (i : OutputIdx) (s : OutputBank) :
    ((writeFailsafeForOutput i s).cell i).Shown := by
  intro hdriven
  have hslot : (writeFailsafeForOutput i s).slot i = (s.slot i).writeFailsafe := by
    rw [slot_writeFailsafeForOutput, Function.update_self]
  change ((writeFailsafeForOutput i s).slot i).Driven at hdriven
  -- the servo was driven before, since only its pulse was written
  obtain ⟨hrecord, hflag, hpin⟩ := Slot.writeFailsafe_fields (s.slot i)
  have hbefore : (s.slot i).Driven := by
    rw [hslot] at hdriven
    unfold Slot.Driven at hdriven
    rw [hrecord, hflag, hpin] at hdriven
    exact hdriven
  have hruntime := outputRuntime_writeFailsafe (i := i) (s := s) hbefore.1
  obtain ⟨hmem, hpulse⟩ := pulseOf_failsafe (s.outputs i).pwmFailsafeMode
  have hcell : (writeFailsafeForOutput i s).cell i
      = ⟨(s.slot i).writeFailsafe, failsafeSignal (s.outputs i).pwmFailsafeMode⟩ := by
    rw [cell, hslot, hruntime]
  rw [hcell, Slot.writeFailsafe_of_driven hbefore]
  exact ⟨hmem, congrArg some hpulse⟩

/-- The failsafe of one channel reports nothing for another, and leaves its slot
alone as well. -/
theorem outputRuntime_writeFailsafe_of_ne {i j : OutputIdx} (h : j ≠ i) (s : OutputBank) :
    (writeFailsafeForOutput i s).outputRuntime j = s.outputRuntime j := by
  unfold writeFailsafeForOutput
  split
  · rfl
  · dsimp only
    split
    · change Function.update _ i _ j = _
      rw [Function.update_of_ne h]
      split
      · exact congrFun (aside_outputRuntime.writeMicroseconds i _ s) j
      · rfl
    · exact Function.update_of_ne h _ _

theorem cell_writeFailsafe_of_ne {i j : OutputIdx} (h : j ≠ i) (s : OutputBank) :
    (writeFailsafeForOutput i s).cell j = s.cell j :=
  cell_eq (by rw [slot_writeFailsafeForOutput, Function.update_of_ne h])
    (outputRuntime_writeFailsafe_of_ne h s)

/-- Setting up a channel touches no other channel. -/
theorem cell_setup_of_ne (b : Board) {i j : OutputIdx} (h : j ≠ i) (s : OutputBank) :
    (setupOutputHardware b i s).1.cell j = s.cell j := by
  cases htype : (s.outputs i).type with
  | pwm =>
    obtain ⟨v, hv, -⟩ := slot_setPeriodHertz b i s
    obtain ⟨y, hy, -⟩ := searchPin_cases b i (setPeriodHertz b i s)
    -- the period and the search touch slot `i` alone
    have hsearch : (searchPin b i (setPeriodHertz b i s)).cell j = s.cell j := by
      refine cell_eq ?_ ?_
      · rw [hy, hv, Function.update_idem, Function.update_of_ne h]
      · rw [aside_outputRuntime.searchPin, aside_outputRuntime.setPeriodHertz]
    rw [setupOutputHardware_pwm htype]
    dsimp only
    split
    · exact (cell_writeFailsafe_of_ne h _).trans hsearch
    · exact hsearch
  | switch =>
    refine cell_eq (congrFun (slot_setup_switch htype) j) ?_
    unfold setupOutputHardware
    rw [htype]
    dsimp only
    split
    · rfl
    · exact outputRuntime_writeFailsafe_of_ne h _

/-- **Setting up a channel** ends with the failsafe written, or without the
flag. So whatever signal was reported before does not matter. -/
theorem shown_setup (b : Board) (i : OutputIdx) (s : OutputBank) :
    ((setupOutputHardware b i s).1.cell i).Shown := by
  cases htype : (s.outputs i).type with
  | pwm =>
    rw [setupOutputHardware_pwm htype]
    dsimp only
    split
    · exact shown_writeFailsafe i _
    · next hclear => exact Cell.shown_of_flag (Bool.eq_false_iff.mpr hclear)
  | switch =>
    refine Cell.shown_of_not_usedPwm ?_
    change ¬ ((setupOutputHardware b i s).1.slot i).record.UsedPwm
    rw [slot_setup_switch htype]
    exact OutputChannelConfig.not_usedPwm_of_switch htype

/-- The same for the channels in use. -/
theorem cell_setupIfUsed_of_ne (b : Board) (i : OutputIdx) (s : OutputBank) (j : OutputIdx)
    (h : j ≠ i) : (setupIfUsed b i s).1.cell j = s.cell j := by
  unfold setupIfUsed
  split
  · rfl
  · exact cell_setup_of_ne b h s

/-- A slot that has been set up agrees, and an unused one has nothing to agree. -/
theorem shown_setupIfUsed (b : Board) (i : OutputIdx) (s : OutputBank) :
    ((setupIfUsed b i s).1.cell i).Shown := by
  cases hused : (s.outputs i).used with
  | false =>
    rw [setupIfUsed_of_unused hused]
    exact Cell.shown_of_not_usedPwm (OutputChannelConfig.not_usedPwm_of_unused hused)
  | true =>
    rw [setupIfUsed_of_used hused]
    exact shown_setup b i s

/-- Driving an output writes the pulse of the signal it reports. -/
theorem shown_driveOutput (runtime : InputIdx → ℚ) (i : OutputIdx) (s : OutputBank) :
    ((driveOutput runtime i s).cell i).Shown := by
  intro hdriven
  obtain ⟨pulse, hslot⟩ := slot_driveOutput runtime i s
  change ((driveOutput runtime i s).slot i).Driven at hdriven
  rw [hslot, Function.update_self] at hdriven
  obtain ⟨hpwm, hflag, hpin⟩ := hdriven
  have hused : (s.outputs i).used = true := hpwm.1
  have htype : (s.outputs i).type = .pwm := hpwm.2
  have hset : s.pwmAttached i = true := hflag
  have hattached : s.attached i = true := hpin
  obtain ⟨hlo, hhi⟩ := evaluateOutputSignal_mem runtime (s.outputs i)
  obtain ⟨hmin, hmax⟩ := pulseOf_mem hlo hhi
  -- the source stores the signal and then writes the pulse it computes from it
  have hend : driveOutput runtime i s = writeMicroseconds i (pwmFromOutput runtime (s.outputs i))
      (setRuntime i (evaluateOutputSignal runtime (s.outputs i)) s) := by
    unfold driveOutput
    simp only [hused, htype, Bool.not_true, Bool.false_eq_true, if_false]
    exact if_pos hset
  have hruntime : (driveOutput runtime i s).outputRuntime i
      = evaluateOutputSignal runtime (s.outputs i) := by
    rw [hend, aside_outputRuntime.writeMicroseconds]
    exact Function.update_self ..
  have hpulse : ((driveOutput runtime i s).pwmOutputs i).pulse
      = some (pulseOf (evaluateOutputSignal runtime (s.outputs i))) := by
    rw [hend, writeMicroseconds, pwmFromOutput_eq, constrain_eq_self hmin hmax]
    rw [if_pos (show (setRuntime i _ s).attached i = true from hattached)]
    simp
  rw [cell, hruntime]
  exact ⟨⟨hlo, hhi⟩, hpulse⟩

/-- It does nothing to another output. -/
theorem cell_driveOutput_of_ne (runtime : InputIdx → ℚ) (i : OutputIdx) (s : OutputBank)
    (j : OutputIdx) (h : j ≠ i) : (driveOutput runtime i s).cell j = s.cell j := by
  obtain ⟨pulse, hslot⟩ := slot_driveOutput runtime i s
  refine cell_eq (by rw [hslot, Function.update_of_ne h]) ?_
  -- the three branches set the runtime of slot `i`
  have hset : ∀ v, (setRuntime i v s).outputRuntime j = s.outputRuntime j := fun _ =>
    Function.update_of_ne h _ _
  unfold driveOutput
  dsimp only
  split
  · exact hset 0
  · split
    · split
      · rw [aside_outputRuntime.writeMicroseconds]
        exact hset _
      · exact hset _
    · exact hset _

/-! ### The loops -/

/-- **After a rebuild** signal and pulse agree, also when it fails. A channel
the rebuild did not come to has lost its flag; a channel that it did come to was
set up. -/
theorem shown_rebuild (b : Board) (s : OutputBank) : (rebuildOutputHardware b s).1.Shown := by
  intro j
  unfold rebuildOutputHardware
  rcases Pass.run_slot cell (cell_setupIfUsed_of_ne b)
    (List.nodup_finRange kMaxOutputChannels) (List.mem_finRange j) s.releaseAll
    with ⟨-, hsame⟩ | ⟨t, -, hend, -⟩
  -- the loop stopped before the slot, which was released; or the slot was set up
  · rw [hsame]
    have hslot : (s.releaseAll.cell j).slot = (s.slot j).released := slot_releaseAll s j
    cases hused : (s.slot j).record.used with
    | false =>
      refine Cell.shown_of_not_usedPwm ?_
      rw [hslot, Slot.record_released]
      exact OutputChannelConfig.not_usedPwm_of_unused hused
    | true =>
      refine Cell.shown_of_flag ?_
      rw [hslot]
      exact Slot.flag_released hused
  · rw [hend]
    exact shown_setupIfUsed b j t

/-- The whole bank agrees after the failsafe of all outputs. -/
theorem shown_applyFailsafe (s : OutputBank) : s.applyFailsafeAllOutputs.Shown := by
  intro j
  obtain ⟨t, hend, -⟩ := Pass.foldl_slot cell writeFailsafeForOutput
    (fun _ _ _ h => cell_writeFailsafe_of_ne h _) (List.nodup_finRange kMaxOutputChannels)
    (List.mem_finRange j) s
  unfold applyFailsafeAllOutputs
  rw [hend]
  exact shown_writeFailsafe j t

/-- The whole bank agrees after all outputs were driven. -/
theorem shown_driveOutputs (runtime : InputIdx → ℚ) (s : OutputBank) :
    (s.driveOutputs runtime).Shown := by
  intro j
  obtain ⟨t, hend, -⟩ := Pass.foldl_slot cell (driveOutput runtime)
    (cell_driveOutput_of_ne runtime) (List.nodup_finRange kMaxOutputChannels)
    (List.mem_finRange j) s
  unfold driveOutputs
  rw [hend]
  exact shown_driveOutput runtime j t

section Restore

variable (b : Board) (old : OutputIdx → OutputChannelConfig) (oldPwm : OutputIdx → Bool)

/-- A restored channel was set up again, or has no flag. -/
theorem shown_restoreSlot (i : OutputIdx) (s : OutputBank) :
    ((restoreSlot b old oldPwm i s).cell i).Shown := by
  unfold restoreSlot
  dsimp only
  -- `restoreOld` clears the flag first and sets up the channels that had it
  split
  · exact shown_setup b i _
  · exact Cell.shown_of_flag (Function.update_self ..)

/-- Restoring a channel does nothing to another one. -/
theorem cell_restoreSlot_of_ne (i : OutputIdx) (s : OutputBank) (j : OutputIdx) (h : j ≠ i) :
    (restoreSlot b old oldPwm i s).cell j = s.cell j := by
  have hput : (setAttached i false (setOutput i (old i) (releaseIfUsed i s))).cell j
      = s.cell j := by
    refine cell_eq (by rw [slot_restored, Function.update_of_ne h]) ?_
    rw [aside_outputRuntime.flag, aside_outputRuntime.record, aside_outputRuntime.releaseIfUsed]
  unfold restoreSlot
  dsimp only
  split
  · exact (cell_setup_of_ne b h _).trans hput
  · exact hput

/-- So after a rollback they agree. -/
theorem shown_restoreOld (s : OutputBank) : (s.restoreOld b old oldPwm).Shown := by
  intro j
  obtain ⟨t, hend, -⟩ := Pass.foldl_slot cell (restoreSlot b old oldPwm)
    (cell_restoreSlot_of_ne b old oldPwm) (List.nodup_finRange kMaxOutputChannels)
    (List.mem_finRange j) s
  unfold restoreOld
  rw [hend]
  exact shown_restoreSlot b old oldPwm j t

end Restore

end OutputBank

/-- **An apply, accepted or rejected**, leaves signal and pulse in agreement. -/
theorem shown_applyTables (b : Board) (cfg : PersistedConfig) {s : RcModel} (h : s.bank.Shown) :
    (applyTables b cfg s).1.bank.Shown := by
  by_cases hheader : cfg.HeaderOk
  · cases hplace : (s.bank.teardown.placeChannels b cfg).2 with
    | ok _ =>
      rw [applyTables_ok hheader hplace]
      exact OutputBank.shown_applyFailsafe _
    | error e =>
      rw [applyTables_error hheader hplace]
      exact OutputBank.shown_restoreOld b _ _ _
  · rw [applyTables_badHeader hheader]
    exact h

/-- **An output edit**, too: it ends in a rebuild, or in a second one. -/
theorem shown_editOutput (b : Board) (e : OutputIdx) (record : OutputChannelConfig)
    (message : String) (s : Sketch) : (editOutput b e record message s).1.rc.bank.Shown := by
  unfold editOutput
  dsimp only
  split
  · exact OutputBank.shown_rebuild b _
  · next bank heq =>
    have hbank : bank = (OutputBank.rebuildOutputHardware b (s.rc.bank.setOutput e record)).1 := by
      rw [heq]
    change bank.Shown
    rw [hbank]
    exact OutputBank.shown_rebuild b _

/-! ### Flags and attached servos -/

/-- A flag means that the servo is attached, to a pin that has PWM. The pin need
not be that of the record. -/
def Slot.Seated (b : Board) (x : Slot) : Prop :=
  x.flag = true → ∃ pin, x.servo.pin = some pin ∧ b.hasPwm pin = true

namespace Slot

variable {b : Board} {x : Slot}

/-- A slot without its flag is seated. -/
theorem seated_of_flag (h : x.flag = false) : x.Seated b := by
  intro hset
  rw [h] at hset
  cases hset

/-- The record does not matter. -/
theorem Seated.record (h : x.Seated b) (c : OutputChannelConfig) :
    Seated b { x with record := c } := h

/-- Releasing takes the flag down. The pulse, in the next lemma, moves no servo. -/
theorem Seated.released (h : x.Seated b) : x.released.Seated b := by
  cases hused : x.record.used with
  | true => exact seated_of_flag (OutputBank.Slot.flag_released hused)
  | false =>
    rw [OutputBank.Slot.released_of_unused hused]
    exact h

theorem Seated.writeFailsafe (h : x.Seated b) : x.writeFailsafe.Seated b := by
  obtain ⟨-, hflag, hpin⟩ := OutputBank.Slot.writeFailsafe_fields x
  unfold Seated
  rw [hflag, hpin]
  exact h

/-- A seated servo of a channel with its flag is driven. -/
theorem Seated.driven (h : x.Seated b) (hpwm : x.record.UsedPwm) (hflag : x.flag = true) :
    x.Driven := by
  obtain ⟨pin, hpin, -⟩ := h hflag
  exact ⟨hpwm, hflag, by rw [hpin]; rfl⟩

end Slot

namespace OutputBank

def Seated (b : Board) (s : OutputBank) : Prop := ∀ i, (s.slot i).Seated b

variable {b : Board} {s s' : OutputBank}

/-- A step at one slot that leaves it seated. -/
theorem Seated.update (h : s.Seated b) {i : OutputIdx} {y : Slot} (hy : y.Seated b)
    (hslot : s'.slot = Function.update s.slot i y) : s'.Seated b := by
  intro j
  rw [hslot]
  by_cases hji : j = i
  · subst hji
    rw [Function.update_self]
    exact hy
  · rw [Function.update_of_ne hji]
    exact h j

/-- So writing a record keeps a bank seated, and releasing a channel does. -/
theorem Seated.setOutput (h : s.Seated b) (i : OutputIdx) (c : OutputChannelConfig) :
    (setOutput i c s).Seated b :=
  h.update (i := i) ((h i).record c) (slot_setOutput i c s)

/-- **On a reliable board a setup leaves no flag without a servo.** A stale flag
stays up when no pin is found, but then the servo it was set for is still
attached. -/
theorem Seated.setup (hb : b.Reliable) (h : s.Seated b) (i : OutputIdx) :
    (setupOutputHardware b i s).1.Seated b := by
  cases htype : (s.outputs i).type with
  | pwm =>
    obtain ⟨v, hvpin, hsearch⟩ := searchPin_setPeriodHertz hb i s
    have hseated : (searchPin b i (setPeriodHertz b i s)).Seated b := by
      refine h.update ?_ hsearch
      cases hpick : pick b.pool (claims s.outputs) i (s.outputs i).pin with
      | some pin => exact fun _ => ⟨pin, rfl, (Pool.avail_iff.mp (avail_of_pick hpick)).1⟩
      | none =>
        -- setting the period reattaches the servo to the PWM pin it was on
        intro hflag
        obtain ⟨pin, hpin, hcap⟩ := h i hflag
        refine ⟨pin, ?_, hcap⟩
        change v.pin = some pin
        rw [hvpin, hpin]
        simp [Option.filter, hcap]
    rw [setupOutputHardware_pwm htype]
    dsimp only
    split
    · exact hseated.update (hseated i).writeFailsafe (slot_writeFailsafeForOutput i _)
    · exact hseated
  | switch =>
    intro j
    rw [slot_setup_switch htype]
    exact h j

theorem Seated.releaseIfUsed (h : s.Seated b) (i : OutputIdx) : (releaseIfUsed i s).Seated b :=
  h.update (h i).released (slot_releaseIfUsed i s)

/-- The loops made of such steps keep a bank seated: the rebuild, and below it
the failsafe, driving the outputs and the teardown. -/
theorem Seated.rebuild (hb : b.Reliable) (h : s.Seated b) :
    (rebuildOutputHardware b s).1.Seated b := by
  refine Pass.run_invariant (Seated b) (fun i t ht => ?_) _ ?_
  · unfold setupIfUsed
    split
    · exact ht
    · exact ht.setup hb i
  · exact Pass.foldl_keeps (Seated b) (fun i t ht => ht.releaseIfUsed i) _ h

theorem Seated.applyFailsafe (h : s.Seated b) : s.applyFailsafeAllOutputs.Seated b :=
  Pass.foldl_keeps (Seated b)
    (fun i t ht => ht.update (ht i).writeFailsafe (slot_writeFailsafeForOutput i t)) _ h

theorem Seated.driveOutputs (h : s.Seated b) (runtime : InputIdx → ℚ) :
    (s.driveOutputs runtime).Seated b := by
  refine Pass.foldl_keeps (Seated b) (fun i t ht => ?_) _ h
  obtain ⟨pulse, hslot⟩ := slot_driveOutput runtime i t
  exact ht.update (y := { t.slot i with servo := ⟨(t.slot i).servo.pin, pulse⟩ }) (ht i) hslot

theorem Seated.teardown (h : s.Seated b) : s.teardown.Seated b :=
  Pass.foldl_keeps (Seated b) (fun i _ ht => (ht.releaseIfUsed i).setOutput i {}) _ h

/-- Placing a channel keeps a bank seated. -/
theorem Seated.placeChannel (hb : b.Reliable) (h : s.Seated b) (pc : PersistedChannel)
    (i : OutputIdx) : (placeChannel b pc i s).1.Seated b := by
  by_cases hused : pc.used = 0
  · rw [place_unused hused]
    exact h
  cases hsrc : pc.sourcesValid with
  | false =>
    rw [place_invalid hused hsrc]
    exact h
  | true =>
    rw [place_eq hused hsrc]
    -- a record is written in either case, and set up when a pin was found for it
    cases entryRecord b pc i s with
    | none => exact h.setOutput i _
    | some c => exact (h.setOutput i c).setup hb i

/-- Restoring a slot keeps a bank seated. -/
theorem Seated.restoreSlot (hb : b.Reliable) (h : s.Seated b)
    (old : OutputIdx → OutputChannelConfig) (oldPwm : OutputIdx → Bool) (i : OutputIdx) :
    (restoreSlot b old oldPwm i s).Seated b := by
  have hput : (setAttached i false
      (OutputBank.setOutput i (old i) (OutputBank.releaseIfUsed i s))).Seated b :=
    h.update (Slot.seated_of_flag (x := ⟨old i, false, _⟩) rfl) (slot_restored old i s)
  unfold OutputBank.restoreSlot
  dsimp only
  split
  · exact hput.setup hb i
  · exact hput

end OutputBank

/-- An apply is made of these, accepted or rejected. -/
theorem seated_applyTables {b : Board} (hb : b.Reliable) (cfg : PersistedConfig) {s : RcModel}
    (h : s.bank.Seated b) : (applyTables b cfg s).1.bank.Seated b := by
  -- the tables are torn down first, and the loop seats what it places
  have hplaced : (s.bank.teardown.placeChannels b cfg).1.Seated b :=
    Pass.run_invariant (OutputBank.Seated b) (fun i _ ht => ht.placeChannel hb (cfg.channels i) i) _
      h.teardown
  by_cases hheader : cfg.HeaderOk
  · cases hplace : (s.bank.teardown.placeChannels b cfg).2 with
    | ok _ =>
      rw [applyTables_ok hheader hplace]
      exact hplaced.applyFailsafe
    | error e =>
      rw [applyTables_error hheader hplace]
      exact Pass.foldl_keeps (OutputBank.Seated b) (fun i _ ht => ht.restoreSlot hb _ _ i) _ hplaced
  · rw [applyTables_badHeader hheader]
    exact h

/-- An edit is made of rebuilds. -/
theorem seated_editOutput {b : Board} (hb : b.Reliable) {s : Sketch} (h : s.rc.bank.Seated b)
    (e : OutputIdx) (record : OutputChannelConfig) (message : String) :
    (editOutput b e record message s).1.rc.bank.Seated b := by
  have hrebuilt := (h.setOutput e record).rebuild hb
  unfold editOutput
  dsimp only
  split
  · next bank _ heq =>
    rw [heq] at hrebuilt
    exact (hrebuilt.setOutput e _).rebuild hb
  · next bank heq =>
    rw [heq] at hrebuilt
    exact hrebuilt

end RcController
