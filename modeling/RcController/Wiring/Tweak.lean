import RcController.Wiring.Edit

/-!
# Tweaking an output

`output_update` without `allow_rewire` puts the wiring of the channel back before it writes
the record (`tweaked_updatedOutput`), but it tears down and sets up all channels like any
other edit. On a wired table whose servos can be attached where they are the rebuild is the
identity on the records: every channel finds its own pin free when its turn comes
(`setup_own_pin`), whatever was attached before. So such a request never fails and never moves
a channel (`tweak_keeps_wiring`).

The board need not be reliable here. What is asked of it is `OwnPinsAttach`, which a board with
few channels for servos can meet as well.
-/

namespace RcController

open FirstFit DeviceProg

namespace OutputBank

/-! ### Servos on their own pins -/

/-- Every servo is detached, or where it was, or on the pin of its record. -/
def Near (s : OutputBank) (servos : OutputIdx → Option Pin) : Prop :=
  ∀ j, servos j = none ∨ servos j = (s.pwmOutputs j).pin ∨
    (s.outputs j).UsedPwm ∧ servos j = some (s.outputs j).pin

/-- Whatever servos are attached in this way, the board attaches the free servo
of a used channel to the pin of its record. -/
def OwnPinsAttach (b : Board) (s : OutputBank) : Prop :=
  ∀ i, (s.outputs i).UsedPwm → ∀ servos, s.Near servos → servos i = none →
    b.attachOk servos i (s.outputs i).pin = true

/-- On a reliable board every servo of a wired table can be attached. -/
theorem ownPinsAttach_of_reliable {b : Board} (hb : b.Reliable) {s : OutputBank}
    (h : WiringOk b s.outputs) : OwnPinsAttach b s := by
  intro i hpwm servos _ _
  exact hb servos i _ (h.capable i hpwm)

/-- Settling on its own pin does not change the record. -/
theorem Slot.record_settled (x : Slot) : (x.settled x.record.pin).record = x.record := by
  unfold Slot.settled
  split <;> rfl

/-- The servo of a slot that settles on the pin of its record. -/
theorem Slot.servo_settled (x : Slot) :
    (x.settled x.record.pin).servo = x.servo ∨
      x.record.type = .pwm ∧ (x.settled x.record.pin).servo.pin = some x.record.pin := by
  unfold Slot.settled
  split
  · next hpwm => exact .inr ⟨hpwm, rfl⟩
  · exact .inl rfl

/-- **A channel of a wired table is set up where it is.** -/
theorem setup_own_pin {b : Board} {s : OutputBank} {i : OutputIdx} (h : WiringOk b s.outputs)
    (hused : (s.outputs i).used = true)
    (hattach : (s.outputs i).UsedPwm →
      b.attachOk (Function.update (fun j => (s.pwmOutputs j).pin) i none) i (s.outputs i).pin
        = true) :
    (setupOutputHardware b i s).2 = .ok () ∧
      (setupOutputHardware b i s).1.slot
        = Function.update s.slot i ((s.slot i).settled (s.outputs i).pin) := by
  have hfree : ¬ Taken (claims s.outputs) i (s.outputs i).pin :=
    (wiringOk_iff.mp h).not_taken (OutputChannelConfig.claim_of_used hused)
  unfold Slot.settled
  cases htype : (s.outputs i).type with
  | pwm =>
    have hpwm : (s.outputs i).UsedPwm := ⟨hused, htype⟩
    obtain ⟨v, hv, -⟩ := slot_setPeriodHertz b i s
    -- setting the period changes the servo of the channel and nothing else
    have hclaims : claims (setPeriodHertz b i s).outputs = claims s.outputs :=
      claims_of_slot_servo hv
    have hpin : ((setPeriodHertz b i s).outputs i).pin = (s.outputs i).pin := by
      rw [outputs_eq_of_slot hv, Function.update_self]
      rfl
    have hothers : Function.update (fun j => ((setPeriodHertz b i s).pwmOutputs j).pin) i none
        = Function.update (fun j => (s.pwmOutputs j).pin) i none := by
      funext j
      by_cases hji : j = i
      · subst hji
        rw [Function.update_self, Function.update_self]
      · rw [Function.update_of_ne hji, Function.update_of_ne hji]
        have hsame : (setPeriodHertz b i s).slot j = s.slot j := by
          rw [hv, Function.update_of_ne hji]
        exact congrArg (fun x : Slot => x.servo.pin) hsame
    have havail : b.pool.avail (claims (setPeriodHertz b i s).outputs) i (s.outputs i).pin
        = true := by
      rw [hclaims]
      exact Pool.avail_iff.mpr ⟨h.capable i hpwm, hfree⟩
    -- the first try is on the channel's own pin, and the scan is not reached
    obtain ⟨hok, hslot⟩ := tryAttachOnPin_of_avail (by rw [hothers]; exact hattach hpwm) havail
    have hsearch : (searchPin b i (setPeriodHertz b i s)).slot
        = Function.update s.slot i ((s.slot i).attach (s.outputs i).pin) := by
      unfold searchPin
      rw [hpin]
      dsimp only
      rw [if_pos hok, hslot, hv, Function.update_self, Function.update_idem]
      rfl
    rw [if_pos (show (s.slot i).record.type = .pwm from htype)]
    exact setup_of_search hpwm hsearch
  | switch =>
    -- a switch only needs its pin for itself
    have hne : ¬ (s.slot i).record.type = .pwm := fun hpwm =>
      OutputChannelConfig.not_usedPwm_of_switch htype ⟨hused, hpwm⟩
    rw [if_neg hne, slot_setup_switch htype]
    exact ⟨(setup_switch_ok_iff htype).mpr hfree, (Function.update_eq_self i s.slot).symm⟩

/-! ### A rebuild in place -/

/-- A bank in the middle of a rebuild in place: the records are those at the
start, and the servos are near. -/
structure InPlace (s t : OutputBank) : Prop where
  outputs : t.outputs = s.outputs
  near : s.Near fun j => (t.pwmOutputs j).pin

/-- After the release loop they are: it detaches, and moves nothing. -/
theorem inPlace_releaseAll (s : OutputBank) : InPlace s s.releaseAll where
  outputs := outputs_releaseAll s
  near j := by
    change (s.releaseAll.slot j).servo.pin = none ∨ (s.releaseAll.slot j).servo.pin = _ ∨ _
    rw [slot_releaseAll]
    unfold Slot.released Slot.release
    split
    · split
      · exact .inl rfl
      · exact .inr (.inl rfl)
    · exact .inr (.inl rfl)

/-- One step of the second loop succeeds and stays in place. -/
theorem InPlace.setupIfUsed {b : Board} {s t : OutputBank} (h : InPlace s t)
    (hwired : WiringOk b s.outputs) (hattach : OwnPinsAttach b s) (i : OutputIdx) :
    (setupIfUsed b i t).2 = .ok () ∧ InPlace s (setupIfUsed b i t).1 := by
  cases hused : (t.outputs i).used with
  | false =>
    rw [setupIfUsed_of_unused hused]
    exact ⟨rfl, h⟩
  | true =>
    rw [setupIfUsed_of_used hused]
    have hwired' : WiringOk b t.outputs := by
      rw [h.outputs]
      exact hwired
    obtain ⟨hok, hslot⟩ := setup_own_pin hwired' hused fun hpwm => by
      rw [h.outputs] at hpwm ⊢
      refine hattach i hpwm _ (fun j => ?_) (Function.update_self ..)
      by_cases hji : j = i
      · subst hji
        exact .inl (Function.update_self ..)
      · rw [Function.update_of_ne hji]
        exact h.near j
    refine ⟨hok, ?_, fun j => ?_⟩
    · rw [outputs_eq_of_slot hslot, ← h.outputs]
      exact (congrArg _ (Slot.record_settled (t.slot i))).trans
        (Function.update_eq_self i t.outputs)
    -- slot `i` has its servo on its pin or is a switch; the others keep theirs
    · change ((setupOutputHardware b i t).1.slot j).servo.pin = none ∨
        ((setupOutputHardware b i t).1.slot j).servo.pin = _ ∨
        _ ∧ ((setupOutputHardware b i t).1.slot j).servo.pin = _
      rw [hslot]
      by_cases hji : j = i
      · subst hji
        rw [Function.update_self]
        rcases Slot.servo_settled (t.slot j) with hsame | ⟨hpwm, hpin⟩
        · have hnear := h.near j
          rw [show (t.slot j).settled (t.outputs j).pin
            = (t.slot j).settled (t.slot j).record.pin from rfl, hsame]
          exact hnear
        · refine .inr (.inr ?_)
          rw [← h.outputs]
          exact ⟨⟨hused, hpwm⟩, hpin⟩
      · rw [Function.update_of_ne hji]
        exact h.near j

/-- **A rebuild of a wired table whose servos can be attached where they are
succeeds and changes no record.** -/
theorem rebuild_in_place {b : Board} {s : OutputBank} (h : WiringOk b s.outputs)
    (hattach : OwnPinsAttach b s) :
    (rebuildOutputHardware b s).2 = .ok () ∧ (rebuildOutputHardware b s).1.outputs = s.outputs := by
  obtain ⟨hok, hplace⟩ := Pass.run_total (fun _ t => InPlace s t)
    (fun i _ t ht => ht.setupIfUsed h hattach i) (inPlace_releaseAll s)
    (l := List.finRange kMaxOutputChannels)
  exact ⟨hok, hplace.outputs⟩

end OutputBank

open OutputBank

/-! ### Records that are tweaked -/

/-- The two records differ in their name, inversion, threshold and failsafe mode
at most. -/
def Tweaked (c c' : OutputChannelConfig) : Prop :=
  c' = { c with
    name := c'.name
    inverted := c'.inverted
    thresholdPercent := c'.thresholdPercent
    pwmFailsafeMode := c'.pwmFailsafeMode }

/-- Without `allow_rewire` the handler writes a tweaked record, whatever the
other arguments are. -/
theorem tweaked_updatedOutput {args : Args} {backup : OutputChannelConfig} {i : OutputIdx}
    (hused : backup.used = true) (hrewire : args.parseBoolArg .allowRewire false = false) :
    Tweaked backup (updatedOutput args backup i) := by
  have hkeep : (!args.parseBoolArg .allowRewire false) = true := by rw [hrewire]; rfl
  unfold Tweaked updatedOutput
  dsimp only
  rw [if_pos hkeep, hused]

/-- A tweak moves no claim. -/
theorem Tweaked.claim {c c' : OutputChannelConfig} (h : Tweaked c c') : c'.claim = c.claim := by
  rw [h]
  rfl

/-- So it is a servo channel when the first one is, on the same pin. -/
theorem Tweaked.usedPwm {c c' : OutputChannelConfig} (h : Tweaked c c') :
    c'.UsedPwm ↔ c.UsedPwm := by
  rw [h]
  exact Iff.rfl

theorem Tweaked.pin {c c' : OutputChannelConfig} (h : Tweaked c c') : c'.pin = c.pin := by
  rw [h]

section Tweak

variable {b : Board} {s : OutputBank} {i : OutputIdx} {record : OutputChannelConfig}

/-- A table with one record tweaked is wired when it was before. -/
theorem wiringOk_tweak (h : WiringOk b s.outputs) (ht : Tweaked (s.outputs i) record) :
    WiringOk b (setOutput i record s).outputs := by
  rw [wiringOk_iff] at h ⊢
  rw [show (setOutput i record s).outputs = Function.update s.outputs i record from rfl,
    claims_update, ht.claim]
  exact (Function.update_eq_self i (claims s.outputs)).symm ▸ h

/-- The servos of a table with one record tweaked can be attached when they
could before. -/
theorem ownPinsAttach_tweak (h : OwnPinsAttach b s) (ht : Tweaked (s.outputs i) record) :
    OwnPinsAttach b (setOutput i record s) := by
  -- neither which channels have servos nor their pins depend on the tweak
  have hrecord : ∀ j, Tweaked (s.outputs j) ((setOutput i record s).outputs j) := by
    intro j
    change Tweaked _ (Function.update s.outputs i record j)
    by_cases hji : j = i
    · subst hji
      rw [Function.update_self]
      exact ht
    · rw [Function.update_of_ne hji]
      rfl
  intro j hpwm servos hnear hnone
  rw [(hrecord j).pin]
  refine h j ((hrecord j).usedPwm.mp hpwm) servos (fun k => ?_) hnone
  have hk := hnear k
  rwa [(hrecord k).usedPwm, (hrecord k).pin] at hk

end Tweak

/-- **A tweak never fails and never rewires.** From a wired table whose servos
can be attached to their own pins, an `output_update` of a used channel without
`allow_rewire` succeeds; it changes at most the name, the inversion, the
threshold and the failsafe mode of that channel, and ends with every servo on
its own pin. -/
theorem tweak_keeps_wiring {b : Board} {millis : UInt32} {s : Sketch} {r : Request} {i : OutputIdx}
    (hwired : WiringOk b s.rc.bank.outputs) (hattach : OwnPinsAttach b s.rc.bank)
    (hend : r.endpoint = .outputUpdate) (hindex : parseIndex r.args kMaxOutputChannels = some i)
    (hused : (s.rc.bank.outputs i).used = true)
    (hrewire : r.args.parseBoolArg .allowRewire false = false) :
    ∃ s' reply, handleRequest b millis r s = .pure (s', reply) ∧ reply.ok = true ∧
      (∀ j, j ≠ i → s'.rc.bank.outputs j = s.rc.bank.outputs j) ∧
      Tweaked (s.rc.bank.outputs i) (s'.rc.bank.outputs i) ∧ ServosAttached s'.rc.bank := by
  have hrun : handleRequest b millis r s = .pure (editOutput b i
      (updatedOutput r.args (s.rc.bank.outputs i) i) "Output updated" s) := by
    unfold handleRequest
    rw [hend]
    dsimp only [handleApiOutputUpdate]
    rw [hindex]
    dsimp only
    rw [hused]
    rfl
  -- all that counts of the record is that it is a tweak of the old one
  have ht := tweaked_updatedOutput (i := i) hused hrewire
  generalize updatedOutput r.args (s.rc.bank.outputs i) i = record at hrun ht
  obtain ⟨hok, hsame⟩ :=
    rebuild_in_place (wiringOk_tweak hwired ht) (ownPinsAttach_tweak hattach ht)
  refine ⟨(editOutput b i record "Output updated" s).1,
    (editOutput b i record "Output updated" s).2, hrun, ?_⟩
  rcases editOutput_cases b i record "Output updated" s with ⟨-, hreply, hrc⟩ | ⟨msg, herr, -⟩
  · rw [hrc]
    refine ⟨hreply, fun j hj => ?_, ?_, servosAttached_rebuild hok⟩
    · exact (congrFun hsame j).trans (Function.update_of_ne hj ..)
    · have hrecord := (congrFun hsame i).trans (Function.update_self ..)
      exact hrecord.symm ▸ ht
  -- the way back is not taken
  · rw [hok] at herr
    cases herr

/-- An update that inverts the servo in the first slot. -/
def invertServo : Request where
  endpoint := .outputUpdate
  args p := match p with
    | .index => some (lit "0")
    | .type => some (lit "1")
    | .pin => some (lit "9")
    | .inverted => some (lit "1")
    | _ => none

/-- The servo on pin 5 is inverted and stays on pin 5. -/
theorem tweak_keeps_wiring_invert :
    ∃ s' reply, handleRequest smallBoard 0 invertServo { rc := { bank := oneServo 5 } }
        = .pure (s', reply) ∧ reply.ok = true ∧
      (∀ j, j ≠ 0 → s'.rc.bank.outputs j = (oneServo 5).outputs j) ∧
      Tweaked ((oneServo 5).outputs 0) (s'.rc.bank.outputs 0) ∧ ServosAttached s'.rc.bank :=
  have hwired : WiringOk smallBoard (oneServo 5).outputs := wiringOk_oneServo (by decide)
  tweak_keeps_wiring hwired (ownPinsAttach_of_reliable smallBoard_reliable hwired) rfl
    (by decide +kernel) rfl (by decide +kernel)

end RcController
