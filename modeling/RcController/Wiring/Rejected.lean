import RcController.Wiring.Edit
import RcController.Wiring.Capacity

/-!
# A rejected edit on a board with few PWM channels

On a board that attaches every servo a rebuild that fails has moved nothing
(`rebuild_edit_error`). With few PWM channels it may fail at a slot behind the edited one,
for want of a channel, and by then a servo before it may have made way for the new record
(`GivesWay`). The handler puts the record back and rebuilds, and the servo stays where it
went, unless that is the pin the edited channel had and the rebuild sends it home
(`Returns`).

`output_edit_rejected_iff` says so of the requests; the passes are those of the library
(`limited_edit_back_iff`).
-/

namespace RcController

open FirstFit DeviceProg OutputBank

/-- The servo of slot `i` gives way to the new record in slot `e`: it is set up
earlier, it is on the pin that the record asks for, there is a channel left for
it, and `pin` is the first one free. -/
structure GivesWay (b : Board) (C : ℕ) (s : OutputBank) (e : OutputIdx)
    (record : OutputChannelConfig)
    (i : OutputIdx) (pin : Pin) : Prop where
  before : i < e
  servo : (s.outputs i).UsedPwm
  clash : (s.outputs i).pin = record.pin
  room : (Finset.univ.filter fun j => (s.outputs j).UsedPwm ∧ j < i).card < C
  free : firstAvailablePwmPin b i (s.setOutput e record) = some pin

/-- The second rebuild sends it back: what it moved to is the pin the edited
channel had, and of the pins free in the old table its own is the first. -/
def Returns (b : Board) (s : OutputBank) (e i : OutputIdx) (pin : Pin) : Prop :=
  (s.outputs e).used = true ∧ (s.outputs e).pin = pin ∧
    firstAvailablePwmPin b i s = some (s.outputs i).pin

namespace OutputBank

/-- The servos that are attached are those of the used servo channels, each on
the pin of its record. -/
structure ServosMatch (s : OutputBank) : Prop where
  servos : ServosAttached s
  others : ∀ i, ¬ (s.outputs i).UsedPwm → (s.pwmOutputs i).pin = none

/-- Then each of them has its flag. -/
theorem ServosMatch.flagged {s : OutputBank} (h : ServosMatch s) : Flagged s := by
  intro i hi
  by_cases hpwm : (s.outputs i).UsedPwm
  · exact (h.servos i hpwm).1
  · rw [h.others i hpwm] at hi
    cases hi

/-- The slot of an unused channel is left alone by a rebuild. -/
theorem slot_rebuild_unused (b : Board) {s : OutputBank} {j : OutputIdx}
    (h : (s.outputs j).used = false) : (rebuildOutputHardware b s).1.slot j = s.slot j := by
  rcases slot_rebuild_cases b s j with ⟨hsame, -⟩ | ⟨hused, -⟩
  · exact hsame.trans (Slot.released_of_unused h)
  · rw [show (s.slot j).record.used = false from h] at hused
    cases hused

section Back

variable {b : Board} {C : ℕ} {s : OutputBank} {e i : OutputIdx} {record : OutputChannelConfig}

/-- The bank between the two rebuilds of a rejected edit. -/
def putBack (b : Board) (s : OutputBank) (e : OutputIdx) (record : OutputChannelConfig) :
    OutputBank :=
  (rebuildOutputHardware b (s.setOutput e record)).1.setOutput e (s.outputs e)

/-- An edit changes one record, which is then the new one. -/
theorem outputs_setOutput_of_ne {j : OutputIdx} (hj : j ≠ e) :
    (s.setOutput e record).outputs j = s.outputs j := Function.update_of_ne hj _ _

theorem outputs_setOutput_self : (s.setOutput e record).outputs e = record :=
  Function.update_self ..

/-- Putting a record back moves nothing by itself: the records differ in pins
only. -/
theorem putBack_repinned (b : Board) (s : OutputBank) (e : OutputIdx) (record : OutputChannelConfig)
    (j : OutputIdx) : Repinned (s.outputs j) ((putBack b s e record).outputs j) := by
  unfold putBack
  by_cases hj : j = e
  · rw [hj, outputs_setOutput_self]
    exact .refl _
  · rw [outputs_setOutput_of_ne hj]
    have h := rebuild_repinned b (s.setOutput e record) j
    rwa [outputs_setOutput_of_ne hj] at h

/-- The servos attached before slot `i` is set up, while an edited record is in
a later slot. -/
theorem servosBefore_edited (h : ServosMatch s) (hused : record.used = true) (hi : i < e) :
    (s.setOutput e record).servosBefore i
      = Finset.univ.filter fun j => (s.outputs j).UsedPwm ∧ j < i := by
  ext j
  unfold servosBefore
  rw [Finset.mem_filter, Finset.mem_filter]
  refine and_congr_right fun _ => ?_
  -- the edited slot is not before itself, and the others are as they were
  by_cases hje : j = e
  · rw [hje, outputs_setOutput_self, hused]
    refine iff_of_false ?_ fun hj => lt_asymm hi hj.2
    rintro (⟨-, hlt⟩ | ⟨hunused, -⟩)
    · exact lt_asymm hi hlt
    · cases hunused
  · rw [outputs_setOutput_of_ne hje]
    refine or_iff_left ?_
    rintro ⟨hunused, hsome⟩
    have hnot : ¬ (s.outputs j).UsedPwm := OutputChannelConfig.not_usedPwm_of_unused hunused
    have hnone : ((s.setOutput e record).pwmOutputs j).pin = none := h.others j hnot
    rw [hnone] at hsome
    cases hsome

/-- The same number of servos is attached once the old record is back, when it
was in use: what the failed rebuild attached to slot `e` is released. -/
theorem servosBefore_putBack (b : Board) (h : ServosMatch s)
    (hold : (s.outputs e).used = true) (hi : i < e) :
    (putBack b s e record).servosBefore i
      = Finset.univ.filter fun j => (s.outputs j).UsedPwm ∧ j < i := by
  ext j
  unfold servosBefore
  rw [Finset.mem_filter, Finset.mem_filter]
  refine and_congr_right fun _ => ?_
  rw [(putBack_repinned b s e record j).usedPwm, (putBack_repinned b s e record j).used]
  refine or_iff_left ?_
  rintro ⟨hunused, hsome⟩
  -- a slot that is not in use holds no servo, and `e` was in use
  have hje : j ≠ e := by
    rintro rfl
    rw [hold] at hunused
    cases hunused
  have hnot : ¬ (s.outputs j).UsedPwm := OutputChannelConfig.not_usedPwm_of_unused hunused
  have hslot := slot_rebuild_unused b (s := s.setOutput e record) (j := j)
    (by rw [outputs_setOutput_of_ne hje, hunused])
  have hnone : ((putBack b s e record).pwmOutputs j).pin = none :=
    (congrArg (fun x => x.servo.pin) hslot).trans (h.others j hnot)
  rw [hnone] at hsome
  cases hsome

/-- The claims with the edited record, and those after the old one was put
back. -/
theorem claims_edited (s : OutputBank) (e : OutputIdx) (hused : record.used = true) :
    claims (s.setOutput e record).outputs
      = Function.update (claims s.outputs) e (some ⟨decide (record.type = .pwm), record.pin⟩) := by
  rw [← OutputChannelConfig.claim_of_used hused]
  exact claims_update ..

/-- After the old record was put back it claims its old pin. -/
theorem claims_putBack (b : Board) (s : OutputBank) (e : OutputIdx)
    (record : OutputChannelConfig) :
    claims (putBack b s e record).outputs
      = Function.update (claims (rebuildOutputHardware b (s.setOutput e record)).1.outputs) e
          (claims s.outputs e) := claims_update ..

/-- The records are back when their claims are. -/
theorem outputs_putBack_iff_claims (b : Board) (s : OutputBank) (e : OutputIdx)
    (record : OutputChannelConfig) :
    (rebuildOutputHardware b (putBack b s e record)).1.outputs = s.outputs ↔
      claims (rebuildOutputHardware b (putBack b s e record)).1.outputs = claims s.outputs := by
  refine ⟨congrArg claims, fun hclaims => funext fun j => ?_⟩
  exact ((putBack_repinned b s e record j).trans (rebuild_repinned b _ j)).eq_of_claim
    (congrFun hclaims j)

/-- There is room for a servo before the edited slot when few of the old ones
are before it. -/
theorem roomFor_edited (h : ServosMatch s) (hused : record.used = true) (hi : i < e) :
    (s.setOutput e record).roomFor C i
      = decide ((Finset.univ.filter fun j => (s.outputs j).UsedPwm ∧ j < i).card < C) := by
  unfold roomFor
  rw [servosBefore_edited h hused hi]

/-- Fewer servos are attached when an earlier slot is set up. -/
theorem roomFor_edited_mono (h : ServosMatch s) (hused : record.used = true) {j : OutputIdx}
    (hj : j < i) (hi : i < e) (hroom : (s.setOutput e record).roomFor C i = true) :
    (s.setOutput e record).roomFor C j = true := by
  rw [roomFor_edited h hused hi] at hroom
  rw [roomFor_edited h hused (hj.trans hi)]
  refine decide_eq_true (lt_of_le_of_lt (Finset.card_le_card fun k hk => ?_)
    (of_decide_eq_true hroom))
  obtain ⟨hmem, hpwm, hkj⟩ := Finset.mem_filter.mp hk
  exact Finset.mem_filter.mpr ⟨hmem, hpwm, hkj.trans hj⟩

/-- On the way back the slots before the edited one find the room they had on
the way there. -/
theorem roomFor_putBack (b : Board) (h : ServosMatch s) (hused : record.used = true)
    (hsome : (claims s.outputs e).isSome = true) (hi : i < e) :
    (putBack b s e record).roomFor C i = (s.setOutput e record).roomFor C i := by
  have hold : (s.outputs e).used = true := by
    by_contra hunused
    have hnone : claims s.outputs e = none :=
      OutputChannelConfig.claim_of_unused (by simpa using hunused)
    rw [hnone] at hsome
    cases hsome
  unfold roomFor
  rw [servosBefore_putBack b h hold hi, servosBefore_edited h hused hi]

/-- **When the records are back after the edit and its way back.** The two
rebuilds are limited passes with the same room before the edited slot, and the
library says when two such passes leave no trace. -/
theorem outputs_putBack_iff (hcap : b.Capacity C) (hwired : WiringOk b s.outputs)
    (h : ServosMatch s) (hused : record.used = true) :
    (rebuildOutputHardware b (putBack b s e record)).1.outputs = s.outputs ↔
      ∀ i pin, GivesWay b C s e record i pin → Returns b s e i pin := by
  obtain ⟨before, after, hsplit, hbefore⟩ := finRange_split e
  have hnodup := List.nodup_finRange kMaxOutputChannels
  have hsorted := List.pairwise_lt_finRange kMaxOutputChannels
  rw [hsplit] at hnodup hsorted
  have hflagged : Flagged (s.setOutput e record) := h.flagged
  have hflagged' : Flagged (putBack b s e record) := flagged_rebuild b hflagged
  have hless : before.Pairwise fun j i => (s.setOutput e record).roomFor C i = true →
      (s.setOutput e record).roomFor C j = true :=
    (List.pairwise_append.mp hsorted).1.imp_of_mem fun _ hi hlt =>
      roomFor_edited_mono h hused hlt ((hbefore _).mp hi)
  have hsame : (claims s.outputs e).isSome = true → ∀ i ∈ before,
      (putBack b s e record).roomFor C i = (s.setOutput e record).roomFor C i :=
    fun hsome i hi => roomFor_putBack b h hused hsome ((hbefore i).mp hi)
  -- both rebuilds are passes of the library, over the slots before and after the edited one
  rw [outputs_putBack_iff_claims, rebuild_limited hcap hflagged', claims_putBack,
    rebuild_limited hcap hflagged, claims_edited s e hused, hsplit,
    limited_edit_back_iff (wiringOk_iff.mp hwired) hnodup hless hsame]
  constructor
  · intro hall i pin hgives
    have hclaim : claims s.outputs i = some _ := OutputChannelConfig.claim_of_used hgives.servo.1
    have hroom : (s.setOutput e record).roomFor C i = true :=
      (roomFor_edited h hused hgives.before).trans (decide_eq_true hgives.room)
    have hfree := hgives.free
    rw [firstAvailablePwmPin_eq, claims_edited s e hused] at hfree
    obtain ⟨⟨l, hl, hres⟩, hown⟩ := hall i ((hbefore i).mpr hgives.before) _ pin
      ⟨hclaim, by simp [hgives.servo.2], hgives.clash, hroom, hfree⟩
    obtain ⟨hold, rfl⟩ := OutputChannelConfig.claim_eq_some.mp hl
    exact ⟨hold, hres, (firstAvailablePwmPin_eq b i s).trans hown⟩
  · intro hall i hi k pin hd
    obtain ⟨hui, rfl⟩ := OutputChannelConfig.claim_eq_some.mp hd.claim
    have hlt := (hbefore i).mp hi
    have hroom := of_decide_eq_true ((roomFor_edited h hused hlt).symm.trans hd.room)
    obtain ⟨hold, hpin, hown⟩ := hall i pin
      ⟨hlt, ⟨hui, of_decide_eq_true hd.movable⟩, hd.clash, hroom,
        by rw [firstAvailablePwmPin_eq, claims_edited s e hused]; exact hd.found⟩
    rw [firstAvailablePwmPin_eq] at hown
    exact ⟨⟨_, OutputChannelConfig.claim_of_used hold, hpin⟩, hown⟩

end Back

end OutputBank

/-! ### Requests -/

/-- **When a rejected `output_add` or `output_update` leaves every record as it
was**: no servo gives way to the new record, or the one that does returns. The
servos of the used channels are attached before the request, and no others. -/
theorem output_edit_rejected_iff {b : Board} {C : ℕ} (hcap : b.Capacity C) {s s' : Sketch}
    {r : Request}
    {millis : UInt32} {reply : Reply} (hwired : WiringOk b s.rc.bank.outputs)
    (hservos : ServosMatch s.rc.bank) (hr : r.endpoint = .outputAdd ∨ r.endpoint = .outputUpdate)
    (hrun : handleRequest b millis r s = .pure (s', reply)) (hrejected : reply.ok = false) :
    s'.rc.bank.outputs = s.rc.bank.outputs ↔
      ∀ e record, r.outputEdit s = some (e, record) →
        ∀ i pin, GivesWay b C s.rc.bank e record i pin → Returns b s.rc.bank e i pin := by
  have hedits : r.endpoint.EditsOutput := hr.imp id .inl
  have hdel : r.endpoint ≠ .outputDelete := by
    rcases hr with h | h <;> rw [h] <;> exact Endpoint.noConfusion
  rcases handleRequest_edit b millis hedits s
    with ⟨msg, hnone, hrefused⟩ | ⟨e, record, msg, hedit, hrun'⟩
  · -- refused before anything is written
    rw [hrun] at hrefused
    obtain ⟨rfl, -⟩ := Prod.mk.inj (Prog.pure.inj hrefused)
    refine iff_of_true rfl fun e record hsome => ?_
    rw [hnone] at hsome
    cases hsome
  have hpair := Prog.pure.inj (hrun.symm.trans hrun')
  have hstate : s' = (editOutput b e record msg s).1 := congrArg Prod.fst hpair
  have hreply : reply = (editOutput b e record msg s).2 := congrArg Prod.snd hpair
  rcases editOutput_cases b e record msg s with ⟨-, hok, -⟩ | ⟨e', -, -, hrc⟩
  · rw [hreply, hok] at hrejected
    cases hrejected
  rw [hstate, hrc]
  refine (outputs_putBack_iff hcap hwired hservos (Request.outputEdit_used hdel hedit)).trans ?_
  -- the request has one record only
  refine ⟨fun hall e' record' hsome => ?_, fun hall => hall e record hedit⟩
  obtain ⟨rfl, rfl⟩ := Prod.mk.inj (Option.some.inj (hedit.symm.trans hsome))
  exact hall

/-! ### One PWM channel -/

/-- A board with the pins of the small one and a single PWM channel. -/
def oneChannelBoard : Board := { smallBoard with
  attachOk := fun servos i _ =>
    decide ((Finset.univ.filter fun j => j ≠ i ∧ (servos j).isSome = true).card < 1) }

/-- One servo is all it attaches. -/
theorem oneChannelBoard_capacity : oneChannelBoard.Capacity 1 := fun _ _ _ _ => rfl

/-- One servo, attached. -/
theorem servosMatch_oneServo (pin : Pin) : ServosMatch (oneServo pin) where
  servos i hpwm := by
    have hi : i = 0 := by
      by_contra hne
      simp [oneServo, hne, OutputChannelConfig.UsedPwm] at hpwm
    subst hi
    exact ⟨rfl, rfl⟩
  others i hpwm := by
    have hi : i ≠ 0 := by
      rintro rfl
      exact hpwm ⟨rfl, rfl⟩
    simp [oneServo, hi]

/-- A second servo on pin 4 is rejected, and the one on pin 5 stays. -/
theorem output_edit_rejected_iff_free_pin :
    (handleApiOutputAdd oneChannelBoard (addServo "4").args
        { rc := { bank := oneServo 5 } }).1.rc.bank.outputs = (oneServo 5).outputs ↔
      ∀ e record, (addServo "4").outputEdit { rc := { bank := oneServo 5 } } = some (e, record) →
        ∀ i pin, GivesWay oneChannelBoard 1 (oneServo 5) e record i pin →
          Returns oneChannelBoard (oneServo 5) e i pin :=
  output_edit_rejected_iff oneChannelBoard_capacity (s := { rc := { bank := oneServo 5 } })
    (wiringOk_oneServo (by decide)) (servosMatch_oneServo 5) (.inl rfl)
    (show handleRequest oneChannelBoard 0 (addServo "4") { rc := { bank := oneServo 5 } } = .pure _
      from rfl) (by decide +kernel)

/-- A second servo on pin 4 is rejected, and the first one, which was there, is
on pin 5 after it. -/
theorem rejected_add_moves_servo :
    oneChannelBoard.Capacity 1 ∧ WiringOk oneChannelBoard (oneServo 4).outputs ∧
      ServosMatch (oneServo 4) ∧
      let x :=
        handleApiOutputAdd oneChannelBoard (addServo "4").args { rc := { bank := oneServo 4 } }
      x.2.ok = false ∧ ((oneServo 4).outputs 0).pin = 4 ∧ (x.1.rc.bank.outputs 0).pin = 5 ∧
        x.1.rc.bank.outputs ≠ (oneServo 4).outputs := by
  refine ⟨oneChannelBoard_capacity, wiringOk_oneServo (by decide), servosMatch_oneServo 4,
    by decide +kernel, rfl, by decide +kernel, fun hsame => ?_⟩
  have hpin := congrArg OutputChannelConfig.pin (congrFun hsame 0)
  exact absurd hpin (by decide +kernel)

end RcController
