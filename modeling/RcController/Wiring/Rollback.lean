import RcController.Wiring.Managed

/-!
# Rolling back a failed apply

`restoreOld` puts the old records back slot by slot and sets every servo up again as
soon as its record is back. While it works, the slots behind it hold the old table and
the slots ahead of it still hold the new one. `restoreOld_slot` says so of one slot;
the rest is bookkeeping.

So the rollback restores everything exactly when three things hold
(`rolledBack_iff`). No servo asks for a pin that a slot ahead of it was given by the
blob: it would be moved, or lost. No flag was set outside the used servo channels: the
rollback clears the flags and only those channels get theirs back. And no servo that
was attached without its flag, in a slot the teardown does not release, was moved by
the blob: it is released and not attached again.
-/

namespace RcController

open FirstFit OutputBank

/-- The tables, the flags and the servos are what they were. -/
structure RolledBack (s s' : RcModel) : Prop where
  inputs : s'.virtualInputs = s.virtualInputs
  outputs : s'.bank.outputs = s.bank.outputs
  flags : s'.bank.pwmAttached = s.bank.pwmAttached
  servos : ∀ i, (s'.bank.pwmOutputs i).pin = (s.bank.pwmOutputs i).pin

/-- **Nothing of the new table is in the way of the old one.** -/
structure Undisturbed (b : Board) (cfg : PersistedConfig) (s : OutputBank) : Prop where
  flags : ∀ i, s.pwmAttached i = true → (s.outputs i).UsedPwm
  pins : ∀ i j, s.pwmAttached i = true → i < j → ((layout b cfg).1.records j).used = true →
    ((layout b cfg).1.records j).pin ≠ (s.outputs i).pin
  servos : ∀ i, s.pwmAttached i = false → (s.pwmOutputs i).pin.isSome = true →
    (layout b cfg).1.seated i = false

namespace OutputBank

/-! ### One slot of the rollback -/

section RestoreSlot

variable {b : Board} {old : OutputIdx → OutputChannelConfig} {oldPwm : OutputIdx → Bool}
  {i : OutputIdx} {t : OutputBank}

/-- **One step of the rollback** puts the record back, clears the flag, and sets
the channel up again when it had one. -/
theorem restoreSlot_cases (b : Board) (old : OutputIdx → OutputChannelConfig)
    (oldPwm : OutputIdx → Bool) (i : OutputIdx) (t : OutputBank) :
    ∃ y, (restoreSlot b old oldPwm i t).slot = Function.update t.slot i y ∧
      (y = ⟨old i, false, (t.slot i).released.servo⟩ ∨
        (old i).used = true ∧ oldPwm i = true ∧
          ∃ c r, Setup b c i ⟨old i, false, (t.slot i).released.servo⟩ y r) := by
  by_cases h : (old i).used = true ∧ oldPwm i = true
  · have hself :
      (setAttached i false (setOutput i (old i) (releaseIfUsed i t))).outputs i = old i :=
      Function.update_self ..
    unfold restoreSlot
    dsimp only
    rw [hself, if_pos (by simp [h])]
    obtain ⟨y, hy, hsetup⟩ := setup_cases b (s := setAttached i false (setOutput i (old i)
      (releaseIfUsed i t))) (i := i) (by rw [hself]; exact h.1)
    rw [slot_restored, Function.update_self] at hsetup
    exact ⟨y, by rw [hy, slot_restored, Function.update_idem], .inr ⟨h.1, h.2, _, _, hsetup⟩⟩
  · exact ⟨_, slot_restoreSlot_idle b h t, .inl rfl⟩

/-- A servo that was flagged is set up again, among the claims the table has by
then. -/
theorem restoreSlot_eq_setup (hused : (old i).used = true) (hpwm : oldPwm i = true) :
    restoreSlot b old oldPwm i t
      = (setupOutputHardware b i
        (setAttached i false (setOutput i (old i) (releaseIfUsed i t)))).1 := by
  have hself : (setAttached i false (setOutput i (old i) (releaseIfUsed i t))).outputs i = old i :=
    Function.update_self ..
  unfold restoreSlot
  dsimp only
  rw [hself, if_pos (by simp [hused, hpwm])]

/-- The claims of the other slots while slot `i` is restored. -/
theorem settle_restored (c : OutputChannelConfig) (k : Claim Pin) :
    settle b.pool (claims (setAttached i false (setOutput i c (releaseIfUsed i t))).outputs) i k
      = settle b.pool (claims t.outputs) i k := by
  have houtputs : (releaseIfUsed i t).outputs = t.outputs := by
    rw [outputs_eq_of_slot (slot_releaseIfUsed i t), Slot.record_released]
    exact Function.update_eq_self i t.outputs
  have h := settle_setOutput (b := b) (i := i) (s := releaseIfUsed i t) c k
  rw [houtputs] at h
  exact h

/-- The claim of a record that is put back. -/
theorem claim_restored {c : OutputChannelConfig} (hused : c.used = true) :
    ((setAttached i false (setOutput i c (releaseIfUsed i t))).outputs i).claim
      = some c.usedClaim := claim_setOutput hused

/-- A flagged servo that settles is attached and flagged where it settles. -/
theorem restoreSlot_of_settle (hb : b.Reliable) (hpwm : (old i).UsedPwm) (hflag : oldPwm i = true)
    {pin : Pin} (hs : settle b.pool (claims t.outputs) i (old i).usedClaim = some pin) :
    (restoreSlot b old oldPwm i t).slot i = ⟨{ old i with pin := pin }, true,
      ⟨some pin, some (pwmFailsafeUs (old i).pwmFailsafeMode)⟩⟩ := by
  obtain ⟨-, hslot⟩ :=
    setup_of_settle hb (claim_restored hpwm.1) ((settle_restored _ _).trans hs)
  rw [restoreSlot_eq_setup hpwm.1 hflag, hslot, Function.update_self, slot_restored,
    Function.update_self, Slot.settled, if_pos (show (old i).type = .pwm from hpwm.2)]
  rfl

/-- A flagged servo that is stuck gets its record back, without the flag. -/
theorem restoreSlot_of_stuck (hb : b.Reliable) (hpwm : (old i).UsedPwm) (hflag : oldPwm i = true)
    (hs : settle b.pool (claims t.outputs) i (old i).usedClaim = none) :
    ∃ v, (restoreSlot b old oldPwm i t).slot i = ⟨old i, false, v⟩ := by
  obtain ⟨-, v, hslot, -⟩ :=
    setup_of_stuck hb (claim_restored hpwm.1) ((settle_restored _ _).trans hs)
      (by simp [setAttached])
  refine ⟨v, ?_⟩
  rw [restoreSlot_eq_setup hpwm.1 hflag, hslot, Function.update_self, slot_restored,
    Function.update_self]

/-- **A servo whose pin is free comes back to it.** -/
theorem restoreSlot_free (hb : b.Reliable) (hpwm : (old i).UsedPwm) (hflag : oldPwm i = true)
    (hcap : b.hasPwm (old i).pin = true) (hfree : ¬ Taken (claims t.outputs) i (old i).pin) :
    (restoreSlot b old oldPwm i t).slot i
      = ⟨old i, true, ⟨some (old i).pin, some (pwmFailsafeUs (old i).pwmFailsafeMode)⟩⟩ :=
  restoreSlot_of_settle hb hpwm hflag (settle_eq_self hfree fun _ => hcap)

/-- A servo whose pin is claimed comes back on another pin, or not at all. -/
theorem restoreSlot_taken (hb : b.Reliable) (hpwm : (old i).UsedPwm) (hflag : oldPwm i = true)
    (htaken : Taken (claims t.outputs) i (old i).pin) :
    ((restoreSlot b old oldPwm i t).slot i).record ≠ old i ∨
      ((restoreSlot b old oldPwm i t).slot i).flag = false := by
  cases hs : settle b.pool (claims t.outputs) i (old i).usedClaim with
  | some pin =>
    rw [restoreSlot_of_settle hb hpwm hflag hs]
    refine .inl fun heq => not_taken_of_settle hs ?_
    have hpin : pin = (old i).pin := congrArg OutputChannelConfig.pin heq
    rwa [hpin]
  | none =>
    obtain ⟨v, hslot⟩ := restoreSlot_of_stuck hb hpwm hflag hs
    rw [hslot]
    exact .inr rfl

/-- Only a used servo channel gets its flag back. -/
theorem flag_restoreSlot (h : ((restoreSlot b old oldPwm i t).slot i).flag = true) :
    (old i).UsedPwm ∧ oldPwm i = true := by
  obtain ⟨y, hy, hcases⟩ := restoreSlot_cases b old oldPwm i t
  rw [hy, Function.update_self] at h
  rcases hcases with rfl | ⟨hused, hpwm, c, r, hsetup⟩
  · cases h
  · refine ⟨⟨hused, ?_⟩, hpwm⟩
    cases hsetup with
    | placed hpwm _ => exact hpwm
    | stale hpwm _ _ => exact hpwm
    | failed _ _ _ => cases h
    | level _ _ => cases h
    | conflict _ _ => cases h

/-- **What one step of the rollback does to the record**: it comes back unless
it is a flagged servo that finds another pin than its own. -/
theorem record_restoreSlot_iff (hb : b.Reliable) :
    ((restoreSlot b old oldPwm i t).slot i).record = old i ↔
    ((old i).UsedPwm → oldPwm i = true → ∀ pin,
      pick b.pool (claims t.outputs) i (old i).pin = some pin → pin = (old i).pin) := by
  by_cases hset : (old i).UsedPwm ∧ oldPwm i = true
  · obtain ⟨hpwm, hflag⟩ := hset
    have hpick : settle b.pool (claims t.outputs) i (old i).usedClaim
        = pick b.pool (claims t.outputs) i (old i).pin := by
      simp [settle, OutputChannelConfig.usedClaim, show (old i).type = .pwm from hpwm.2]
    rw [← hpick]
    cases hs : settle b.pool (claims t.outputs) i (old i).usedClaim with
    | some pin =>
      rw [restoreSlot_of_settle hb hpwm hflag hs]
      constructor
      · intro heq _ _ q hq
        obtain rfl := Option.some.inj hq
        exact congrArg OutputChannelConfig.pin heq
      · intro hown
        rw [hown hpwm hflag pin rfl]
    | none =>
      -- stuck, the servo stays off, but its record is back
      obtain ⟨v, hslot⟩ := restoreSlot_of_stuck hb hpwm hflag hs
      rw [hslot]
      exact iff_of_true rfl fun _ _ _ h => (by cases h)
  · refine iff_of_true ?_ fun hpwm hflag => absurd ⟨hpwm, hflag⟩ hset
    obtain ⟨y, hy, hcases⟩ := restoreSlot_cases b old oldPwm i t
    rw [hy, Function.update_self]
    rcases hcases with rfl | ⟨hused, hflag, c, r, hsetup⟩
    · rfl
    · -- a switch is set up on the pin it asks for, or not at all
      cases hsetup with
      | placed hpwm _ => exact absurd ⟨⟨hused, hpwm⟩, hflag⟩ hset
      | stale _ _ _ => rfl
      | failed _ _ _ => rfl
      | level _ _ => rfl
      | conflict _ _ => rfl

end RestoreSlot

/-- **One slot of the rollback.** When slot `i` is restored, the slots ahead of
it are as the channel loop left them and the slots behind it are as the rollback
leaves them. -/
theorem restoreOld_slot (b : Board) (old : OutputIdx → OutputChannelConfig)
    (oldPwm : OutputIdx → Bool) (s : OutputBank) (i : OutputIdx) :
    ∃ t, (s.restoreOld b old oldPwm).slot i = (restoreSlot b old oldPwm i t).slot i ∧
      (∀ j, i ≤ j → t.slot j = s.slot j) ∧
      ∀ j, j < i → t.slot j = (s.restoreOld b old oldPwm).slot j := by
  obtain ⟨before, after, hsplit, hbefore⟩ := finRange_split i
  have hnodup := List.nodup_finRange kMaxOutputChannels
  rw [hsplit] at hnodup
  obtain ⟨t, hi, hahead, hbehind⟩ := Pass.foldl_step slot (restoreSlot b old oldPwm)
    (fun i t j hj => by
      obtain ⟨y, hy, -⟩ := restoreSlot_cases b old oldPwm i t
      rw [hy, Function.update_of_ne hj]) hnodup s
  rw [← hsplit] at hi hbehind
  refine ⟨t, hi, fun j hj => hahead j fun hmem => ?_, fun j hj => hbehind j ((hbefore j).mpr hj)⟩
  exact absurd ((hbefore j).mp hmem) (not_lt_of_ge hj)

/-- The records the rollback works on when it comes to slot `i`. -/
def halfRestored (old half : OutputIdx → OutputChannelConfig) (i : OutputIdx) :
    OutputIdx → OutputChannelConfig := fun j => if j < i then old j else half j

/-- **Every flagged servo comes back to its pin.** When the rollback comes to
it, the first choice among the old records behind it and the ones of the table
`half` ahead of it is its own pin, or there is none. -/
def RestoresPins (b : Board) (s : OutputBank) (half : OutputIdx → OutputChannelConfig) : Prop :=
  ∀ i, (s.outputs i).UsedPwm → s.pwmAttached i = true → ∀ pin,
    pick b.pool (claims (halfRestored s.outputs half i)) i (s.outputs i).pin = some pin →
      pin = (s.outputs i).pin

/-- **When a rollback puts every record back**, from any half-applied table. The
induction follows the loop: when slot `i` is restored, the records before it are
the old ones. -/
theorem outputs_restoreOld_iff {b : Board} (hb : b.Reliable) (s t : OutputBank) :
    (t.restoreOld b s.outputs s.pwmAttached).outputs = s.outputs ↔ RestoresPins b s t.outputs := by
  have hstep :
      ∀ i, (∀ j, j < i → ((t.restoreOld b s.outputs s.pwmAttached).outputs j) = s.outputs j) →
      ((t.restoreOld b s.outputs s.pwmAttached).outputs i = s.outputs i ↔
        ((s.outputs i).UsedPwm → s.pwmAttached i = true → ∀ pin,
          pick b.pool (claims (halfRestored s.outputs t.outputs i)) i (s.outputs i).pin = some pin →
            pin = (s.outputs i).pin)) := by
    intro i hbefore
    obtain ⟨u, hslot, hahead, hbehind⟩ := restoreOld_slot b s.outputs s.pwmAttached t i
    -- behind `i` the old records, at and ahead of it those of the blob
    have hrecords : u.outputs = halfRestored s.outputs t.outputs i := by
      funext j
      unfold halfRestored
      split
      · next hj => exact (congrArg Slot.record (hbehind j hj)).trans (hbefore j hj)
      · next hj => exact congrArg Slot.record (hahead j (not_lt.mp hj))
    rw [← hrecords, ← record_restoreSlot_iff hb, ← hslot]
    rfl
  constructor
  · intro hall i
    exact (hstep i fun j _ => congrFun hall j).mp (congrFun hall i)
  · intro hpins
    refine funext fun i => ?_
    induction i using WellFoundedLT.induction with
    | ind i ih => exact (hstep i ih).mpr (hpins i)

end OutputBank

/-! ### The whole rollback -/

section Rollback

variable {b : Board} {cfg : PersistedConfig} {s : OutputBank}

/-- The channel loop over a bank without stray flags follows the layout of the
blob. -/
theorem follows_of_flags (cfg : PersistedConfig) (hb : b.Reliable)
    (hflags : ∀ i, s.pwmAttached i = true → (s.outputs i).UsedPwm) :
    ∃ rest, Follows b s.teardown rest (s.teardown.placeChannels b cfg).1 (layout b cfg).1 :=
  (place_refines_layout hb cfg (clear_teardown fun i hi => (hflags i hi).1)).1

/-- A rollback that brings the flags back had none outside the used servo
channels. -/
theorem flags_of_rollback
    (h : ((s.teardown.placeChannels b cfg).1.restoreOld b s.outputs s.pwmAttached).pwmAttached
      = s.pwmAttached) (i : OutputIdx) (hi : s.pwmAttached i = true) : (s.outputs i).UsedPwm := by
  obtain ⟨t, hslot, -, -⟩ :=
    restoreOld_slot b s.outputs s.pwmAttached (s.teardown.placeChannels b cfg).1 i
  have hflag : ((restoreSlot b s.outputs s.pwmAttached i t).slot i).flag = true := by
    rw [← hslot]
    exact (congrFun h i).trans hi
  exact (flag_restoreSlot hflag).1

/-- **A rollback that restores everything was undisturbed.** -/
theorem Undisturbed.of_rolledBack (hb : b.Reliable)
    (hout : ((s.teardown.placeChannels b cfg).1.restoreOld b s.outputs s.pwmAttached).outputs
      = s.outputs)
    (hflag : ((s.teardown.placeChannels b cfg).1.restoreOld b s.outputs s.pwmAttached).pwmAttached
      = s.pwmAttached)
    (hservo : ∀ i,
      (((s.teardown.placeChannels b cfg).1.restoreOld b s.outputs s.pwmAttached).pwmOutputs i).pin
        = (s.pwmOutputs i).pin) : Undisturbed b cfg s := by
  have hflags := flags_of_rollback hflag
  obtain ⟨rest, hfollows⟩ := follows_of_flags cfg hb hflags
  refine ⟨hflags, fun i j hi hij hused hpin => ?_, fun i hi hsome => ?_⟩
  · -- slot `i` is restored while slot `j` still holds the channel of the blob
    obtain ⟨t, hslot, hahead, -⟩ :=
      restoreOld_slot b s.outputs s.pwmAttached (s.teardown.placeChannels b cfg).1 i
    have hrecord : t.outputs j = (layout b cfg).1.records j := by
      have hj : (t.slot j).record = _ := congrArg Slot.record (hahead j (le_of_lt hij))
      exact hj.trans (congrFun hfollows.records j)
    -- so the servo of slot `i` finds its pin claimed
    have htaken : Taken (claims t.outputs) i (s.outputs i).pin := by
      refine ⟨j, _, ne_of_gt hij, OutputChannelConfig.claim_of_used ?_, ?_⟩
      · rw [hrecord]
        exact hused
      · rw [hrecord]
        exact hpin
    rcases restoreSlot_taken hb (hflags i hi) hi htaken with hne | hclear
    · rw [← hslot] at hne
      exact hne (congrFun hout i)
    · rw [← hslot] at hclear
      have hset : s.pwmAttached i = false := (congrFun hflag i).symm.trans hclear
      rw [hi] at hset
      cases hset
  · -- a slot without a flag is released if the blob put a servo there, and then left alone
    by_contra hseated
    obtain ⟨t, hslot, hahead, -⟩ :=
      restoreOld_slot b s.outputs s.pwmAttached (s.teardown.placeChannels b cfg).1 i
    have hseated' : (layout b cfg).1.seated i = true := by simpa using hseated
    have hpwm := usedPwm_of_seated hseated'
    have hnone : (t.slot i).released.servo.pin = none := by
      rw [hahead i (le_refl i), hfollows.seated i hseated']
      unfold Slot.released
      rw [if_pos hpwm.1]
      rfl
    have hend := hservo i
    change (((s.teardown.placeChannels b cfg).1.restoreOld b s.outputs s.pwmAttached).slot
      i).servo.pin = _ at hend
    rw [hslot, slot_restoreSlot_idle b (by simp [hi]), Function.update_self] at hend
    rw [← hend] at hsome
    change (t.slot i).released.servo.pin.isSome = true at hsome
    rw [hnone] at hsome
    cases hsome

/-- The slot of a channel without a flag after the rollback: the servo is where
it was. -/
theorem servo_idle (hb : b.Reliable)
    (hcap : ∀ i p, (s.pwmOutputs i).pin = some p → b.hasPwm p = true)
    (h : Undisturbed b cfg s) {i : OutputIdx} (hi : s.pwmAttached i = false) :
    ((s.teardown.placeChannels b cfg).1.slot i).released.servo.pin = (s.pwmOutputs i).pin := by
  obtain ⟨rest, hfollows⟩ := follows_of_flags cfg hb h.flags
  cases hseated : (layout b cfg).1.seated i with
  | true =>
    have hnone : (s.pwmOutputs i).pin = none := by
      by_contra hne
      have hfree := h.servos i hi (Option.isSome_iff_ne_none.mpr hne)
      rw [hseated] at hfree
      cases hfree
    have hpwm := usedPwm_of_seated hseated
    rw [hfollows.seated i hseated, hnone]
    unfold Slot.released
    rw [if_pos hpwm.1]
    rfl
  | false =>
    obtain ⟨hflag, hsame⟩ := hfollows.others i hseated
    -- neither the teardown nor the rollback releases a slot without a flag
    have hkeep : ∀ x : Slot, x.flag = false → x.released.servo = x.servo := by
      intro x hx
      unfold Slot.released Slot.release
      simp [hx]
    have hteardown : (s.teardown.slot i).servo = s.pwmOutputs i := by
      rw [slot_teardown]
      exact hkeep (s.slot i) hi
    have hclear : (s.teardown.slot i).flag = false :=
      clear_teardown (fun i hi => (h.flags i hi).1) i
    rw [hkeep _ (hflag.trans hclear)]
    rw [SamePin, hteardown] at hsame
    rcases hsame with hsame | hsame
    · exact hsame
    · rw [hsame]
      cases hpin : (s.pwmOutputs i).pin with
      | none => rfl
      | some p => simp [Option.filter, hcap i p hpin]

/-- **An undisturbed rollback restores every slot.** The induction follows the
loop: when slot `i` is restored, the slots before it are. -/
theorem Undisturbed.restored (hb : b.Reliable) (hwired : WiringOk b s.outputs)
    (hservo : ∀ i, (s.outputs i).UsedPwm → (s.pwmOutputs i).pin = some (s.outputs i).pin)
    (hcap : ∀ i p, (s.pwmOutputs i).pin = some p → b.hasPwm p = true)
    (h : Undisturbed b cfg s) (i : OutputIdx) :
    let y := (s.teardown.placeChannels b cfg).1.restoreOld b s.outputs s.pwmAttached
    (y.slot i).record = s.outputs i ∧ (y.slot i).flag = s.pwmAttached i ∧
      (y.slot i).servo.pin = (s.pwmOutputs i).pin := by
  intro y
  obtain ⟨rest, hfollows⟩ := follows_of_flags cfg hb h.flags
  induction i using WellFoundedLT.induction with
  | ind i ih =>
    obtain ⟨t, hslot, hahead, hbehind⟩ :=
      restoreOld_slot b s.outputs s.pwmAttached (s.teardown.placeChannels b cfg).1 i
    cases hi : s.pwmAttached i with
    | false =>
      -- without a flag the slot is only released
      have hidle : (restoreSlot b s.outputs s.pwmAttached i t).slot = _ :=
        slot_restoreSlot_idle b (by simp [hi]) t
      rw [show y.slot i = _ from hslot, hidle, Function.update_self, hahead i (le_refl i)]
      exact ⟨rfl, rfl, servo_idle hb hcap h hi⟩
    | true =>
      have hpwm := h.flags i hi
      have hfree : ¬ Taken (claims t.outputs) i (s.outputs i).pin := by
        rintro ⟨j, k, hne, hj, hpin⟩
        obtain ⟨hused, rfl⟩ := OutputChannelConfig.claim_eq_some.mp hj
        rcases lt_or_gt_of_ne hne with hlt | hgt
        · -- a slot that is restored already holds its old record
          have hrecord : t.outputs j = s.outputs j :=
            (congrArg Slot.record (hbehind j hlt)).trans (ih j hlt).1
          rw [hrecord] at hused hpin
          exact hne (hwired.distinct j i hused hpwm.1 hpin)
        · -- a slot ahead still holds the channel of the blob, which is not in the way
          have hrecord : t.outputs j = (layout b cfg).1.records j :=
            (congrArg Slot.record (hahead j (le_of_lt hgt))).trans (congrFun hfollows.records j)
          rw [hrecord] at hused hpin
          exact h.pins i j hi hgt hused hpin
      rw [show y.slot i = _ from hslot, restoreSlot_free hb hpwm hi (hwired.capable i hpwm) hfree]
      exact ⟨rfl, rfl, (hservo i hpwm).symm⟩

end Rollback

/-- **When a failed apply rolls back.** The tables, the flags and the servos
come back exactly when the header of the blob was rejected or nothing of the
blob was in the way. A servo is only ever attached to a pin with PWM (`hcap`),
since `Servo::attach` refuses any other. -/
theorem rolledBack_iff {b : Board} (hb : b.Reliable) {cfg : PersistedConfig} {s : RcModel}
    (hwired : WiringOk b s.bank.outputs)
    (hservo : ∀ i, (s.bank.outputs i).UsedPwm →
      (s.bank.pwmOutputs i).pin = some (s.bank.outputs i).pin)
    (hcap : ∀ i p, (s.bank.pwmOutputs i).pin = some p → b.hasPwm p = true)
    (plan : DeviceProg.Prog.Plan nvsInterface) (nvs : NvsStore) {e : String}
    (herr : ((applyPersistedConfig b cfg s).run nvsDevice plan nvs).1.2 = .error e) :
    RolledBack s ((applyPersistedConfig b cfg s).run nvsDevice plan nvs).1.1 ↔
      ¬ cfg.HeaderOk ∨ Undisturbed b cfg s.bank := by
  have hrun : ((applyPersistedConfig b cfg s).run nvsDevice plan nvs).1 = applyTables b cfg s :=
    (applyPersistedConfig_always b cfg s).run nvsDevice plan nvs
  rw [hrun] at herr ⊢
  by_cases hheader : cfg.HeaderOk
  swap
  · rw [applyTables_badHeader hheader]
    -- nothing was touched
    exact iff_of_true ⟨rfl, rfl, rfl, fun _ => rfl⟩ (.inl hheader)
  cases hplace : (s.bank.teardown.placeChannels b cfg).2 with
  | ok _ =>
    rw [applyTables_ok hheader hplace] at herr
    cases herr
  | error e' =>
    rw [applyTables_error hheader hplace]
    constructor
    · intro h
      exact .inr (.of_rolledBack hb h.outputs h.flags h.servos)
    · intro h
      have hrestored := (h.resolve_left (not_not.mpr hheader)).restored hb hwired hservo hcap
      exact ⟨rfl, funext fun i => (hrestored i).1, funext fun i => (hrestored i).2.1,
        fun i => (hrestored i).2.2⟩

/-! ### A blob that clashes with itself -/

/-- A blob with a servo and a switch on one pin. Its second channel cannot be
placed. -/
def clashBlob (pin : Pin) : PersistedConfig :=
  { builtinHeader with
    channels := fun i =>
      if i = 1 then { used := 1, pin := pin }
      else if i = 2 then { used := 1, type := ChannelType.switch.toByte, pin := pin }
      else {} }

/-- The clash is on pin 5, the servo on pin 4 comes back. -/
theorem rolledBack_iff_other_pin :
    RolledBack { bank := oneServo 4 } ((applyPersistedConfig smallBoard (clashBlob 5)
        { bank := oneServo 4 }).run nvsDevice (fun _ _ => false) {}).1.1 ↔
      ¬ (clashBlob 5).HeaderOk ∨ Undisturbed smallBoard (clashBlob 5) (oneServo 4) :=
  rolledBack_iff smallBoard_reliable (s := { bank := oneServo 4 }) (wiringOk_oneServo (by decide))
    (by decide) (by decide +kernel) (fun _ _ => false) {}
    (e := "Invalid preset: Pin already used") (by decide +kernel)

/-- The clash is on the pin of the servo: the apply fails, and the servo is on
pin 5 after it. -/
theorem rollback_moves_servo :
    WiringOk smallBoard (oneServo 4).outputs ∧
      (∀ i, ((oneServo 4).outputs i).UsedPwm → (oneServo 4).pwmAttached i = true ∧
        ((oneServo 4).pwmOutputs i).pin = some ((oneServo 4).outputs i).pin) ∧
      let r := ((applyPersistedConfig smallBoard (clashBlob 4) { bank := oneServo 4 }).eval
        nvsDevice {}).1
      r.2.isOk = false ∧ (r.1.bank.outputs 0).pin = 5 ∧ ((oneServo 4).outputs 0).pin = 4 :=
  ⟨wiringOk_oneServo (by decide), by decide, by decide +kernel⟩

end RcController
