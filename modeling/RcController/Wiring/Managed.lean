import RcController.Wiring.Apply
import RcController.Wiring.Edit

/-!
# Records, flags and servos in step

A bank is managed when its table is wired and record, flag and servo of every channel
agree: a servo is attached exactly where the record is a used servo channel, to the
pin of the record, and the flag says so.

A successful apply makes a managed bank managed again, and so does every edit but one
(`managed_editOutput`). Deleting a servo channel is the exception: the release loop of
the rebuild looks at used records only, the record was reset before it, and the servo
stays attached (`not_managed_delete`).

The case that needs an argument is an edit that fails. The first rebuild must not have
attached the servo of a slot that is unused once the record is put back, because
nothing releases it then. It has not: a pass that set the edited slot up cannot fail
any more (`flag_rebuild_error`).
-/

namespace RcController

open FirstFit OutputBank

/-- Record, flag and servo of a slot agree. -/
structure Slot.Managed (x : Slot) : Prop where
  flag : x.flag = true ↔ x.record.UsedPwm
  servo : x.servo.pin = if x.record.UsedPwm then some x.record.pin else none

/-- The table is wired, and every slot is managed. -/
structure Managed (b : Board) (s : OutputBank) : Prop where
  wiring : WiringOk b s.outputs
  slots : ∀ i, (s.slot i).Managed

namespace Slot

/-- A slot with neither flag nor servo. -/
def Bare (x : Slot) : Prop := x.flag = false ∧ x.servo.pin = none

/-- A servo channel whose servo was attached to a pin is managed, and a bare
slot is when it is no servo channel. -/
theorem managed_onPin {x : Slot} (h : x.record.UsedPwm) (pin : Pin) : (x.onPin pin).Managed := by
  have hpwm : (x.onPin pin).record.UsedPwm := h
  exact ⟨iff_of_true rfl hpwm, (if_pos hpwm).symm⟩

theorem managed_of_bare {x : Slot} (h : ¬ x.record.UsedPwm) (hbare : x.Bare) : x.Managed := by
  refine ⟨iff_of_false (by simp [hbare.1]) h, ?_⟩
  rw [if_neg h, hbare.2]

/-- The other way round, what is no servo channel is bare in a managed bank. -/
theorem Managed.bare {x : Slot} (hx : x.Managed) (h : ¬ x.record.UsedPwm) : x.Bare := by
  refine ⟨?_, by rw [hx.servo, if_neg h]⟩
  by_contra hflag
  exact h (hx.flag.mp (by simpa using hflag))

/-- A clear flag in a managed slot means that nothing is attached. -/
theorem Managed.servo_of_flag {x : Slot} (hx : x.Managed) (hflag : x.flag = false) :
    x.servo.pin = none := by
  have hpwm : ¬ x.record.UsedPwm := fun h => by
    rw [hx.flag.mpr h] at hflag
    cases hflag
  exact (hx.bare hpwm).2

/-- Releasing leaves a slot bare when a clear flag means that nothing is
attached. -/
theorem bare_release {x : Slot} (h : x.flag = false → x.servo.pin = none) : x.release.Bare := by
  unfold Slot.release
  split
  · exact ⟨rfl, rfl⟩
  · next hflag =>
    have hclear : x.flag = false := by simpa using hflag
    exact ⟨hclear, h hclear⟩

/-- The release loop leaves a slot bare when a clear flag means that nothing is
attached, and it was bare before if it is unused. -/
theorem bare_released {x : Slot} (hflag : x.flag = false → x.servo.pin = none)
    (hunused : x.record.used = false → x.Bare) : x.released.Bare := by
  unfold Slot.released
  split
  · exact Slot.bare_release hflag
  · next hused => exact hunused (by simpa using hused)

/-- The release loop leaves a managed slot bare. -/
theorem Managed.bare_released {x : Slot} (hx : x.Managed) : x.released.Bare :=
  Slot.bare_released hx.servo_of_flag fun hused =>
    hx.bare (OutputChannelConfig.not_usedPwm_of_unused hused)

end Slot

namespace OutputBank

/-! ### A rebuild that succeeds -/

/-- After a successful rebuild a slot is managed when the release loop left it
bare. -/
theorem managed_rebuild_slot {b : Board} {s : OutputBank}
    (hok : (rebuildOutputHardware b s).2 = .ok ()) {j : OutputIdx}
    (hbare : (s.slot j).released.Bare) :
    ((rebuildOutputHardware b s).1.slot j).Managed := by
  have hrebuilt := slot_rebuild hok j
  by_cases hpwm : (s.slot j).record.UsedPwm
  · obtain ⟨pin, hpin⟩ := hrebuilt.servo hpwm
    rw [hpin]
    exact Slot.managed_onPin hpwm pin
  · rw [hrebuilt.other hpwm]
    refine Slot.managed_of_bare ?_ hbare
    rwa [Slot.record_released]

/-! ### A rebuild that fails -/

/-- A slot somewhere in a rebuild: it was released, or it was released and set
up. -/
def Midway (b : Board) (i : OutputIdx) (x y : Slot) : Prop :=
  y = x.released ∨ x.record.used = true ∧ ∃ c r, Setup b c i x.released y r

/-- Every slot is midway, however the rebuild ends. -/
theorem slot_rebuild_midway (b : Board) (s : OutputBank) (j : OutputIdx) :
    Midway b j (s.slot j) ((rebuildOutputHardware b s).1.slot j) := by
  rcases slot_rebuild_cases b s j with ⟨hsame, -⟩ | ⟨hused, c, r, hsetup, -⟩
  · exact .inl hsame
  · exact .inr ⟨hused, c, r, hsetup⟩

/-- A slot that was bare once released is never left with a servo and a clear
flag. -/
theorem Midway.servo {b : Board} {i : OutputIdx} {x y : Slot} (h : Midway b i x y)
    (hx : x.released.Bare) (hflag : y.flag = false) : y.servo.pin = none := by
  rcases h with rfl | ⟨hused, c, r, hsetup⟩
  · exact hx.2
  · cases hsetup with
    | placed _ _ => cases hflag
    | stale _ hset _ => rw [hx.1] at hset; cases hset
    | failed _ _ hpin =>
      by_contra hne
      have hsome := hpin (Option.isSome_iff_ne_none.mpr hne)
      rw [hx.2] at hsome
      cases hsome
    | level _ _ => exact hx.2
    | conflict _ _ => exact hx.2

/-- A slot that is not a used servo channel is only released. -/
theorem Midway.eq_of_not_usedPwm {b : Board} {i : OutputIdx} {x y : Slot} (h : Midway b i x y)
    (hpwm : ¬ x.record.UsedPwm) : y = x.released := by
  rcases h with rfl | ⟨hused, c, r, hsetup⟩
  · rfl
  · have hne : ¬ x.released.record.type = .pwm := by
      rw [Slot.record_released]
      exact fun htype => hpwm ⟨hused, htype⟩
    cases hsetup with
    | placed htype _ => exact absurd htype hne
    | stale htype _ _ => exact absurd htype hne
    | failed htype _ _ => exact absurd htype hne
    | level _ _ => rfl
    | conflict _ _ => rfl

/-- The rebuild after an edit of slot `e`, with the slots `l` still to do: their
flags are clear, and either the claims are those at the start or the table is
settled, as it is from the moment the edited slot is done. -/
structure EditMidway (b : Board) (s : OutputBank) (e : OutputIdx) (l : List OutputIdx)
    (t : OutputBank) : Prop where
  nodup : l.Nodup
  clear : FlagsClear l t
  phase : (claims t.outputs = claims s.outputs ∧ t.pwmAttached e = false) ∨
    Settled b.pool (claims t.outputs)

section EditMidway

variable {b : Board} {s t : OutputBank} {e i : OutputIdx} {is : List OutputIdx}

/-- So it is when the release loop is over. -/
theorem editMidway_releaseAll (b : Board) (hused : (s.outputs e).used = true) :
    EditMidway b s e (List.finRange kMaxOutputChannels) s.releaseAll where
  nodup := List.nodup_finRange _
  clear := flagsClear_releaseAll s _
  phase := .inl ⟨by rw [outputs_releaseAll],
    flagsClear_releaseAll s [e] e List.mem_cons_self (by rwa [outputs_releaseAll])⟩

/-- The edited slot is the one that settles the claims. -/
theorem settled_setupEdited (h : WiringOkBut b e s.outputs) (hused : (s.outputs e).used = true)
    (hok : (settleStep b.pool e (claims s.outputs)).2 = .ok ()) :
    Settled b.pool (settleStep b.pool e (claims s.outputs)).1 := by
  have hclaim : claims s.outputs e = some _ := OutputChannelConfig.claim_of_used hused
  cases hs : settle b.pool (claims s.outputs) e
      ⟨decide ((s.outputs e).type = .pwm), (s.outputs e).pin⟩ with
  | none =>
    rw [settleStep_of_stuck hclaim hs] at hok
    cases hok
  | some pin =>
    rw [settleStep_of_settle hclaim hs]
    exact h.update (not_taken_of_settle hs) fun hm => capable_of_settle hs hm

/-- A step that succeeds leads from the one to the other. -/
theorem EditMidway.step (hb : b.Reliable) (h : WiringOkBut b e s.outputs)
    (hused : (s.outputs e).used = true) (ht : EditMidway b s e (i :: is) t)
    (hok : (setupIfUsed b i t).2 = .ok ()) : EditMidway b s e is (setupIfUsed b i t).1 := by
  obtain ⟨hclaims, hiff⟩ := setupIfUsed_refines hb (ht.clear i List.mem_cons_self)
  obtain ⟨y, hy, -⟩ := setupIfUsed_repinned b i t
  refine ⟨(List.nodup_cons.mp ht.nodup).2, ht.clear.of_slot ht.nodup hy, ?_⟩
  rw [hclaims]
  -- the edited slot is still to come, or the table is settled already
  rcases ht.phase with ⟨hsame, hflag⟩ | hsettled
  · rw [hsame] at hiff ⊢
    by_cases hie : i = e
    · subst hie
      exact .inr (settled_setupEdited h hused (hiff.mp hok))
    · refine (settleStep_edit h i).imp (fun heq => ⟨heq, ?_⟩) And.right
      change ((setupIfUsed b i t).1.slot e).flag = false
      rw [hy, Function.update_of_ne (Ne.symm hie)]
      exact hflag
  · rw [settleStep_of_settled hsettled]
    exact .inr hsettled

/-- A setup that fails leaves the flag clear when it was. -/
theorem flag_setupIfUsed_error {msg : String} (hflag : t.pwmAttached e = false)
    (herr : (setupIfUsed b i t).2 = .error msg) : (setupIfUsed b i t).1.pwmAttached e = false := by
  change ((setupIfUsed b i t).1.slot e).flag = false
  by_cases hie : i = e
  · subst hie
    cases hu : (t.outputs i).used with
    | false =>
      rw [setupIfUsed_of_unused hu]
      exact hflag
    | true =>
      rw [setupIfUsed_of_used hu] at herr ⊢
      obtain ⟨y, hy, hsetup⟩ := setup_cases b hu
      rw [herr] at hsetup
      rw [hy, Function.update_self]
      -- the errors of a setup: no pin could be attached, or the pin is in use
      cases hsetup with
      | failed _ hset _ => exact hset
      | conflict _ _ => exact hflag
  · obtain ⟨y, hy, -⟩ := setupIfUsed_repinned b i t
    rw [hy, Function.update_of_ne (Ne.symm hie)]
    exact hflag

end EditMidway

/-- **A rebuild that fails has not attached the servo of the edited slot.**
Setting that slot up settles the table, and from a settled table no step
fails. -/
theorem flag_rebuild_error {b : Board} (hb : b.Reliable) {s : OutputBank} {e : OutputIdx}
    (h : WiringOkBut b e s.outputs) (hused : (s.outputs e).used = true) {msg : String}
    (herr : (rebuildOutputHardware b s).2 = .error msg) :
    (rebuildOutputHardware b s).1.pwmAttached e = false := by
  obtain ⟨i, is, t, ht, hfail, hlast⟩ := Pass.run_error (EditMidway b s e)
    (fun i is t ht hok => ht.step hb h hused hok) (editMidway_releaseAll b hused) herr
  rw [show rebuildOutputHardware b s = setupIfUsed b i t from hlast]
  rcases ht.phase with ⟨-, hflag⟩ | hsettled
  · exact flag_setupIfUsed_error hflag hfail
  · obtain ⟨-, hiff⟩ := setupIfUsed_refines hb (ht.clear i List.mem_cons_self)
    rw [hiff.mpr (by rw [settleStep_of_settled hsettled])] at hfail
    cases hfail

end OutputBank

/-! ### Edits -/

section Edit

variable {b : Board} {e : OutputIdx} {record : OutputChannelConfig} {message : String} {s : Sketch}

/-- An edit is of one slot. -/
theorem slot_edited (s : OutputBank) (e : OutputIdx) (record : OutputChannelConfig) (j : OutputIdx)
    (hj : j ≠ e) : (s.setOutput e record).slot j = s.slot j := by
  rw [slot_setOutput, Function.update_of_ne hj]

/-- The slots of a managed bank are bare once released, also after an edit,
unless the edit deleted a servo channel. -/
theorem bare_edited {bank : OutputBank} (h : Managed b bank)
    (hdel : record.used = true ∨ ¬ (bank.outputs e).UsedPwm) (j : OutputIdx) :
    ((bank.setOutput e record).slot j).released.Bare := by
  by_cases hje : j = e
  · subst hje
    rw [slot_setOutput, Function.update_self]
    refine Slot.bare_released (h.slots j).servo_of_flag fun hunused => ?_
    have hrecord : record.used = false := hunused
    exact (h.slots j).bare (hdel.resolve_left (by simp [hrecord]))
  · rw [slot_edited _ _ _ _ hje]
    exact (h.slots j).bare_released

/-- **Every edit but the deletion of a servo channel keeps a bank managed**,
whether it succeeds or is rejected. -/
theorem managed_editOutput (hb : b.Reliable) (h : Managed b s.rc.bank)
    (hdel : record.used = true ∨ ¬ (s.rc.bank.outputs e).UsedPwm) :
    Managed b (editOutput b e record message s).1.rc.bank := by
  refine ⟨(editOutput_wired hb h.wiring).1, fun j => ?_⟩
  have hbare := bare_edited h hdel
  rcases editOutput_cases b e record message s with ⟨hok, -, hrc⟩ | ⟨msg, herr, -, hrc⟩
  · rw [hrc]
    exact managed_rebuild_slot hok (hbare j)
  · -- the records are back, so the second rebuild succeeds
    have hback := setOutput_back hb h.wiring herr
    have hok := (rebuild_of_wired hb (by rw [hback]; exact h.wiring)).1
    rw [hrc]
    refine managed_rebuild_slot hok ?_
    have hmid := slot_rebuild_midway b (s.rc.bank.setOutput e record) j
    by_cases hje : j = e
    · subst hje
      have hservo := hmid.servo (hbare j)
      rw [slot_setOutput, Function.update_self]
      refine Slot.bare_released hservo fun _ => ?_
      -- nothing will release this slot, so the failed rebuild must not have attached it
      have hflag : ((rebuildOutputHardware b (s.rc.bank.setOutput j record)).1.slot j).flag
          = false := by
        cases hrecord : record.used with
        | true =>
          refine flag_rebuild_error hb (wiringOkBut_setOutput h.wiring j record) ?_ herr
          rw [show (s.rc.bank.setOutput j record).outputs j = record from Function.update_self ..]
          exact hrecord
        | false =>
          have hunused : ((s.rc.bank.setOutput j record).slot j).record.used = false := by
            rw [slot_setOutput, Function.update_self]
            exact hrecord
          rw [hmid.eq_of_not_usedPwm (OutputChannelConfig.not_usedPwm_of_unused hunused)]
          exact (hbare j).1
      exact ⟨hflag, hservo hflag⟩
    · rw [slot_edited _ _ _ _ hje] at hmid ⊢
      refine Slot.bare_released (hmid.servo (h.slots j).bare_released) fun hunused => ?_
      have hrep := rebuild_repinned b (s.rc.bank.setOutput e record) j
      have hold : (s.rc.bank.slot j).record.used = false := by
        rw [← slot_edited s.rc.bank e record j hje]
        exact hrep.used.symm.trans hunused
      rw [hmid.eq_of_not_usedPwm (OutputChannelConfig.not_usedPwm_of_unused hold)]
      exact (h.slots j).bare_released

/-- **Deleting a servo channel leaves its servo attached**, with the flag set,
in a slot that is not used any more. Nothing in the rebuild looks at an unused
slot. -/
theorem slot_delete_servo (hb : b.Reliable) (h : Managed b s.rc.bank)
    (hpwm : (s.rc.bank.outputs e).UsedPwm) (hrecord : record.used = false) :
    ((editOutput b e record message s).1.rc.bank.slot e).record.used = false ∧
      ((editOutput b e record message s).1.rc.bank.slot e).servo.pin
        = some (s.rc.bank.outputs e).pin := by
  have hunused : ((s.rc.bank.setOutput e record).slot e).record.used = false := by
    rw [slot_setOutput, Function.update_self]
    exact hrecord
  -- the table without the channel is wired, so the rebuild succeeds
  have hwired : WiringOk b (s.rc.bank.setOutput e record).outputs := by
    have hbut := wiringOkBut_setOutput h.wiring e record
    rw [wiringOk_iff]
    have hnone : claims (s.rc.bank.setOutput e record).outputs e = none :=
      OutputChannelConfig.claim_of_unused hunused
    rwa [WiringOkBut, Function.update_eq_self_iff.mpr hnone.symm] at hbut
  obtain ⟨hok, -⟩ := rebuild_of_wired hb hwired
  rcases editOutput_cases b e record message s with ⟨-, -, hrc⟩ | ⟨msg, herr, -, -⟩
  · have hother := (slot_rebuild hok e).other (OutputChannelConfig.not_usedPwm_of_unused hunused)
    rw [hrc, hother]
    unfold Slot.released
    rw [if_neg (by simp [hunused]), slot_setOutput, Function.update_self]
    refine ⟨hrecord, (h.slots e).servo.trans (if_pos ?_)⟩
    exact hpwm
  · rw [hok] at herr
    cases herr

end Edit

/-! ### Applies -/

section Apply

variable {b : Board} {cfg : PersistedConfig} {s : RcModel}

/-- The slots after the final failsafe are those of the channel loop, but for
pulses. -/
theorem slot_applied (hok : (applyTables b cfg s).2 = .ok ()) (j : OutputIdx) :
    (applyTables b cfg s).1.bank.slot j
      = ((s.bank.teardown.placeChannels b cfg).1.slot j).writeFailsafe := by
  obtain ⟨hheader, hplace⟩ := place_of_applyTables hok
  rw [applyTables_ok hheader hplace]
  exact slot_applyFailsafeAllOutputs _ j

/-- **A successful apply over clear flags leaves a wired table with every servo
attached.** -/
theorem applyTables_wired (hb : b.Reliable) (hclear : ∀ j, s.bank.teardown.pwmAttached j = false)
    (hok : (applyTables b cfg s).2 = .ok ()) :
    WiringOk b (applyTables b cfg s).1.bank.outputs ∧
      ServosAttached (applyTables b cfg s).1.bank := by
  obtain ⟨hheader, hplace⟩ := place_of_applyTables hok
  obtain ⟨⟨rest, hfollows⟩, hiff⟩ := place_refines_layout hb cfg hclear
  have hinv := LayoutInv.of_laysOut (hiff.mp hplace)
  -- the failsafe moves neither a record nor a flag nor a pin
  have hslot : ∀ j, ((applyTables b cfg s).1.bank.slot j).record = (layout b cfg).1.records j ∧
      ((layout b cfg).1.seated j = true →
        ((applyTables b cfg s).1.bank.slot j).flag = true ∧
        ((applyTables b cfg s).1.bank.slot j).servo.pin
          = some ((layout b cfg).1.records j).pin) := by
    intro j
    obtain ⟨hrecord, hflag, hpin⟩ :=
      Slot.writeFailsafe_fields ((s.bank.teardown.placeChannels b cfg).1.slot j)
    rw [slot_applied hok, hrecord, hflag, hpin]
    refine ⟨congrFun hfollows.records j, fun hseated => ?_⟩
    rw [hfollows.seated j hseated]
    exact ⟨rfl, rfl⟩
  have houtputs : (applyTables b cfg s).1.bank.outputs = (layout b cfg).1.records :=
    funext fun j => (hslot j).1
  rw [houtputs]
  refine ⟨hinv.wired, fun j hpwm => ?_⟩
  rw [houtputs] at hpwm ⊢
  exact (hslot j).2 ((hinv.seated j).mpr hpwm)

/-- **A successful apply makes a managed bank managed again.** -/
theorem managed_applyTables (hb : b.Reliable) (h : ∀ j, (s.bank.slot j).released.Bare)
    (hok : (applyTables b cfg s).2 = .ok ()) : Managed b (applyTables b cfg s).1.bank := by
  have hclear : ∀ j, s.bank.teardown.pwmAttached j = false := by
    intro j
    change (s.bank.teardown.slot j).flag = false
    rw [slot_teardown]
    exact (h j).1
  obtain ⟨hwired, hattached⟩ := applyTables_wired hb hclear hok
  refine ⟨hwired, fun j => ?_⟩
  by_cases hpwm : ((applyTables b cfg s).1.bank.slot j).record.UsedPwm
  · obtain ⟨hflag, hpin⟩ := hattached j hpwm
    exact ⟨iff_of_true hflag hpwm, hpin.trans (if_pos hpwm).symm⟩
  · refine Slot.managed_of_bare hpwm ?_
    -- the layout gave this channel no servo pin, so it is as the teardown left it
    obtain ⟨hheader, hplace⟩ := place_of_applyTables hok
    obtain ⟨⟨rest, hfollows⟩, hiff⟩ := place_refines_layout hb cfg hclear
    have hinv := LayoutInv.of_laysOut (hiff.mp hplace)
    obtain ⟨hrecord, hflag, hpin⟩ :=
      Slot.writeFailsafe_fields ((s.bank.teardown.placeChannels b cfg).1.slot j)
    rw [slot_applied hok, hrecord] at hpwm
    rw [slot_applied hok, Slot.Bare, hflag, hpin]
    have hseated : (layout b cfg).1.seated j = false := by
      by_contra hseated
      refine hpwm ?_
      rw [show ((s.bank.teardown.placeChannels b cfg).1.slot j).record
        = (layout b cfg).1.records j from congrFun hfollows.records j]
      exact (hinv.seated j).mp (by simpa using hseated)
    obtain ⟨hflag', hsame⟩ := hfollows.others j hseated
    rw [slot_teardown] at hflag' hsame
    have hnone : (s.bank.slot j).teardown.servo.pin = none := (h j).2
    refine ⟨hflag'.trans (h j).1, ?_⟩
    rcases hsame with hsame | hsame <;> rw [hsame, hnone]
    rfl

end Apply

/-! ### Putting the outputs back -/

namespace OutputBank

/-- The slot `restoreOld` writes before it sets a servo up. -/
theorem slot_restored (old : OutputIdx → OutputChannelConfig) (i : OutputIdx) (s : OutputBank) :
    (setAttached i false (setOutput i (old i) (releaseIfUsed i s))).slot
      = Function.update s.slot i ⟨old i, false, (s.slot i).released.servo⟩ := by
  rw [slot_setAttached, slot_setOutput, slot_releaseIfUsed]
  simp

/-- A channel that had no servo is not set up again. -/
theorem slot_restoreSlot_idle (b : Board) {old : OutputIdx → OutputChannelConfig}
    {oldPwm : OutputIdx → Bool} {i : OutputIdx} (h : ¬ ((old i).used = true ∧ oldPwm i = true))
    (s : OutputBank) :
    (restoreSlot b old oldPwm i s).slot
      = Function.update s.slot i ⟨old i, false, (s.slot i).released.servo⟩ := by
  have hself : (setAttached i false (setOutput i (old i) (releaseIfUsed i s))).outputs i = old i :=
    Function.update_self ..
  unfold restoreSlot
  dsimp only
  rw [hself, if_neg (by simpa using h), slot_restored]

/-- Into an unused table the rollback puts nothing: every channel is released
and reset. -/
theorem slot_restoreOld_unused (b : Board) {old : OutputIdx → OutputChannelConfig}
    {oldPwm : OutputIdx → Bool} (h : ∀ i, (old i).used = false) (s : OutputBank) (j : OutputIdx) :
    (s.restoreOld b old oldPwm).slot j = ⟨old j, false, (s.slot j).released.servo⟩ := by
  have hview := Pass.foldl_view slot (restoreSlot b old oldPwm)
    (fun i x => ⟨old i, false, x.released.servo⟩)
    (fun i s => slot_restoreSlot_idle b (by simp [h i]) s)
    (List.nodup_finRange kMaxOutputChannels) s j
  rw [if_pos (List.mem_finRange j)] at hview
  exact hview

end OutputBank

/-- **Applying to a blank bank leaves a managed one**, also when it fails. -/
theorem managed_applyTables_blank {b : Board} (hb : b.Reliable) {cfg : PersistedConfig}
    {s : RcModel}
    (hblank : s.bank = {}) : Managed b (applyTables b cfg s).1.bank := by
  have hbare : ∀ j, (s.bank.slot j).released.Bare := by
    intro j
    rw [hblank]
    exact ⟨rfl, rfl⟩
  have hmanaged : Managed b ({} : OutputBank) :=
    ⟨wiringOk_iff.mpr (settled_none _), fun _ => Slot.managed_of_bare (by simp [slot,
      OutputChannelConfig.UsedPwm]) ⟨rfl, rfl⟩⟩
  cases hok : (applyTables b cfg s).2 with
  | ok _ => exact managed_applyTables hb hbare hok
  | error e =>
    by_cases hheader : cfg.HeaderOk
    swap
    · rw [applyTables_badHeader hheader, hblank]
      exact hmanaged
    cases hplace : (s.bank.teardown.placeChannels b cfg).2 with
    | ok _ =>
      rw [applyTables_ok hheader hplace] at hok
      cases hok
    | error e' =>
      rw [applyTables_error hheader hplace]
      have hclear : ∀ j, s.bank.teardown.pwmAttached j = false := by
        intro j
        change (s.bank.teardown.slot j).flag = false
        rw [slot_teardown]
        exact (hbare j).1
      obtain ⟨⟨rest, hfollows⟩, -⟩ := place_refines_layout hb cfg hclear
      have hunused : ∀ i, (s.bank.outputs i).used = false := fun i => by rw [hblank]
      have hslot : ∀ j, ((s.bank.teardown.placeChannels b cfg).1.restoreOld b s.bank.outputs
          s.bank.pwmAttached).slot j = ⟨s.bank.outputs j, false, _⟩ :=
        slot_restoreOld_unused b hunused _
      have houtputs : ((s.bank.teardown.placeChannels b cfg).1.restoreOld b s.bank.outputs
          s.bank.pwmAttached).outputs = s.bank.outputs :=
        funext fun j => congrArg Slot.record (hslot j)
      refine ⟨by rw [houtputs, hblank]; exact hmanaged.wiring, fun j => ?_⟩
      rw [hslot]
      refine Slot.managed_of_bare (OutputChannelConfig.not_usedPwm_of_unused (hunused j)) ⟨rfl, ?_⟩
      cases hseated : (layout b cfg).1.seated j with
      | true =>
        -- the servo was attached by the channel loop, and is released with its record
        have hpwm := usedPwm_of_seated hseated
        rw [hfollows.seated j hseated]
        unfold Slot.released
        rw [if_pos hpwm.1]
        rfl
      | false =>
        obtain ⟨hflag, hsame⟩ := hfollows.others j hseated
        rw [slot_teardown] at hflag hsame
        have hnone : (s.bank.slot j).teardown.servo.pin = none := (hbare j).2
        refine (Slot.bare_released (fun _ => ?_) fun _ => ⟨hflag.trans (hbare j).1, ?_⟩).2 <;>
          rcases hsame with hsame | hsame <;> rw [hsame, hnone] <;> rfl

/-! ### Pins are exclusive -/

/-- **Pin exclusivity.** From a wired table whose flags mark the used servo
channels, a successful apply of any blob and every edit request, carried out or
rejected, leave a wired table with every servo attached to the pin of its
record. A request that is refused at once touches nothing, so that after it the
servos are attached if they were before. -/
theorem pin_exclusivity {b : Board} (hb : b.Reliable) {s : Sketch}
    (hwired : WiringOk b s.rc.bank.outputs)
    (hflag : ∀ i, s.rc.bank.pwmAttached i = true ↔ (s.rc.bank.outputs i).UsedPwm) :
    (∀ cfg plan nvs,
      let r := ((applyPersistedConfig b cfg s.rc).run nvsDevice plan nvs).1
      r.2 = .ok () → WiringOk b r.1.bank.outputs ∧ ServosAttached r.1.bank) ∧
    ∀ (r : Request) (millis : UInt32), r.endpoint.EditsOutput →
      ∃ s' reply, handleRequest b millis r s = .pure (s', reply) ∧
        WiringOk b s'.rc.bank.outputs ∧
        (ServosAttached s.rc.bank ∨ s' ≠ s → ServosAttached s'.rc.bank) := by
  constructor
  · intro cfg plan nvs r hok
    have hr : r = applyTables b cfg s.rc :=
      (applyPersistedConfig_always b cfg s.rc).run nvsDevice plan nvs
    have hclear := clear_teardown fun i hi => ((hflag i).mp hi).1
    rw [hr] at hok ⊢
    exact applyTables_wired hb hclear hok
  · intro r millis hr
    -- refused, the request changes nothing; otherwise the edit ends in a rebuild
    rcases handleRequest_edit b millis hr s with ⟨msg, -, hrun⟩ | ⟨e, record, msg, -, hrun⟩
    · refine ⟨s, _, hrun, hwired, fun h => ?_⟩
      exact h.resolve_right fun hne => hne rfl
    · obtain ⟨hwired', hattached⟩ := editOutput_wired hb hwired
      exact ⟨_, _, hrun, hwired', fun _ => hattached⟩

/-- One servo on the small board. -/
theorem pin_exclusivity_one_servo :
    (∀ cfg plan nvs,
      let r := ((applyPersistedConfig smallBoard cfg { bank := oneServo 4 }).run nvsDevice
        plan nvs).1
      r.2 = .ok () → WiringOk smallBoard r.1.bank.outputs ∧ ServosAttached r.1.bank) ∧
    ∀ (r : Request) (millis : UInt32), r.endpoint.EditsOutput →
      ∃ s' reply, handleRequest smallBoard millis r { rc := { bank := oneServo 4 } }
          = .pure (s', reply) ∧
        WiringOk smallBoard s'.rc.bank.outputs ∧
        (ServosAttached (oneServo 4) ∨ s' ≠ { rc := { bank := oneServo 4 } } →
          ServosAttached s'.rc.bank) :=
  pin_exclusivity smallBoard_reliable (s := { rc := { bank := oneServo 4 } })
    (wiringOk_oneServo (by decide)) (by decide)

end RcController
