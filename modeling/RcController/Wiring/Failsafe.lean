import RcController.Wiring.Rollback

/-!
# The failsafe through edits and applies

While failsafe is reported, the last pulse of every servo of a used channel has to be
its failsafe pulse, and the pin of every used switch has to be LOW
(`FailsafeWritten`). The control loop restores this when it writes the failsafe; the
API handlers have to keep it while they take the hardware apart.

Two facts carry the argument, on any board.

* A servo is written only when its flag is set. So a servo attached to a used servo
  channel must have its flag (`Slot.Linked`). This is kept by every handler, and it is
  an invariant of its own, since it has to hold when failsafe sets in. It is not kept
  half-way: in the middle of a failed apply an old servo only is `Slot.Tracked`, and a
  rejected edit can leave the edited slot unlinked until the record is back.
* No handler writes a pin HIGH (`KeepsLow`), and none moves a switch. So a switch that
  was LOW stays LOW, also when a rollback does not set it up again.
-/

namespace RcController

open FirstFit OutputBank

/-! ### Slots -/

namespace Slot

/-- A servo that is attached has its flag. -/
def Tracked (x : Slot) : Prop := x.flag = false → x.servo.pin = none

/-- The same, if the record is a used servo channel. -/
def Linked (x : Slot) : Prop := x.record.UsedPwm → x.Tracked

/-- If the record is a used servo channel and a servo is attached, the last
pulse is that of its failsafe. -/
def Safe (x : Slot) : Prop :=
  x.record.UsedPwm → x.servo.pin.isSome = true → x.servo.pulse = some x.failsafeUs

/-- A slot with its flag is linked, and so is one without a servo. -/
theorem linked_of_flag {x : Slot} (h : x.flag = true) : x.Linked := by
  intro _ hclear
  rw [h] at hclear
  cases hclear

theorem linked_of_bare {x : Slot} (h : x.servo.pin = none) : x.Linked := fun _ _ => h

/-- Without a servo there is no pulse to speak of. -/
theorem safe_of_bare {x : Slot} (h : x.servo.pin = none) : x.Safe := by
  intro _ hsome
  rw [h] at hsome
  cases hsome

/-- Nothing is asked of a slot that is no used servo channel, of its pulse
neither. -/
theorem linked_of_not_usedPwm {x : Slot} (h : ¬ x.record.UsedPwm) : x.Linked := fun hpwm =>
  absurd hpwm h

theorem safe_of_not_usedPwm {x : Slot} (h : ¬ x.record.UsedPwm) : x.Safe := fun hpwm =>
  absurd hpwm h

/-- The release loop detaches a tracked servo of a channel in use. -/
theorem released_bare {x : Slot} (h : x.Tracked) (hused : x.record.used = true) :
    x.released.Bare := by
  unfold Slot.released
  rw [if_pos hused]
  exact Slot.bare_release h

/-- Releasing detaches and clears the flag together. -/
theorem tracked_released {x : Slot} (h : x.Tracked) : x.released.Tracked := by
  cases hused : x.record.used with
  | true => exact fun _ => (released_bare h hused).2
  | false =>
    unfold Slot.released
    rw [if_neg (by simp [hused])]
    exact h

/-- **Writing the failsafe** brings a linked slot to its failsafe pulse. It is
written when the flag is set, and a linked slot without the flag has no
servo. -/
theorem safe_writeFailsafe {x : Slot} (h : x.Linked) : x.writeFailsafe.Safe := by
  by_cases hdriven : x.Driven
  · rw [Slot.writeFailsafe_of_driven hdriven]
    exact fun _ _ => rfl
  · rw [Slot.writeFailsafe_of_not_driven hdriven]
    intro hpwm hsome
    -- the servo is attached, so its flag is set, and it was written after all
    refine absurd ⟨hpwm, ?_, hsome⟩ hdriven
    by_contra hflag
    have hnone := h hpwm (by simpa using hflag)
    rw [hnone] at hsome
    cases hsome

/-- It leaves flag and servo alone. -/
theorem linked_writeFailsafe {x : Slot} (h : x.Linked) : x.writeFailsafe.Linked := by
  obtain ⟨hrecord, hflag, hpin⟩ := Slot.writeFailsafe_fields x
  unfold Slot.Linked Slot.Tracked
  rw [hrecord, hflag, hpin]
  exact h

end Slot

namespace OutputBank

section SetupSlot

variable {b : Board} {c : Claims OutputIdx Pin} {i : OutputIdx} {x y : Slot}
  {r : Except String Unit}

/-- A setup sets the flag of the servo it attaches. -/
theorem Setup.tracked (h : Setup b c i x y r) (hx : x.Tracked) : y.Tracked := by
  cases h with
  | placed _ _ => exact fun hflag => by cases hflag
  | stale _ hset _ => exact fun hflag => by rw [hset] at hflag; cases hflag
  | failed _ hflag hpin =>
    intro _
    by_contra hne
    have hsome := hpin (Option.isSome_iff_ne_none.mpr hne)
    rw [hx hflag] at hsome
    cases hsome
  | level _ _ => exact hx
  | conflict _ _ => exact hx

/-- Set up from a slot without a servo, a channel ends at its failsafe pulse or
without one. -/
theorem Setup.safe (h : Setup b c i x y r) (hx : x.servo.pin = none) : y.Safe := by
  cases h with
  | placed _ _ => exact fun _ _ => rfl
  | stale _ _ hpulse => exact fun _ hsome => hpulse hsome
  | failed _ _ hpin =>
    intro _ hsome
    have hsome' := hpin hsome
    rw [hx] at hsome'
    cases hsome'
  | level _ _ => exact Slot.safe_of_bare hx
  | conflict _ _ => exact Slot.safe_of_bare hx

/-- A servo channel that was set up has its flag. -/
theorem Setup.flag (h : Setup b c i x y (.ok ())) (hpwm : y.record.UsedPwm) : y.flag = true := by
  cases h with
  | placed _ _ => rfl
  | stale _ hset _ => exact hset
  | level hswitch _ => exact absurd hpwm (OutputChannelConfig.not_usedPwm_of_switch hswitch)

/-- A switch is not moved. -/
theorem Setup.switch (h : Setup b c i x y r) (hswitch : x.record.type = .switch) : y = x := by
  cases h with
  | placed hpwm _ => rw [hswitch] at hpwm; cases hpwm
  | stale hpwm _ _ => rw [hswitch] at hpwm; cases hpwm
  | failed hpwm _ _ => rw [hswitch] at hpwm; cases hpwm
  | level _ _ => rfl
  | conflict _ _ => rfl

end SetupSlot

/-! ### Slots in the middle of a rebuild -/

section MidwaySlot

variable {b : Board} {i : OutputIdx} {x y : Slot}

/-- In the middle of a rebuild a servo has its flag. -/
theorem Midway.tracked (h : Midway b i x y) (hx : x.Tracked) : y.Tracked := by
  rcases h with rfl | ⟨hused, c, r, hsetup⟩
  · exact Slot.tracked_released hx
  · exact hsetup.tracked (Slot.tracked_released hx)

/-- In the middle of a rebuild a record has at most another pin, and so a linked
slot is linked. -/
theorem Midway.repinned (h : Midway b i x y) : Repinned x.record y.record := by
  rcases h with rfl | ⟨hused, c, r, hsetup⟩
  · rw [Slot.record_released]
    exact .refl _
  · have hrep := hsetup.repinned (by rwa [Slot.record_released])
    rwa [Slot.record_released] at hrep

theorem Midway.linked (h : Midway b i x y) (hx : x.Linked) : y.Linked := fun hpwm =>
  h.tracked (hx (h.repinned.usedPwm.mp hpwm))

/-- **A rebuild leaves every linked slot at its failsafe pulse**, however it
ends. A used servo channel was released first, so it has no servo or one that
was set up, and setting up writes the failsafe. -/
theorem Midway.safe (h : Midway b i x y) (hx : x.Linked) : y.Safe := by
  intro hpwm
  have hpwm' := h.repinned.usedPwm.mp hpwm
  have hbare := Slot.released_bare (hx hpwm') hpwm'.1
  rcases h with rfl | ⟨hused, c, r, hsetup⟩
  · exact Slot.safe_of_bare hbare.2 hpwm
  · exact hsetup.safe hbare.2 hpwm

/-- A switch is not moved by a rebuild. -/
theorem Midway.switch (h : Midway b i x y) (hswitch : y.record.UsedSwitch) :
    y.record = x.record := by
  have hnot : ¬ x.record.UsedPwm := fun hpwm =>
    OutputChannelConfig.not_usedPwm_of_switch hswitch.2 (h.repinned.usedPwm.mpr hpwm)
  rw [h.eq_of_not_usedPwm hnot, Slot.record_released]

end MidwaySlot

/-! ### Pins -/

/-- No pin that was LOW is anything else. -/
def KeepsLow (s s' : OutputBank) : Prop := ∀ p, s.gpio p = some false → s'.gpio p = some false

/-- Doing nothing keeps them low, one thing after another does, and so does what
touches no pin. -/
theorem KeepsLow.refl (s : OutputBank) : KeepsLow s s := fun _ h => h

theorem KeepsLow.trans {s s' s'' : OutputBank} (h : KeepsLow s s') (h' : KeepsLow s' s'') :
    KeepsLow s s'' := fun p hp => h' p (h p hp)

theorem KeepsLow.of_gpio {s s' : OutputBank} (h : s'.gpio = s.gpio) : KeepsLow s s' := by
  intro p hp
  rw [h]
  exact hp

/-- A write of LOW does no harm. -/
theorem keepsLow_digitalWrite (pin : Pin) (s : OutputBank) :
    KeepsLow s (digitalWrite pin false s) := by
  intro p hp
  change Function.update s.gpio pin (some false) p = _
  by_cases hpin : p = pin
  · subst hpin
    exact Function.update_self ..
  · rw [Function.update_of_ne hpin]
    exact hp

/-- The failsafe of a switch is LOW. -/
theorem gpio_writeFailsafe_switch {i : OutputIdx} {s : OutputBank} (h : (s.outputs i).UsedSwitch) :
    (writeFailsafeForOutput i s).gpio (s.outputs i).pin = some false := by
  have hused : (s.outputs i).used = true := h.1
  have htype : (s.outputs i).type = .switch := h.2
  unfold writeFailsafeForOutput
  rw [hused, htype]
  exact Function.update_self ..

/-- So the failsafe of an output keeps the pins low. -/
theorem keepsLow_writeFailsafeForOutput (i : OutputIdx) (s : OutputBank) :
    KeepsLow s (writeFailsafeForOutput i s) := by
  unfold writeFailsafeForOutput
  split
  · exact .refl s
  · split
    · refine .of_gpio ?_
      change (if _ then _ else _ : OutputBank).gpio = _
      split
      · exact aside_gpio.writeMicroseconds _ _ _
      · rfl
    · exact keepsLow_digitalWrite _ s

/-- The setup of an output keeps them low, and makes the pin of a switch LOW. -/
theorem keepsLow_setupOutputHardware (b : Board) (i : OutputIdx) (s : OutputBank) :
    KeepsLow s (setupOutputHardware b i s).1 := by
  cases htype : (s.outputs i).type with
  | pwm =>
    rw [setupOutputHardware_pwm htype]
    -- the search attaches servos and writes no level
    have hsearch : (searchPin b i (setPeriodHertz b i s)).gpio = s.gpio :=
      (aside_gpio.searchPin b i _).trans (aside_gpio.setPeriodHertz b i s)
    dsimp only
    split
    · exact (KeepsLow.of_gpio hsearch).trans (keepsLow_writeFailsafeForOutput i _)
    · exact .of_gpio hsearch
  | switch =>
    unfold setupOutputHardware
    rw [htype]
    dsimp only
    split
    · exact .refl s
    · exact (keepsLow_digitalWrite _ s).trans (keepsLow_writeFailsafeForOutput i _)

/-- A switch that was set up is LOW. -/
theorem gpio_setup_switch {b : Board} {i : OutputIdx} {s : OutputBank}
    (h : (s.outputs i).UsedSwitch) (hok : (setupOutputHardware b i s).2 = .ok ()) :
    (setupOutputHardware b i s).1.gpio (s.outputs i).pin = some false := by
  have htype : (s.outputs i).type = .switch := h.2
  unfold setupOutputHardware at hok ⊢
  rw [htype] at hok ⊢
  dsimp only at hok ⊢
  split
  · next htaken =>
    rw [if_pos htaken] at hok
    cases hok
  · refine keepsLow_writeFailsafeForOutput i _ _ ?_
    exact Function.update_self ..

/-! ### The loops -/

/-- A rebuild sets up the channels in use, its release loop writes no pin, and
so all of it keeps the pins low. -/
theorem keepsLow_setupIfUsed (b : Board) (i : OutputIdx) (s : OutputBank) :
    KeepsLow s (setupIfUsed b i s).1 := by
  unfold setupIfUsed
  split
  · exact .refl s
  · exact keepsLow_setupOutputHardware b i s

theorem gpio_releaseAll (s : OutputBank) : s.releaseAll.gpio = s.gpio := by
  refine Pass.foldl_keeps (fun t : OutputBank => t.gpio = s.gpio) (fun i t ht => ?_) _ rfl
  exact (aside_gpio.releaseIfUsed i t).trans ht

theorem keepsLow_rebuild (b : Board) (s : OutputBank) :
    KeepsLow s (rebuildOutputHardware b s).1 := by
  refine Pass.run_invariant (fun t : OutputBank => KeepsLow s t) (fun i t ht => ?_) _ ?_
  · exact ht.trans (keepsLow_setupIfUsed b i t)
  · exact .of_gpio (gpio_releaseAll s)

/-- After a rebuild that succeeds every used switch is LOW. -/
theorem gpio_rebuild_switch {b : Board} {s : OutputBank}
    (hok : (rebuildOutputHardware b s).2 = .ok ()) (j : OutputIdx)
    (hj : ((rebuildOutputHardware b s).1.outputs j).UsedSwitch) :
    (rebuildOutputHardware b s).1.gpio ((rebuildOutputHardware b s).1.outputs j).pin
      = some false := by
  let motive : List OutputIdx → OutputBank → Prop := fun l t => l.Nodup ∧
    ∀ j, j ∉ l → (t.outputs j).UsedSwitch → t.gpio (t.outputs j).pin = some false
  have hstep : ∀ i is t, motive (i :: is) t → (setupIfUsed b i t).2 = .ok () →
      motive is (setupIfUsed b i t).1 := by
    rintro i is t ⟨hnodup, ht⟩ hi
    obtain ⟨hnot, hnodup'⟩ := List.nodup_cons.mp hnodup
    refine ⟨hnodup', fun j hj hswitch => ?_⟩
    obtain ⟨y, hy, hrep⟩ := setupIfUsed_repinned b i t
    -- the switch set up by this step is written LOW, the earlier ones stay LOW
    by_cases hji : j = i
    · subst hji
      cases hused : (t.outputs j).used with
      | false =>
        rw [setupIfUsed_of_unused hused] at hswitch
        rw [hswitch.1] at hused
        cases hused
      | true =>
        rw [setupIfUsed_of_used hused] at hi hswitch ⊢
        obtain ⟨y, hy, hsetup⟩ := setup_cases b hused
        have hrecord : (setupOutputHardware b j t).1.outputs j = y.record := by
          rw [outputs_eq_of_slot hy, Function.update_self]
        have hrep' := hsetup.repinned hused
        have hswitch' : (t.outputs j).type = .switch := by
          have htype := hswitch.2
          rw [hrecord, hrep'.eq] at htype
          exact htype
        rw [hrecord, hsetup.switch hswitch']
        exact gpio_setup_switch ⟨hused, hswitch'⟩ hi
    · have hsame : (setupIfUsed b i t).1.outputs j = t.outputs j := by
        rw [outputs_eq_of_slot hy, Function.update_of_ne hji]
      rw [hsame] at hswitch ⊢
      refine keepsLow_setupIfUsed b i t _ (ht j ?_ hswitch)
      simpa [hji] using hj
  have hend : motive [] (rebuildOutputHardware b s).1 :=
    Pass.run_ok motive hstep ⟨List.nodup_finRange _,
      fun j hj => absurd (List.mem_finRange j) hj⟩ hok
  exact hend.2 j List.not_mem_nil hj

/-- Writing the failsafe of all outputs brings every used switch LOW. -/
theorem gpio_applyFailsafe_switch {s : OutputBank} {i : OutputIdx} (h : (s.outputs i).UsedSwitch) :
    s.applyFailsafeAllOutputs.gpio (s.outputs i).pin = some false := by
  obtain ⟨before, after, hsplit, -⟩ := finRange_split i
  have hrecords : (before.foldl (fun t j => writeFailsafeForOutput j t) s).outputs = s.outputs := by
    refine Pass.foldl_keeps (fun t : OutputBank => t.outputs = s.outputs) (fun j t ht => ?_) _ rfl
    exact (outputs_writeFailsafeForOutput j t).trans ht
  unfold applyFailsafeAllOutputs
  rw [hsplit, List.foldl_append, List.foldl_cons]
  -- slot `i` is written LOW in its turn, and the slots after it keep it
  refine Pass.foldl_keeps (fun t : OutputBank => t.gpio (s.outputs i).pin = some false)
    (fun j t ht => keepsLow_writeFailsafeForOutput j t _ ht) _ ?_
  rw [← hrecords]
  exact gpio_writeFailsafe_switch (by rw [hrecords]; exact h)

/-! ### Banks -/

/-- Every slot of a bank is linked. -/
def Linked (s : OutputBank) : Prop := ∀ i, (s.slot i).Linked

/-- What has to hold while the failsafe is reported: the last pulse of every
servo of a used channel is its failsafe pulse, and the pin of every used switch
is LOW. -/
structure FailsafeWritten (s : OutputBank) : Prop where
  servos : ∀ i, (s.outputs i).UsedPwm → s.attached i = true →
    (s.pwmOutputs i).pulse = some (pwmFailsafeUs (s.outputs i).pwmFailsafeMode)
  switches : ∀ i, (s.outputs i).UsedSwitch → s.gpio (s.outputs i).pin = some false

/-- It is a property of the slots and of the pins. -/
theorem FailsafeWritten.of_safe {s : OutputBank} (h : ∀ i, (s.slot i).Safe)
    (hlow : ∀ i, (s.outputs i).UsedSwitch → s.gpio (s.outputs i).pin = some false) :
    FailsafeWritten s := ⟨h, hlow⟩

/-- What a handler makes of a linked bank: it is linked again with every slot at
its failsafe pulse, and the switches that were LOW are. -/
structure Kept (s s' : OutputBank) : Prop where
  linked : Linked s'
  safe : ∀ i, (s'.slot i).Safe
  switches : FailsafeWritten s → ∀ i, (s'.outputs i).UsedSwitch →
    s'.gpio (s'.outputs i).pin = some false

/-- So it keeps the failsafe. -/
theorem Kept.failsafeWritten {s s' : OutputBank} (h : Kept s s') (hs : FailsafeWritten s) :
    FailsafeWritten s' := .of_safe h.safe (h.switches hs)

/-- **The failsafe of all outputs**, from any linked bank. -/
theorem failsafeWritten_applyFailsafe {s : OutputBank} (h : Linked s) :
    Linked s.applyFailsafeAllOutputs ∧ FailsafeWritten s.applyFailsafeAllOutputs := by
  refine ⟨fun i => ?_, .of_safe (fun i => ?_) fun i hi => ?_⟩
  · rw [slot_applyFailsafeAllOutputs]
    exact Slot.linked_writeFailsafe (h i)
  · rw [slot_applyFailsafeAllOutputs]
    exact Slot.safe_writeFailsafe (h i)
  · rw [outputs_applyFailsafeAllOutputs] at hi ⊢
    exact gpio_applyFailsafe_switch hi

end OutputBank

/-! ### Edits -/

section Edit

variable {s : Sketch}

/-- After a rebuild that succeeds every slot is linked and at its failsafe,
whatever it was. -/
theorem kept_rebuild_ok {b : Board} {s s' : OutputBank}
    (hok : (rebuildOutputHardware b s').2 = .ok ()) :
    Kept s (rebuildOutputHardware b s').1 := by
  have hslot : ∀ j, ((rebuildOutputHardware b s').1.slot j).Linked ∧
      ((rebuildOutputHardware b s').1.slot j).Safe := by
    intro j
    -- after a rebuild that succeeds the slot is a servo with its flag, or it is bare
    have hrebuilt := slot_rebuild hok j
    by_cases hpwm : (s'.slot j).record.UsedPwm
    · obtain ⟨pin, hpin⟩ := hrebuilt.servo hpwm
      rw [hpin]
      exact ⟨Slot.linked_of_flag rfl, fun _ _ => rfl⟩
    · have hnot : ¬ ((rebuildOutputHardware b s').1.slot j).record.UsedPwm := by
        rw [hrebuilt.other hpwm, Slot.record_released]
        exact hpwm
      exact ⟨Slot.linked_of_not_usedPwm hnot, Slot.safe_of_not_usedPwm hnot⟩
  exact ⟨fun j => (hslot j).1, fun j => (hslot j).2, fun _ j hj => gpio_rebuild_switch hok j hj⟩

/-- The slots between the two rebuilds of a rejected edit: the record is the old
one, and what was linked is linked. -/
theorem slot_rejected (b : Board) (e : OutputIdx) (record : OutputChannelConfig)
    (h : Linked s.rc.bank) (j : OutputIdx) :
    let t := (rebuildOutputHardware b (s.rc.bank.setOutput e record)).1.setOutput e
      (s.rc.bank.outputs e)
    (t.slot j).Linked ∧ ((t.outputs j).UsedSwitch → t.outputs j = s.rc.bank.outputs j) := by
  intro t
  have hmid := slot_rebuild_midway b (s.rc.bank.setOutput e record) j
  by_cases hje : j = e
  · subst hje
    rw [slot_setOutput, Function.update_self] at hmid
    have hslot : t.slot j = { (rebuildOutputHardware b (s.rc.bank.setOutput j record)).1.slot j with
        record := s.rc.bank.outputs j } := by
      rw [slot_setOutput, Function.update_self]
    have hself : t.outputs j = s.rc.bank.outputs j := congrArg Slot.record hslot
    refine ⟨fun hpwm => ?_, fun _ => hself⟩
    -- the first rebuild saw another record, but a tracked servo stays tracked under any
    have htracked : (s.rc.bank.slot j).Tracked := h j (by
      change (t.outputs j).UsedPwm at hpwm
      rwa [hself] at hpwm)
    rw [hslot]
    exact hmid.tracked htracked
  · rw [slot_edited _ _ _ _ hje] at hmid
    have hslot : t.slot j = (rebuildOutputHardware b (s.rc.bank.setOutput e record)).1.slot j :=
      slot_edited _ _ _ _ hje
    refine ⟨?_, fun hswitch => ?_⟩
    · rw [hslot]
      exact hmid.linked (h j)
    · have hrecord : t.outputs j
          = ((rebuildOutputHardware b (s.rc.bank.setOutput e record)).1.slot j).record :=
        congrArg Slot.record hslot
      rw [hrecord] at hswitch ⊢
      exact hmid.switch hswitch

/-- **An edit keeps the failsafe**, whether it succeeds or is rejected. A
rejected edit ends in a rebuild too, from a bank in which the edited slot may be
unlinked until its old record is back. -/
theorem kept_editOutput (b : Board) (e : OutputIdx) (record : OutputChannelConfig)
    (message : String) (h : Linked s.rc.bank) :
    Kept s.rc.bank (editOutput b e record message s).1.rc.bank := by
  rcases editOutput_cases b e record message s with ⟨hok, -, hrc⟩ | ⟨msg, -, -, hrc⟩
  · rw [hrc]
    exact kept_rebuild_ok hok
  · rw [hrc]
    have hslots := slot_rejected b e record h
    generalize hback : (rebuildOutputHardware b (s.rc.bank.setOutput e record)).1.setOutput e
      (s.rc.bank.outputs e) = t at hslots ⊢
    have hmid := slot_rebuild_midway b t
    refine ⟨fun j => (hmid j).linked (hslots j).1, fun j => (hmid j).safe (hslots j).1,
      fun hs j hj => ?_⟩
    -- no record of a switch changed, and no pin was written HIGH
    have hrecord : (rebuildOutputHardware b t).1.outputs j = t.outputs j := (hmid j).switch hj
    rw [hrecord] at hj ⊢
    have hold := (hslots j).2 hj
    rw [hold] at hj ⊢
    have hlow : KeepsLow s.rc.bank (rebuildOutputHardware b t).1 := by
      refine KeepsLow.trans ?_ (keepsLow_rebuild b t)
      rw [← hback]
      exact keepsLow_rebuild b (s.rc.bank.setOutput e record)
    exact hlow _ (hs.switches j hj)

end Edit

/-! ### Applies -/

namespace OutputBank

/-- What one iteration of the channel loop does to a slot: it is left alone, or
it gets a used record and is set up at most once. When the iteration succeeds, a
servo has its flag. -/
theorem place_tracked (b : Board) (pc : PersistedChannel) (i : OutputIdx) (s : OutputBank) :
    ∃ y, (placeChannel b pc i s).1.slot = Function.update s.slot i y ∧
      (y = s.slot i ∨ y.record.used = true ∧ ((s.slot i).Tracked → y.Tracked)) ∧
      ((placeChannel b pc i s).2 = .ok () → y = s.slot i ∨ (y.record.UsedPwm → y.flag = true)) := by
  obtain ⟨y, hy, hcases⟩ := place_cases b pc i s
  refine ⟨y, hy, ?_⟩
  rcases hcases with hsame | ⟨-, ⟨rfl, hfail⟩ | ⟨c, r, hrep, ⟨_, hsetup⟩, hr⟩⟩
  · exact ⟨.inl hsame, fun _ => .inl hsame⟩
  · exact ⟨.inr ⟨rfl, fun h => h⟩, fun hok => absurd hok hfail⟩
  · have hused : c.used = true := hrep.used.trans (decodeChannel_used pc)
    refine ⟨.inr ⟨(hsetup.repinned hused).used.trans hused, hsetup.tracked⟩, fun hok => .inr ?_⟩
    rw [hr hok] at hsetup
    exact hsetup.flag

/-- Placing a channel writes no pin HIGH. The teardown writes none at all. -/
theorem keepsLow_place (b : Board) (pc : PersistedChannel) (i : OutputIdx) (s : OutputBank) :
    KeepsLow s (placeChannel b pc i s).1 := by
  by_cases hused : pc.used = 0
  · rw [place_unused hused]
    exact .refl s
  cases hsrc : pc.sourcesValid with
  | false =>
    rw [place_invalid hused hsrc]
    exact .refl s
  | true =>
    rw [place_eq hused hsrc]
    cases entryRecord b pc i s with
    | none => exact .refl s
    | some c => exact keepsLow_setupOutputHardware b i (setOutput i c s)

theorem gpio_teardown (s : OutputBank) : s.teardown.gpio = s.gpio := by
  refine Pass.foldl_keeps (fun t : OutputBank => t.gpio = s.gpio) (fun i t ht => ?_) _ rfl
  exact (aside_gpio.releaseIfUsed i t).trans ht

/-- Putting a slot back writes no pin HIGH. -/
theorem keepsLow_restoreSlot (b : Board) (old : OutputIdx → OutputChannelConfig)
    (oldPwm : OutputIdx → Bool) (i : OutputIdx) (t : OutputBank) :
    KeepsLow t (restoreSlot b old oldPwm i t) := by
  have hput : KeepsLow t (setAttached i false (setOutput i (old i) (releaseIfUsed i t))) :=
    .of_gpio (aside_gpio.releaseIfUsed i t)
  unfold restoreSlot
  dsimp only
  split
  · exact hput.trans (keepsLow_setupOutputHardware b i _)
  · exact hput

/-- A failed apply writes no pin HIGH, from the teardown to the end of the
rollback. -/
theorem keepsLow_rollback (b : Board) (cfg : PersistedConfig) (s : OutputBank) :
    KeepsLow s ((s.teardown.placeChannels b cfg).1.restoreOld b s.outputs s.pwmAttached) := by
  have hplace : KeepsLow s.teardown (s.teardown.placeChannels b cfg).1 :=
    Pass.run_invariant (fun t : OutputBank => KeepsLow s.teardown t)
      (fun i t ht => ht.trans (keepsLow_place b _ i t)) _ (.refl _)
  have hrestore : KeepsLow (s.teardown.placeChannels b cfg).1
      ((s.teardown.placeChannels b cfg).1.restoreOld b s.outputs s.pwmAttached) :=
    Pass.foldl_keeps (fun t : OutputBank => KeepsLow (s.teardown.placeChannels b cfg).1 t)
      (fun i t ht => ht.trans (keepsLow_restoreSlot b _ _ i t)) _ (.refl _)
  exact (KeepsLow.of_gpio (gpio_teardown s)).trans (hplace.trans hrestore)

/-- A servo of the old table while the new one is placed: still tracked, and
detached as long as no channel of the blob uses its slot. -/
theorem old_servo_placed (b : Board) (cfg : PersistedConfig) {s : OutputBank} {j : OutputIdx}
    (h : (s.slot j).Linked) (hpwm : (s.slot j).record.UsedPwm) :
    let x := (s.teardown.placeChannels b cfg).1.slot j
    x.Tracked ∧ (x.record.used = false → x.servo.pin = none) := by
  intro x
  refine Pass.run_invariant (fun t : OutputBank => (t.slot j).Tracked ∧
    ((t.slot j).record.used = false → (t.slot j).servo.pin = none)) (fun i t ht => ?_) _ ?_
  · obtain ⟨y, hy, hcases, -⟩ := place_tracked b (cfg.channels i) i t
    rw [hy]
    by_cases hji : j = i
    · subst hji
      rw [Function.update_self]
      rcases hcases with rfl | ⟨hused, htracked⟩
      · exact ht
      · -- a placed channel is in use
        refine ⟨htracked ht.1, fun hunused => ?_⟩
        rw [hused] at hunused
        cases hunused
    · rw [Function.update_of_ne hji]
      exact ht
  · -- the teardown leaves the slot bare
    have hbare := Slot.released_bare (h hpwm) hpwm.1
    rw [slot_teardown]
    exact ⟨fun _ => hbare.2, fun _ => hbare.2⟩

/-- **The slots after a rollback** are linked and at their failsafe. -/
theorem slot_rollback (b : Board) (cfg : PersistedConfig) {s : OutputBank} (h : Linked s)
    (j : OutputIdx) :
    let x := ((s.teardown.placeChannels b cfg).1.restoreOld b s.outputs s.pwmAttached).slot j
    x.Linked ∧ x.Safe ∧ (x.record.UsedSwitch → x.record = s.outputs j) := by
  intro x
  obtain ⟨t, hslot, hahead, -⟩ :=
    restoreOld_slot b s.outputs s.pwmAttached (s.teardown.placeChannels b cfg).1 j
  obtain ⟨y, hy, hcases⟩ := restoreSlot_cases b s.outputs s.pwmAttached j t
  have hx : x = y := by
    rw [show x = _ from hslot, hy, Function.update_self]
  rw [hx]
  -- the servo of a servo channel is detached before its slot is set up again
  have hnone : (s.outputs j).UsedPwm → (t.slot j).released.servo.pin = none := by
    intro hpwm
    obtain ⟨htracked, hidle⟩ := old_servo_placed b cfg (h j) hpwm
    rw [hahead j (le_refl j)]
    cases hused : ((s.teardown.placeChannels b cfg).1.slot j).record.used with
    | true => exact (Slot.released_bare htracked hused).2
    | false =>
      rw [Slot.released_of_unused hused]
      exact hidle hused
  rcases hcases with rfl | ⟨hused, -, c, r, hsetup⟩
  · exact ⟨fun hpwm _ => hnone hpwm, fun hpwm => Slot.safe_of_bare (hnone hpwm) hpwm, fun _ => rfl⟩
  · have hrep : Repinned (s.outputs j) y.record := hsetup.repinned hused
    refine ⟨fun hpwm => ?_, fun hpwm => ?_, fun hswitch => ?_⟩
    · exact hsetup.tracked fun _ => hnone (hrep.usedPwm.mp hpwm)
    · exact hsetup.safe (hnone (hrep.usedPwm.mp hpwm)) hpwm
    · have htype : (s.outputs j).type = .switch := by
        have hy := hswitch.2
        rw [hrep.eq] at hy
        exact hy
      rw [hsetup.switch htype]

/-- After a channel loop that succeeds every used servo channel has its flag. -/
theorem flag_placed {b : Board} {cfg : PersistedConfig} {s : OutputBank}
    (hok : (s.teardown.placeChannels b cfg).2 = .ok ()) :
    Linked (s.teardown.placeChannels b cfg).1 := by
  have hend := Pass.run_ok (fun _ (t : OutputBank) =>
      ∀ j, (t.slot j).record.UsedPwm → (t.slot j).flag = true)
    (fun i _ t ht hi j => ?_) (fun j hpwm => ?_) hok
  · exact fun j hpwm => Slot.linked_of_flag (hend j hpwm) hpwm
  · -- one step sets the flag of its own slot and no other
    obtain ⟨y, hy, -, hflag⟩ := place_tracked b (cfg.channels i) i t
    rw [hy]
    by_cases hji : j = i
    · subst hji
      rw [Function.update_self]
      rcases hflag hi with rfl | hflag
      · exact ht j
      · exact hflag
    · rw [Function.update_of_ne hji]
      exact ht j
  · rw [slot_teardown] at hpwm
    cases hpwm.1

end OutputBank

/-- **An apply keeps the failsafe**, whether it succeeds or rolls back. When it
succeeds it writes the failsafe at its end; when it rolls back it sets the old
servos up again, which does the same slot by slot. -/
theorem kept_applyTables (b : Board) (cfg : PersistedConfig) {s : RcModel} (h : Linked s.bank) :
    Linked (applyTables b cfg s).1.bank ∧
      (FailsafeWritten s.bank → FailsafeWritten (applyTables b cfg s).1.bank) := by
  by_cases hheader : cfg.HeaderOk
  swap
  · rw [applyTables_badHeader hheader]
    exact ⟨h, fun hs => hs⟩
  cases hplace : (s.bank.teardown.placeChannels b cfg).2 with
  | ok _ =>
    rw [applyTables_ok hheader hplace]
    obtain ⟨hlinked, hwritten⟩ := failsafeWritten_applyFailsafe (flag_placed hplace)
    exact ⟨hlinked, fun _ => hwritten⟩
  | error e =>
    rw [applyTables_error hheader hplace]
    -- after the rollback a switch is where it was, and its pin was LOW before
    have hslot := slot_rollback b cfg h
    refine ⟨fun j => (hslot j).1, fun hs => .of_safe (fun j => (hslot j).2.1) fun j hj => ?_⟩
    have hrecord := (hslot j).2.2 hj
    change ((s.bank.teardown.placeChannels b cfg).1.restoreOld b s.bank.outputs
      s.bank.pwmAttached).outputs j = _ at hrecord
    dsimp only at hj ⊢
    rw [hrecord] at hj ⊢
    exact keepsLow_rollback b cfg s.bank _ (hs.switches j hj)

end RcController
