import RcController.Wiring.Layout
import RcController.Model.PresetStore

/-!
# Applying a configuration

The channel loop of `applyPersistedConfig` against the layout of the blob. The loop
runs on a bank that was torn down: all records are empty, and the flags and servos are
what the teardown left. `Follows` relates such a bank to a layout; one step of the loop
keeps it when the layout step succeeds (`place_follows`), and also when that fails,
provided the flag of the slot is clear (`place_refines`).
-/

namespace RcController

open FirstFit OutputBank

/-! ### Tearing down -/

/-- A slot after the teardown: released if it was in use, and with an empty
record. -/
def Slot.teardown (x : Slot) : Slot := { x.released with record := {} }

namespace OutputBank

/-- One iteration of the teardown works on its own slot. -/
theorem slot_teardownSlot (i : OutputIdx) (s : OutputBank) :
    (teardownSlot i s).slot = Function.update s.slot i (s.slot i).teardown := by
  unfold teardownSlot
  rw [slot_setOutput, slot_releaseIfUsed, Function.update_self, Function.update_idem]
  rfl

/-- So after the loop every slot is torn down. -/
theorem slot_teardown (s : OutputBank) (j : OutputIdx) :
    s.teardown.slot j = (s.slot j).teardown := by
  have h := Pass.foldl_view slot teardownSlot (fun _ => Slot.teardown) slot_teardownSlot
    (List.nodup_finRange kMaxOutputChannels) s j
  rw [if_pos (List.mem_finRange j)] at h
  exact h

/-- The teardown clears the flags when only channels in use have one. It
releases the used channels, and a flag on an unused record stays. -/
theorem clear_teardown {s : OutputBank}
    (h : ∀ i, s.pwmAttached i = true → (s.outputs i).used = true)
    (j : OutputIdx) : s.teardown.pwmAttached j = false := by
  change (s.teardown.slot j).flag = false
  rw [slot_teardown]
  change (s.slot j).released.flag = false
  cases hused : (s.slot j).record.used with
  | true => exact Slot.flag_released hused
  | false =>
    -- an unused channel is not released, so its flag has to be clear already
    unfold Slot.released
    rw [if_neg (by simp [hused])]
    by_contra hset
    have hused' : (s.outputs j).used = true := h j (by simpa [slot] using hset)
    have hrecord : (s.outputs j).used = false := hused
    rw [hused'] at hrecord
    cases hrecord

/-! ### Placing one channel -/

section Place

variable {b : Board} {pc : PersistedChannel} {i : OutputIdx} {s : OutputBank}

/-- A channel that the blob does not use is passed over, and one that refers to
inputs that do not exist ends the loop. -/
theorem place_unused (h : pc.used = 0) : placeChannel b pc i s = (s, .ok ()) := by
  simp [placeChannel, h]

theorem place_invalid (h : pc.used ≠ 0) (hsrc : pc.sourcesValid = false) :
    placeChannel b pc i s = (s, .error "Invalid output source index") := by
  simp [placeChannel, h, hsrc]

/-- A record that is written claims its pin. -/
theorem claim_setOutput {c : OutputChannelConfig} (hused : c.used = true) :
    ((setOutput i c s).outputs i).claim = some c.usedClaim := by
  have hself : (setOutput i c s).outputs i = c := Function.update_self ..
  rw [hself, OutputChannelConfig.claim_of_used hused]
  rfl

/-- What a slot can settle on does not depend on its own record. -/
theorem settle_setOutput (c : OutputChannelConfig) (k : Claim Pin) :
    settle b.pool (claims (setOutput i c s).outputs) i k
      = settle b.pool (claims s.outputs) i k := by
  refine settle_congr fun j hj => ?_
  change (Function.update s.outputs i c j).claim = _
  rw [Function.update_of_ne hj]
  rfl

/-- What is available to a slot does not depend on its own record. -/
theorem avail_setOutput (c : OutputChannelConfig) :
    b.pool.avail (claims (setOutput i c s).outputs) i = b.pool.avail (claims s.outputs) i := by
  funext pin
  have htaken :
      Taken (claims (setOutput i c s).outputs) i pin ↔ Taken (claims s.outputs) i pin := by
    change Taken (claims (Function.update s.outputs i c)) i pin ↔ _
    rw [claims_update, taken_update_of_eq]
  simp only [Pool.avail, htaken]

/-- The record with which a channel enters the table, or nothing when no pin is
left for it. A servo channel on a pin it cannot have is given the first free
one. -/
def entryRecord (b : Board) (pc : PersistedChannel) (i : OutputIdx) (s : OutputBank) :
    Option OutputChannelConfig :=
  if (decodeChannel pc).type = .pwm ∧ b.hasPwm (decodeChannel pc).pin = false then
    (scanPins.find? (b.pool.avail (claims s.outputs) i)).map fun pin =>
      { decodeChannel pc with pin := pin }
  else some (decodeChannel pc)

/-- It is the decoded channel, on some pin. -/
theorem entryRecord_repinned {c : OutputChannelConfig} (h : entryRecord b pc i s = some c) :
    Repinned (decodeChannel pc) c := by
  unfold entryRecord at h
  split at h
  · obtain ⟨pin, -, rfl⟩ := Option.map_eq_some_iff.mp h
    exact ⟨rfl, fun hused => by cases hused⟩
  · obtain rfl := Option.some.inj h
    exact .refl _

/-- **One iteration of the channel loop**, for a used channel with valid
sources: no pin is left, or the channel is set up with its entry record. -/
theorem place_eq (h : pc.used ≠ 0) (hsrc : pc.sourcesValid = true) :
    placeChannel b pc i s =
      match entryRecord b pc i s with
      | none => (setOutput i (decodeChannel pc) s,
          .error "Invalid preset: no PWM-compatible GPIO available")
      | some c =>
        (setupOutputHardware b i (setOutput i c s)).map id
          (Except.mapError ("Invalid preset: " ++ ·)) := by
  have hself : (setOutput i (decodeChannel pc) s).outputs i = decodeChannel pc :=
    Function.update_self ..
  unfold placeChannel entryRecord
  rw [if_neg h, if_neg (by simp [hsrc])]
  dsimp only
  -- a servo on a pin without PWM is moved to the first free one before it is set up
  rw [hself, firstAvailablePwmPin_eq, avail_setOutput]
  by_cases hcap : (decodeChannel pc).type = .pwm ∧ b.hasPwm (decodeChannel pc).pin = false
  · rw [if_pos hcap, if_pos (by simp [hcap])]
    cases scanPins.find? (b.pool.avail (claims s.outputs) i) with
    | none => rfl
    | some pin =>
      have hput :
          setOutput i { decodeChannel pc with pin := pin } (setOutput i (decodeChannel pc) s)
          = setOutput i { decodeChannel pc with pin := pin } s := by
        simp only [setOutput, Function.update_idem]
      simp only [Option.map_some, hput]
  · rw [if_neg hcap, if_neg (by simpa using hcap)]

/-- The entry record settles where the decoded channel does. -/
theorem settle_entryRecord :
    (∀ pin, settle b.pool (claims s.outputs) i (decodeChannel pc).usedClaim = some pin →
      ∃ c, entryRecord b pc i s = some c ∧
        settle b.pool (claims s.outputs) i c.usedClaim = some pin) ∧
    (settle b.pool (claims s.outputs) i (decodeChannel pc).usedClaim = none →
      entryRecord b pc i s = none ∨ entryRecord b pc i s = some (decodeChannel pc)) := by
  unfold entryRecord
  by_cases hcap : (decodeChannel pc).type = .pwm ∧ b.hasPwm (decodeChannel pc).pin = false
  · have hnot : b.pool.avail (claims s.outputs) i (decodeChannel pc).pin = false := by
      simp [Pool.avail, Board.pool, hcap.2]
    -- its own pin is not available, so the claim settles on the pin of the scan
    have hsettle : settle b.pool (claims s.outputs) i (decodeChannel pc).usedClaim
        = scanPins.find? (b.pool.avail (claims s.outputs) i) := by
      simp [settle, OutputChannelConfig.usedClaim, hcap.1, pick, hnot]
      rfl
    rw [if_pos hcap, hsettle]
    refine ⟨fun pin hpin => ⟨{ decodeChannel pc with pin := pin }, by rw [hpin]; rfl, ?_⟩,
      fun hnone => .inl (by rw [hnone]; rfl)⟩
    obtain ⟨hpwm, hfree⟩ := Pool.avail_iff.mp (List.find?_some hpin)
    exact settle_eq_self hfree fun _ => hpwm
  · rw [if_neg hcap]
    exact ⟨fun pin hpin => ⟨_, rfl, hpin⟩, fun _ => .inr rfl⟩

/-- Changing the text of an error does not make it a success. -/
theorem mapError_eq_ok {ε δ : Type} {f : ε → δ} {r : Except ε Unit} :
    r.mapError f = .ok () ↔ r = .ok () := by
  cases r <;> simp [Except.mapError]

/-- **One iteration on any board**: the slot is left alone, or it gets the
decoded channel and no pin is left for it, or the entry record is set up. -/
theorem place_cases (b : Board) (pc : PersistedChannel) (i : OutputIdx) (s : OutputBank) :
    ∃ y, (placeChannel b pc i s).1.slot = Function.update s.slot i y ∧
      (y = s.slot i ∨ pc.sourcesValid = true ∧
        (y = { s.slot i with record := decodeChannel pc } ∧ (placeChannel b pc i s).2 ≠ .ok () ∨
          ∃ c r, Repinned (decodeChannel pc) c ∧
            (∃ others, Setup b others i { s.slot i with record := c } y r) ∧
            ((placeChannel b pc i s).2 = .ok () → r = .ok ()))) := by
  have hsame : s.slot = Function.update s.slot i (s.slot i) := (Function.update_eq_self _ _).symm
  -- an unused channel and one with a source out of range leave the slot alone
  by_cases hused : pc.used = 0
  · rw [place_unused hused]
    exact ⟨_, hsame, .inl rfl⟩
  cases hsrc : pc.sourcesValid with
  | false =>
    rw [place_invalid hused hsrc]
    exact ⟨_, hsame, .inl rfl⟩
  | true =>
    rw [place_eq hused hsrc]
    cases hentry : entryRecord b pc i s with
    | none => exact ⟨_, slot_setOutput i _ s, .inr ⟨rfl, .inl ⟨rfl, nofun⟩⟩⟩
    | some c =>
      have hrep := entryRecord_repinned hentry
      have hself : (setOutput i c s).outputs i = c := Function.update_self ..
      obtain ⟨y, hy, hsetup⟩ := setup_cases b (i := i) (s := setOutput i c s)
        (by rw [hself, hrep.used, decodeChannel_used])
      rw [slot_setOutput, Function.update_self] at hsetup
      rw [slot_setOutput, Function.update_idem] at hy
      exact ⟨y, hy, .inr ⟨rfl, .inr ⟨c, _, hrep, ⟨_, hsetup⟩, mapError_eq_ok.mp⟩⟩⟩

/-- A channel that settles is placed on the pin it settles on. -/
theorem place_of_settle (hb : b.Reliable) {pin : Pin} (h : pc.used ≠ 0)
    (hsrc : pc.sourcesValid = true)
    (hs : settle b.pool (claims s.outputs) i (decodeChannel pc).usedClaim = some pin) :
    (placeChannel b pc i s).2 = .ok () ∧
      (placeChannel b pc i s).1.slot = Function.update s.slot i
        (Slot.settled pin { s.slot i with record := decodeChannel pc }) := by
  obtain ⟨c, hentry, hsc⟩ := settle_entryRecord.1 pin hs
  have hrep := entryRecord_repinned hentry
  have hused : c.used = true := by rw [hrep.used, decodeChannel_used]
  obtain ⟨hok, hslot⟩ :=
    setup_of_settle hb (claim_setOutput hused) ((settle_setOutput c _).trans hsc)
  rw [slot_setOutput, Function.update_self, Function.update_idem] at hslot
  rw [place_eq h hsrc, hentry]
  refine ⟨mapError_eq_ok.mpr hok, hslot.trans (congrArg (Function.update s.slot i) ?_)⟩
  unfold Slot.settled
  by_cases hpwm : (decodeChannel pc).type = .pwm
  · have hpwm' : c.type = .pwm := by rw [hrep.eq]; exact hpwm
    rw [if_pos hpwm, if_pos hpwm', hrep.eq]
    rfl
  · have hpwm' : ¬ c.type = .pwm := by rw [hrep.eq]; exact hpwm
    rw [if_neg hpwm, if_neg hpwm']
    -- an entry record that is not the decoded channel is a servo's
    unfold entryRecord at hentry
    rw [if_neg fun hcap => hpwm hcap.1] at hentry
    rw [Option.some.inj hentry]

/-- A channel that is stuck fails, unless its flag survived the teardown. With
the flag set the setup believes the servo to be attached and has nothing to
do. -/
theorem place_of_stuck (hb : b.Reliable) (h : pc.used ≠ 0) (hsrc : pc.sourcesValid = true)
    (hs : settle b.pool (claims s.outputs) i (decodeChannel pc).usedClaim = none)
    (hflag : s.pwmAttached i = false) :
    (∃ e, (placeChannel b pc i s).2 = .error e) ∧
      ∃ v : Servo, (placeChannel b pc i s).1.slot
          = Function.update s.slot i { s.slot i with record := decodeChannel pc, servo := v } ∧
        (v.pin = (s.slot i).servo.pin ∨ v.pin = (s.slot i).servo.pin.filter b.hasPwm) := by
  rw [place_eq h hsrc]
  -- stuck on the pin that the channel names, or on the one that it is given
  rcases settle_entryRecord.2 hs with hentry | hentry
  · rw [hentry]
    exact ⟨⟨_, rfl⟩, (s.slot i).servo, slot_setOutput i _ s, .inl rfl⟩
  · rw [hentry]
    obtain ⟨⟨e, herr⟩, v, hslot, hv⟩ :=
      setup_of_stuck hb (claim_setOutput (decodeChannel_used pc))
        ((settle_setOutput _ _).trans hs) hflag
    rw [slot_setOutput, Function.update_self] at hv hslot
    rw [Function.update_idem] at hslot
    refine ⟨⟨"Invalid preset: " ++ e, ?_⟩, v, hslot, hv⟩
    simp only [Prod.map_snd, herr]
    rfl

end Place

/-! ### The channel loop follows the layout -/

/-- The servo pin of a slot is the one it had, or `setPeriodHertz` dropped a pin
without PWM. -/
def SamePin (b : Board) (x y : Slot) : Prop :=
  y.servo.pin = x.servo.pin ∨ y.servo.pin = x.servo.pin.filter b.hasPwm

/-- A bank that the channel loop has come to, with the slots `rest` still to do,
and the layout at the same point: the records are the same, the slots to do are
as they were torn down, a channel that the layout seated has its servo, and any
other slot has the flag it had. -/
structure Follows (b : Board) (t : OutputBank) (rest : List OutputIdx) (s : OutputBank)
    (l : Layout) : Prop where
  nodup : rest.Nodup
  records : s.outputs = l.records
  ahead : ∀ j ∈ rest, s.slot j = t.slot j
  seated : ∀ j, l.seated j = true →
    s.slot j = ⟨l.records j, true,
      ⟨some (l.records j).pin, some (pwmFailsafeUs (l.records j).pwmFailsafeMode)⟩⟩
  others : ∀ j, l.seated j = false →
    (s.slot j).flag = (t.slot j).flag ∧ SamePin b (t.slot j) (s.slot j)

namespace Follows

variable {b : Board} {cfg : PersistedConfig} {t s : OutputBank} {l : Layout} {i : OutputIdx}
  {is : List OutputIdx}

/-- At the start nothing was placed on either side. -/
theorem initial (t : OutputBank) (ht : t.outputs = fun _ => {}) :
    Follows b t (List.finRange kMaxOutputChannels) t {} where
  nodup := List.nodup_finRange _
  records := ht
  ahead _ _ := rfl
  seated _ h := by cases h
  others _ _ := ⟨rfl, .inl rfl⟩

/-- A slot that is passed over changes neither. -/
theorem skip (h : Follows b t (i :: is) s l) : Follows b t is s l :=
  ⟨(List.nodup_cons.mp h.nodup).2, h.records, fun j hj => h.ahead j (List.mem_cons_of_mem i hj),
    h.seated, h.others⟩

/-- Bank and layout put the same record into slot `i`. -/
theorem put (h : Follows b t (i :: is) s l) {s' : OutputBank} {y : Slot} (seated : Bool)
    (hslot : s'.slot = Function.update s.slot i y)
    (hseated : seated = true →
      y.flag = true ∧ y.servo = ⟨some y.record.pin, some y.failsafeUs⟩)
    (hother : seated = false → y.flag = (t.slot i).flag ∧ SamePin b (t.slot i) y) :
    Follows b t is s' (l.put i y.record seated) := by
  obtain ⟨hnot, hnodup⟩ := List.nodup_cons.mp h.nodup
  refine ⟨hnodup, ?_, fun j hj => ?_, fun j hj => ?_, fun j hj => ?_⟩
  · rw [outputs_eq_of_slot hslot, h.records]
    rfl
  · have hji : j ≠ i := fun heq => hnot (heq ▸ hj)
    rw [hslot, Function.update_of_ne hji]
    exact h.ahead j (List.mem_cons_of_mem i hj)
  · -- slot `i` is as the step left it, the other slots as `h` says
    by_cases hji : j = i
    · subst hji
      simp only [Layout.put, Function.update_self] at hj ⊢
      obtain ⟨hflag, hservo⟩ := hseated hj
      rw [hslot, Function.update_self, ← hflag]
      exact congrArg (Slot.mk y.record y.flag) hservo
    · simp only [Layout.put, Function.update_of_ne hji] at hj ⊢
      rw [hslot, Function.update_of_ne hji]
      exact h.seated j hj
  · by_cases hji : j = i
    · subst hji
      simp only [Layout.put, Function.update_self] at hj
      rw [hslot, Function.update_self]
      exact hother hj
    · simp only [Layout.put, Function.update_of_ne hji] at hj
      rw [hslot, Function.update_of_ne hji]
      exact h.others j hj

/-- One iteration follows a layout step that succeeds. -/
theorem place (hb : b.Reliable) (h : Follows b t (i :: is) s l)
    (hok : (layoutStep b cfg i l).2 = .ok ()) :
    (placeChannel b (cfg.channels i) i s).2 = .ok () ∧
      Follows b t is (placeChannel b (cfg.channels i) i s).1 (layoutStep b cfg i l).1 := by
  rcases layoutStep_ok_cases hok with ⟨hunused, hstep⟩ | ⟨hused, hsrc, pin, hs, hstep⟩
  · rw [place_unused hunused, hstep]
    exact ⟨rfl, h.skip⟩
  · obtain ⟨hplaced, hslot⟩ := place_of_settle hb hused hsrc (by rw [h.records]; exact hs)
    rw [hstep]
    refine ⟨hplaced, ?_⟩
    have hput := h.put (decide ((decodeChannel (cfg.channels i)).type = .pwm)) hslot
    -- a servo is seated and attached, a switch keeps what the slot had
    by_cases hpwm : (decodeChannel (cfg.channels i)).type = .pwm
    · rw [Slot.settled, if_pos (show _ = ChannelType.pwm from hpwm)] at hput
      exact hput (fun _ => ⟨rfl, rfl⟩) (by simp [hpwm])
    · have hpin : pin = (decodeChannel (cfg.channels i)).pin := settle_rigid hs (by
        simp [OutputChannelConfig.usedClaim, hpwm])
      rw [Slot.settled, if_neg (show ¬ _ = ChannelType.pwm from hpwm)] at hput
      rw [hpin]
      have hslot_i := h.ahead i List.mem_cons_self
      exact hput (by simp [hpwm]) fun _ => ⟨by rw [hslot_i], .inl (by rw [hslot_i])⟩

/-- One iteration refines a layout step when the flag of its slot is clear. -/
theorem place_iff (hb : b.Reliable) (h : Follows b t (i :: is) s l)
    (hflag : (t.slot i).flag = false) :
    Follows b t is (placeChannel b (cfg.channels i) i s).1 (layoutStep b cfg i l).1 ∧
      ((placeChannel b (cfg.channels i) i s).2 = .ok () ↔ (layoutStep b cfg i l).2 = .ok ()) := by
  cases hok : (layoutStep b cfg i l).2 with
  | ok _ =>
    obtain ⟨hplaced, hfollows⟩ := h.place hb hok
    exact ⟨hfollows, by simp [hplaced]⟩
  | error _ =>
    obtain ⟨hused, ⟨hsrc, hstep⟩ | ⟨hsrc, hs, hstep⟩⟩ := layoutStep_error_cases hok
    · -- a source that is not valid stops both before a pin is asked for
      rw [place_invalid hused hsrc, hstep]
      exact ⟨h.skip, by simp⟩
    · -- with the flag clear a stuck servo fails, as the layout step does
      have hslot_i := h.ahead i List.mem_cons_self
      obtain ⟨⟨e, herr⟩, v, hslot, hv⟩ :=
        place_of_stuck hb hused hsrc (by rw [h.records]; exact hs)
        (show (s.slot i).flag = false by rw [hslot_i, hflag])
      rw [hstep]
      refine ⟨h.put false hslot (fun h => by cases h) fun _ => ⟨?_, ?_⟩, by simp [herr]⟩
      · rw [hslot_i]
      · rw [hslot_i] at hv
        exact hv

end Follows

/-- The teardown empties the table. -/
theorem outputs_teardown (s : OutputBank) : s.teardown.outputs = fun _ => {} := by
  funext j
  change (s.teardown.slot j).record = {}
  rw [slot_teardown]
  rfl

/-- **The channel loop follows a layout that succeeds**, whatever the flags are.
Every step of the layout succeeds, and each iteration follows its step. -/
theorem place_follows_layout {b : Board} (hb : b.Reliable) {cfg : PersistedConfig}
    (hlays : LaysOut b cfg) (s : OutputBank) :
    (s.teardown.placeChannels b cfg).2 = .ok () ∧
      Follows b s.teardown [] (s.teardown.placeChannels b cfg).1 (layout b cfg).1 :=
  Pass.run_follows (fun i => placeChannel b (cfg.channels i) i) (layoutStep b cfg)
    (Follows b s.teardown) (fun _ _ _ _ h hok => h.place hb hok)
    (.initial _ (outputs_teardown s)) hlays

/-- **With clear flags the channel loop is the layout**, also when it fails. A
stuck channel then finds no flag that would let it pass. -/
theorem place_refines_layout {b : Board} (hb : b.Reliable) (cfg : PersistedConfig) {s : OutputBank}
    (hclear : ∀ j, s.teardown.pwmAttached j = false) :
    (∃ rest, Follows b s.teardown rest (s.teardown.placeChannels b cfg).1 (layout b cfg).1) ∧
      ((s.teardown.placeChannels b cfg).2 = .ok () ↔ LaysOut b cfg) :=
  Pass.run_simulates (fun i => placeChannel b (cfg.channels i) i) (layoutStep b cfg)
    (Follows b s.teardown)
    (fun i _ _ _ h => h.place_iff hb (hclear i)) (.initial _ (outputs_teardown s))

/-! ### The whole of `applyTables` -/

/-- The failsafe works slot by slot. -/
theorem slot_applyFailsafeAllOutputs (s : OutputBank) (j : OutputIdx) :
    s.applyFailsafeAllOutputs.slot j = (s.slot j).writeFailsafe := by
  have h := Pass.foldl_view slot writeFailsafeForOutput (fun _ => Slot.writeFailsafe)
    slot_writeFailsafeForOutput
    (List.nodup_finRange kMaxOutputChannels) s j
  rw [if_pos (List.mem_finRange j)] at h
  exact h

/-- Writing the failsafe changes pulses only. -/
theorem Slot.writeFailsafe_fields (x : Slot) :
    x.writeFailsafe.record = x.record ∧ x.writeFailsafe.flag = x.flag ∧
      x.writeFailsafe.servo.pin = x.servo.pin := by
  unfold Slot.writeFailsafe
  split <;> exact ⟨rfl, rfl, rfl⟩

/-- It does not change a record, nor the table. -/
theorem outputs_writeFailsafeForOutput (i : OutputIdx) (s : OutputBank) :
    (writeFailsafeForOutput i s).outputs = s.outputs := by
  rw [outputs_eq_of_slot (slot_writeFailsafeForOutput i s), (Slot.writeFailsafe_fields _).1]
  exact Function.update_eq_self i s.outputs

theorem outputs_applyFailsafeAllOutputs (s : OutputBank) :
    s.applyFailsafeAllOutputs.outputs = s.outputs := by
  funext j
  change (s.applyFailsafeAllOutputs.slot j).record = (s.slot j).record
  rw [slot_applyFailsafeAllOutputs]
  exact (Slot.writeFailsafe_fields _).1

end OutputBank

section ApplyTables

variable {b : Board} {cfg : PersistedConfig} {s : RcModel}

/-- A blob of another format is refused before anything is torn down. -/
theorem applyTables_badHeader (h : ¬ cfg.HeaderOk) :
    applyTables b cfg s = (s, .error "Invalid preset format") := by
  unfold applyTables
  rw [if_pos]
  by_contra hc
  push Not at hc
  exact h hc

/-- A blob all of whose channels are placed. The inputs are decoded from it and
the failsafe is written. -/
theorem applyTables_ok (h : cfg.HeaderOk)
    (hplace : (s.bank.teardown.placeChannels b cfg).2 = .ok ()) :
    applyTables b cfg s =
      ({ virtualInputs := decodeVirtualInputs cfg
         memory := decodeMemory cfg s.memory
         bank := (s.bank.teardown.placeChannels b cfg).1.applyFailsafeAllOutputs }, .ok ()) := by
  unfold applyTables
  rw [if_neg (by simp [h.1, h.2])]
  rcases hr : s.bank.teardown.placeChannels b cfg with ⟨bank, _ | _⟩
  · rw [hr] at hplace
    cases hplace
  · rfl

/-- A blob one of whose channels cannot be placed. The outputs are rolled back
from where the loop stopped, and the inputs are the old ones; their memory was
decoded already and stays. -/
theorem applyTables_error {e : String} (h : cfg.HeaderOk)
    (hplace : (s.bank.teardown.placeChannels b cfg).2 = .error e) :
    applyTables b cfg s =
      ({ virtualInputs := s.virtualInputs
         memory := decodeMemory cfg s.memory
         bank := (s.bank.teardown.placeChannels b cfg).1.restoreOld b s.bank.outputs
           s.bank.pwmAttached }, .error e) := by
  unfold applyTables
  rw [if_neg (by simp [h.1, h.2])]
  rcases hr : s.bank.teardown.placeChannels b cfg with ⟨bank, _ | _⟩
  · rw [hr] at hplace
    cases hplace
    rfl
  · rw [hr] at hplace
    cases hplace

/-- The blob of a successful apply was placed. -/
theorem place_of_applyTables (hok : (applyTables b cfg s).2 = .ok ()) :
    cfg.HeaderOk ∧ (s.bank.teardown.placeChannels b cfg).2 = .ok () := by
  by_cases h : cfg.HeaderOk
  · refine ⟨h, ?_⟩
    cases hplace : (s.bank.teardown.placeChannels b cfg).2 with
    | ok _ => rfl
    | error e =>
      rw [applyTables_error h hplace] at hok
      cases hok
  · rw [applyTables_badHeader h] at hok
    cases hok

/-- **A blob that can be laid out is applied**, on a reliable board and whatever
the state of the hardware, and the tables are what the blob alone says. -/
theorem applyTables_of_laysOut (hb : b.Reliable) (h : cfg.HeaderOk) (hlays : LaysOut b cfg)
    (s : RcModel) :
    (applyTables b cfg s).2 = .ok () ∧
      (applyTables b cfg s).1.virtualInputs = decodeVirtualInputs cfg ∧
      (applyTables b cfg s).1.bank.outputs = (layout b cfg).1.records := by
  obtain ⟨hplace, hfollows⟩ := place_follows_layout hb hlays s.bank
  rw [applyTables_ok h hplace]
  exact ⟨rfl, rfl, (outputs_applyFailsafeAllOutputs _).trans hfollows.records⟩

/-- What `applyPersistedConfig` returns does not depend on the storage. -/
theorem applyPersistedConfig_always (b : Board) (cfg : PersistedConfig) (s : RcModel) :
    (applyPersistedConfig b cfg s).Always fun r => r = applyTables b cfg s := by
  unfold applyPersistedConfig
  rcases applyTables b cfg s with ⟨s', _ | _⟩
  · exact rfl
  · exact DeviceProg.Prog.always_bind_of_forall _ fun _ => rfl

end ApplyTables

end RcController
