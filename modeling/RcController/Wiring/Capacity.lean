import RcController.Wiring.Rebuild
import RcController.Lib.Limited

/-!
# A board with few PWM channels

The PWM unit of the chip drives a limited number of servos. On such a board a rebuild is a
limited first-fit pass over the claims of the records (`rebuild_limited`): a servo finds
room while fewer than `C` servos are attached, namely those set up before it and those a
rebuild does not release.
-/

namespace RcController

open FirstFit

/-- The board attaches a servo to a capable pin exactly while fewer than `C`
others are attached. -/
def Board.Capacity (b : Board) (C : ℕ) : Prop :=
  ∀ servos i p, b.hasPwm p = true →
    b.attachOk servos i p
      = decide ((Finset.univ.filter fun j => j ≠ i ∧ (servos j).isSome = true).card < C)

/-- The same board without the limit. -/
def Board.unlimited (b : Board) : Board := { b with attachOk := fun _ _ _ => true }

/-- Such a board is reliable. -/
theorem Board.unlimited_reliable (b : Board) : b.unlimited.Reliable := fun _ _ _ _ => rfl

namespace OutputBank

/-! ### One channel -/

section Setup

variable {b : Board} {i : OutputIdx} {s : OutputBank}

/-- **An attempt with a free servo**: it succeeds on an available pin when there
is room, and does nothing otherwise. -/
theorem tryAttachOnPin_of_free (hnone : (s.pwmOutputs i).pin = none) (pin : Pin) :
    tryAttachOnPin b i pin s =
      if b.pool.avail (claims s.outputs) i pin &&
          b.attachOk (fun j => (s.pwmOutputs j).pin) i pin then
        (setAttached i true (setOutput i { s.outputs i with pin := pin }
          { s with pwmOutputs := Function.update s.pwmOutputs i ⟨some pin, none⟩ }), true)
      else (s, false) := by
  cases havail : b.pool.avail (claims s.outputs) i pin with
  | false => exact tryAttachOnPin_of_not_avail havail
  | true =>
    obtain ⟨hpwm, hfree⟩ := Pool.avail_iff.mp havail
    have hpwm' : b.hasPwm pin = true := hpwm
    -- with no servo on the slot nothing is detached before the attempt
    have hunattached : s.attached i = false := by simp [attached, hnone]
    unfold tryAttachOnPin
    simp only [hpwm', outputPinAlreadyUsed_eq, hfree, hunattached, attachServo, Bool.not_true,
      Bool.false_eq_true, if_false, decide_false, Bool.true_and]
    cases hattach : b.attachOk (fun j => (s.pwmOutputs j).pin) i pin with
    | true => simp [attached]
    | false => simp [hunattached]

/-- A free servo that finds no pin is left alone. -/
theorem tryAttachOnPin_fails (hnone : (s.pwmOutputs i).pin = none) (pin : Pin)
    (hfail : (tryAttachOnPin b i pin s).2 = false) : tryAttachOnPin b i pin s = (s, false) := by
  rw [tryAttachOnPin_of_free hnone] at hfail ⊢
  split
  · next hok =>
    rw [if_pos hok] at hfail
    cases hfail
  · rfl

/-- A board that has room for the servo of a slot treats it as an unlimited one
does. -/
theorem tryAttachOnPin_of_room (hnone : (s.pwmOutputs i).pin = none)
    (hroom : ∀ p, b.hasPwm p = true → b.attachOk (fun j => (s.pwmOutputs j).pin) i p = true)
    (pin : Pin) : tryAttachOnPin b i pin s = tryAttachOnPin b.unlimited i pin s := by
  rw [tryAttachOnPin_of_free hnone, tryAttachOnPin_of_free hnone]
  have hpool : b.unlimited.pool = b.pool := rfl
  have hattach : b.unlimited.attachOk (fun j => (s.pwmOutputs j).pin) i pin = true := rfl
  rw [hpool, hattach]
  cases havail : b.pool.avail (claims s.outputs) i pin with
  | false => rw [Bool.false_and, Bool.false_and]
  | true => rw [hroom pin (Pool.avail_iff.mp havail).1]

/-- The same for the scan over the pins. -/
theorem scanAttach_of_room (hnone : (s.pwmOutputs i).pin = none)
    (hroom : ∀ p, b.hasPwm p = true → b.attachOk (fun j => (s.pwmOutputs j).pin) i p = true)
    (requestedPin : Pin) (pins : List Pin) :
    scanAttach b i requestedPin pins s = scanAttach b.unlimited i requestedPin pins s := by
  induction pins with
  | nil => rfl
  | cons pin pins ih =>
    rw [scanAttach, scanAttach, tryAttachOnPin_of_room hnone hroom, ih]
    split
    · rfl
    dsimp only
    cases htry : (tryAttachOnPin b.unlimited i pin s).2 with
    | true => rfl
    | false =>
      -- the attempt left the bank alone, and so the scan goes on as it began
      rw [tryAttachOnPin_fails hnone pin htry]
      exact ih

/-- **With room** a channel is set up as on an unlimited board. A switch needs
none. -/
theorem setup_of_room (hnone : (s.pwmOutputs i).pin = none)
    (hroom : (s.outputs i).type = .pwm → ∀ p, b.hasPwm p = true →
      b.attachOk (fun j => (s.pwmOutputs j).pin) i p = true) :
    setupOutputHardware b i s = setupOutputHardware b.unlimited i s := by
  -- with no servo there is no period to set
  have hperiod : ∀ b : Board, setPeriodHertz b i s = s := by
    intro b
    unfold setPeriodHertz
    rw [hnone]
  cases htype : (s.outputs i).type with
  | switch =>
    unfold setupOutputHardware
    simp only [htype]
  | pwm =>
    rw [setupOutputHardware_pwm htype, setupOutputHardware_pwm htype, hperiod, hperiod]
    have hsearch : searchPin b i s = searchPin b.unlimited i s := by
      unfold searchPin
      rw [tryAttachOnPin_of_room hnone (hroom htype)]
      dsimp only
      cases htry : (tryAttachOnPin b.unlimited i (s.outputs i).pin s).2 with
      | true => rw [if_pos rfl, if_pos rfl]
      | false =>
        rw [tryAttachOnPin_fails hnone _ htry]
        exact scanAttach_of_room hnone (hroom htype) _ _
    rw [hsearch]

/-- Without room no pin can be attached. -/
theorem tryAttachOnPin_of_full (hnone : (s.pwmOutputs i).pin = none)
    (hfull : ∀ p, b.hasPwm p = true → b.attachOk (fun j => (s.pwmOutputs j).pin) i p = false)
    (pin : Pin) : tryAttachOnPin b i pin s = (s, false) := by
  rw [tryAttachOnPin_of_free hnone]
  refine if_neg fun hboth => ?_
  obtain ⟨havail, hattach⟩ := Bool.and_eq_true_iff.mp hboth
  rw [hfull pin (Pool.avail_iff.mp havail).1] at hattach
  cases hattach

/-- Nor does the scan find one. -/
theorem scanAttach_of_full (hnone : (s.pwmOutputs i).pin = none)
    (hfull : ∀ p, b.hasPwm p = true → b.attachOk (fun j => (s.pwmOutputs j).pin) i p = false)
    (requestedPin : Pin) (pins : List Pin) : scanAttach b i requestedPin pins s = s := by
  induction pins with
  | nil => rfl
  | cons pin pins ih =>
    rw [scanAttach, tryAttachOnPin_of_full hnone hfull]
    dsimp only
    rw [if_neg Bool.false_ne_true, ih]
    exact ite_self s

/-- **Without room** the setup of a servo fails and changes nothing. -/
theorem setup_of_full (hpwm : (s.outputs i).type = .pwm) (hflag : s.pwmAttached i = false)
    (hnone : (s.pwmOutputs i).pin = none)
    (hfull : ∀ p, b.hasPwm p = true → b.attachOk (fun j => (s.pwmOutputs j).pin) i p = false) :
    (setupOutputHardware b i s).1 = s ∧ ∃ e, (setupOutputHardware b i s).2 = .error e := by
  have hperiod : setPeriodHertz b i s = s := by
    unfold setPeriodHertz
    rw [hnone]
  have hsearch : searchPin b i s = s := by
    unfold searchPin
    rw [tryAttachOnPin_of_full hnone hfull]
    dsimp only
    rw [if_neg Bool.false_ne_true, scanAttach_of_full hnone hfull]
  rw [setupOutputHardware_pwm hpwm, hperiod, hsearch]
  dsimp only
  rw [if_neg (by simp [hflag])]
  exact ⟨rfl, _, rfl⟩

end Setup

/-! ### Servos and flags -/

/-- Every servo that is attached has its flag. -/
def Flagged (s : OutputBank) : Prop :=
  ∀ i, (s.pwmOutputs i).pin.isSome = true → s.pwmAttached i = true

/-- Released, a slot whose servo was flagged has none. The release loop looks at
used records, so this is about those. -/
theorem servo_released {x : Slot} (h : x.servo.pin.isSome = true → x.flag = true)
    (hused : x.record.used = true) : x.released.servo.pin = none := by
  unfold Slot.released Slot.release
  rw [if_pos hused]
  split
  · rfl
  · next hflag =>
    by_contra hne
    exact hflag (h (Option.isSome_iff_ne_none.mpr hne))

/-- **A rebuild leaves every attached servo flagged**, on any board. It attaches
and flags together. -/
theorem flagged_rebuild (b : Board) {s : OutputBank} (h : Flagged s) :
    Flagged (rebuildOutputHardware b s).1 := by
  intro j hj
  replace hj : ((rebuildOutputHardware b s).1.slot j).servo.pin.isSome = true := hj
  change ((rebuildOutputHardware b s).1.slot j).flag = true
  rcases slot_rebuild_cases b s j with ⟨hsame, -⟩ | ⟨hused, c, r, hsetup, -⟩
  · -- the loop stopped before this slot, which was released if it is used
    rw [hsame] at hj ⊢
    cases hused : (s.slot j).record.used with
    | true =>
      rw [servo_released (h j) hused] at hj
      cases hj
    | false =>
      rw [Slot.released_of_unused hused] at hj ⊢
      exact h j hj
  · -- the servo was detached, so only its own setup can have attached it
    have hnone : ¬ (s.slot j).released.servo.pin.isSome = true := by
      rw [servo_released (h j) hused]
      exact nofun
    generalize (rebuildOutputHardware b s).1.slot j = y at hj hsetup ⊢
    cases hsetup with
    | placed _ _ => rfl
    | stale _ hflag _ => exact hflag
    | failed _ _ hpin => exact absurd (hpin hj) hnone
    | level _ _ => exact absurd hj hnone
    | conflict _ _ => exact absurd hj hnone

/-! ### The rebuild as a limited pass -/

/-- The slots whose servos are attached when the rebuild comes to slot `i`: the
servo channels before it, and those servos that a rebuild does not release. -/
def servosBefore (s : OutputBank) (i : OutputIdx) : Finset OutputIdx :=
  Finset.univ.filter fun j => (s.outputs j).UsedPwm ∧ j < i ∨
    (s.outputs j).used = false ∧ (s.pwmOutputs j).pin.isSome = true

/-- There is room for the servo of a slot. -/
def roomFor (C : ℕ) (s : OutputBank) (i : OutputIdx) : Bool :=
  decide ((s.servosBefore i).card < C)

/-- A rebuild that has come to the slots `rest`. Those before it that are servo
channels in use have a servo, those behind have been released, and the table has
only had pins changed. -/
structure Rebuilding (s : OutputBank) (rest : List OutputIdx) (t : OutputBank) : Prop where
  suffix : ∃ before, List.finRange kMaxOutputChannels = before ++ rest
  records : ∀ j, Repinned (s.outputs j) (t.outputs j)
  clear : FlagsClear rest t
  servos : ∀ j, (t.pwmOutputs j).pin.isSome = true ↔
    (s.outputs j).UsedPwm ∧ j ∉ rest ∨
      (s.outputs j).used = false ∧ (s.pwmOutputs j).pin.isSome = true

section Rebuilding

variable {b : Board} {C : ℕ} {s t : OutputBank} {i : OutputIdx} {rest : List OutputIdx}

/-- The slots behind the loop are those of smaller index. -/
theorem not_mem_suffix (h : ∃ before, List.finRange kMaxOutputChannels = before ++ i :: rest)
    (j : OutputIdx) : j ∉ i :: rest ↔ j < i := by
  obtain ⟨before, hsplit⟩ := h
  have hsorted := List.pairwise_lt_finRange kMaxOutputChannels
  rw [hsplit, List.pairwise_append, List.pairwise_cons] at hsorted
  obtain ⟨-, ⟨hrest, -⟩, hbefore⟩ := hsorted
  -- a slot is before `i` in the list or not, and the list is in order
  have hmem : j ∈ before ∨ j ∈ i :: rest := by
    have hall := List.mem_finRange j
    rwa [hsplit, List.mem_append] at hall
  constructor
  · intro hj
    exact hbefore j (hmem.resolve_right hj) i List.mem_cons_self
  · rintro hlt (_ | ⟨_, hj⟩)
    · exact lt_irrefl _ hlt
    · exact lt_asymm hlt (hrest j hj)

/-- So it is after the release loop. -/
theorem rebuilding_releaseAll (h : Flagged s) :
    Rebuilding s (List.finRange kMaxOutputChannels) s.releaseAll where
  suffix := ⟨[], rfl⟩
  records j := by
    rw [outputs_releaseAll]
    exact .refl _
  clear := flagsClear_releaseAll s _
  servos j := by
    change (s.releaseAll.slot j).servo.pin.isSome = true ↔ _
    rw [slot_releaseAll]
    cases hused : (s.slot j).record.used with
    | true =>
      rw [servo_released (h j) hused]
      refine iff_of_false nofun ?_
      -- every slot is still to be set up, so no servo of a channel in use is attached
      rintro (⟨-, hj⟩ | ⟨hunused, -⟩)
      · exact hj (List.mem_finRange j)
      · rw [show (s.outputs j).used = true from hused] at hunused
        cases hunused
    | false =>
      rw [Slot.released_of_unused hused]
      refine ⟨fun hsome => .inr ⟨hused, hsome⟩, ?_⟩
      rintro (⟨hpwm, -⟩ | ⟨-, hsome⟩)
      · exact absurd hpwm (OutputChannelConfig.not_usedPwm_of_unused hused)
      · exact hsome

/-- The other servos that are attached when a slot in use is set up. Their
number is what the board compares with its limit. -/
theorem Rebuilding.others (h : Rebuilding s (i :: rest) t) (hused : (s.outputs i).used = true) :
    (Finset.univ.filter fun j => j ≠ i ∧ (t.pwmOutputs j).pin.isSome = true)
      = s.servosBefore i := by
  ext j
  unfold servosBefore
  rw [Finset.mem_filter, Finset.mem_filter, h.servos j, not_mem_suffix h.suffix j]
  refine ⟨fun hj => ⟨hj.1, hj.2.2⟩, fun hj => ⟨hj.1, ?_, hj.2⟩⟩
  rintro rfl
  rcases hj.2 with ⟨-, hlt⟩ | ⟨hunused, -⟩
  · exact lt_irrefl _ hlt
  · rw [hused] at hunused
    cases hunused

/-- The servo of a channel in use is free when the rebuild comes to it. -/
theorem Rebuilding.free (h : Rebuilding s (i :: rest) t) (hused : (s.outputs i).used = true) :
    (t.pwmOutputs i).pin = none := by
  by_contra hne
  rcases (h.servos i).mp (Option.isSome_iff_ne_none.mpr hne) with ⟨-, hnot⟩ | ⟨hunused, -⟩
  · exact hnot List.mem_cons_self
  · rw [hused] at hunused
    cases hunused

/-- A step that succeeds attaches the servo of a servo channel, and no other. -/
theorem Rebuilding.servo_step (h : Rebuilding s (i :: rest) t) (hused : (s.outputs i).used = true)
    (hok : (setupIfUsed b i t).2 = .ok ()) :
    ((setupIfUsed b i t).1.slot i).servo.pin.isSome = true ↔ (s.outputs i).UsedPwm := by
  have hrecord : (t.outputs i).used = true := (h.records i).used.trans hused
  have hflag : (t.slot i).flag = false := h.clear i List.mem_cons_self hrecord
  have hfree : (t.slot i).servo.pin = none := h.free hused
  rw [setupIfUsed_of_used hrecord] at hok ⊢
  -- of the outcomes of a setup only three succeed, and one needs the flag to be set
  obtain ⟨y, hy, hsetup⟩ := setup_cases b hrecord
  rw [hok] at hsetup
  rw [hy, Function.update_self, ← (h.records i).usedPwm]
  cases hsetup with
  | placed hpwm _ => exact iff_of_true rfl ⟨hrecord, hpwm⟩
  | stale _ hset _ =>
    rw [hflag] at hset
    cases hset
  | level hswitch _ =>
    rw [hfree]
    exact iff_of_false nofun (OutputChannelConfig.not_usedPwm_of_switch hswitch)

/-- A step that succeeds goes on. The slot it set up is one of those before,
from then on. -/
theorem Rebuilding.step (h : Rebuilding s (i :: rest) t) (hok : (setupIfUsed b i t).2 = .ok ()) :
    Rebuilding s rest (setupIfUsed b i t).1 := by
  obtain ⟨y, hy, hrepinned⟩ := setupIfUsed_repinned b i t
  have hsuffix : ∃ before, List.finRange kMaxOutputChannels = before ++ rest := by
    obtain ⟨before, hsplit⟩ := h.suffix
    exact ⟨before ++ [i], by rw [hsplit, List.append_assoc, List.singleton_append]⟩
  have hnodup : (i :: rest).Nodup := by
    obtain ⟨before, hsplit⟩ := h.suffix
    have hall := List.nodup_finRange kMaxOutputChannels
    rw [hsplit] at hall
    exact (List.nodup_append.mp hall).2.1
  refine ⟨hsuffix, fun j => ?_, h.clear.of_slot hnodup hy, fun j => ?_⟩
  · rw [outputs_eq_of_slot hy]
    by_cases hji : j = i
    · rw [hji, Function.update_self]
      exact (h.records i).trans hrepinned
    · rw [Function.update_of_ne hji]
      exact h.records j
  · change ((setupIfUsed b i t).1.slot j).servo.pin.isSome = true ↔ _
    by_cases hji : j = i
    swap
    · rw [hy, Function.update_of_ne hji]
      refine (h.servos j).trans (or_congr_left (and_congr_right fun _ => ?_))
      rw [List.mem_cons, or_iff_right hji]
    subst hji
    -- the slot of this step, which is not among `rest` any more
    have hrecord : (t.outputs j).used = (s.outputs j).used := (h.records j).used
    have hnodup' : j ∉ rest := (List.nodup_cons.mp hnodup).1
    cases hused : (s.outputs j).used with
    | false =>
      have hunused : ¬ (s.outputs j).UsedPwm := OutputChannelConfig.not_usedPwm_of_unused hused
      rw [setupIfUsed_of_unused (hrecord.trans hused)]
      refine (h.servos j).trans (or_congr ?_ (by rw [hused]))
      exact iff_of_false (fun hj => hunused hj.1) (fun hj => hunused hj.1)
    | true =>
      rw [h.servo_step hused hok]
      exact ⟨fun hpwm => .inl ⟨hpwm, hnodup'⟩, fun hj => (hj.resolve_right nofun).1⟩

/-- **One step of a rebuild is one step of the limited pass.** With room the
board is as good as unlimited, and the step is one of an unlimited pass; without
room both fail. -/
theorem Rebuilding.limited (hcap : b.Capacity C) (h : Rebuilding s (i :: rest) t) :
    claims (setupIfUsed b i t).1.outputs
        = (limitedStep b.pool (s.roomFor C) i (claims t.outputs)).1 ∧
      ((setupIfUsed b i t).2 = .ok () ↔
        (limitedStep b.pool (s.roomFor C) i (claims t.outputs)).2 = .ok ()) := by
  have hrecord : (t.outputs i).used = (s.outputs i).used := (h.records i).used
  cases hused : (s.outputs i).used with
  | false =>
    have hunused : (t.outputs i).used = false := hrecord.trans hused
    have hnone : claims t.outputs i = none := OutputChannelConfig.claim_of_unused hunused
    rw [setupIfUsed_of_unused hunused, limitedStep_of_none hnone]
    exact ⟨rfl, by simp⟩
  | true =>
    have hused' : (t.outputs i).used = true := hrecord.trans hused
    have hclaim : claims t.outputs i = some _ := OutputChannelConfig.claim_of_used hused'
    have hflag : t.pwmAttached i = false := h.clear i List.mem_cons_self hused'
    -- whether a pin can be attached depends on the room alone
    have hattach : ∀ p, b.hasPwm p = true →
        b.attachOk (fun j => (t.pwmOutputs j).pin) i p = s.roomFor C i := by
      intro p hp
      rw [hcap _ i p hp, h.others hused]
      rfl
    by_cases hfull : (t.outputs i).type = .pwm ∧ s.roomFor C i = false
    · obtain ⟨hpwm, hroom⟩ := hfull
      rw [hroom] at hattach
      obtain ⟨hsame, e, herr⟩ := setup_of_full hpwm hflag (h.free hused) hattach
      rw [setupIfUsed_of_used hused', hsame, herr,
        limitedStep_of_full hclaim (by simp [hpwm]) hroom]
      exact ⟨rfl, by simp⟩
    · have hroom : (t.outputs i).type = .pwm → s.roomFor C i = true := fun hpwm => by
        simpa using fun hno => hfull ⟨hpwm, hno⟩
      -- with room, or for a switch, the limit is not felt
      have hsetup : setupIfUsed b i t = setupIfUsed b.unlimited i t := by
        rw [setupIfUsed_of_used hused', setupIfUsed_of_used hused']
        exact setup_of_room (h.free hused) fun hpwm p hp => (hattach p hp).trans (hroom hpwm)
      have hlimited : limitedStep b.pool (s.roomFor C) i (claims t.outputs)
          = settleStep b.pool i (claims t.outputs) := by
        refine limitedStep_of_room fun k hk hm => hroom ?_
        rw [hclaim] at hk
        obtain rfl := Option.some.inj hk
        exact of_decide_eq_true hm
      rw [hsetup, hlimited]
      exact setupIfUsed_refines b.unlimited_reliable fun _ => hflag

/-- **On a board with few PWM channels a rebuild is a limited first-fit
pass.** -/
theorem rebuild_limited (hcap : b.Capacity C) (h : Flagged s) :
    claims (rebuildOutputHardware b s).1.outputs
      = (limitedAll b.pool (s.roomFor C) (List.finRange kMaxOutputChannels)
        (claims s.outputs)).1 := by
  refine (Pass.run_in_step (setupIfUsed b) (limitedStep b.pool (s.roomFor C))
    (fun l t c => Rebuilding s l t ∧ claims t.outputs = c) (fun t c => claims t.outputs = c)
    (fun _ _ hR => hR.2) (fun i is t c hR => ?_) ⟨rebuilding_releaseAll h, ?_⟩).1
  · obtain ⟨hR, rfl⟩ := hR
    obtain ⟨hclaims, hiff⟩ := hR.limited hcap
    exact ⟨hiff, fun hok => ⟨hR.step hok, hclaims⟩, fun _ => hclaims⟩
  · rw [outputs_releaseAll]

end Rebuilding

end OutputBank

end RcController
