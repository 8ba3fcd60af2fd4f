import RcController.Wiring.Saved

/-!
# The channel loop with flags that survived

The teardown of `applyPersistedConfig` releases the channels in use. The flag of a slot that is
not in use survives it, and `setupOutputHardware` takes such a flag for success: a servo that
finds no pin is left on the one it asks for, and the channel loop goes on where the layout of the
blob stops.

`strayLayout` is the layout with this exception. It reads the blob, the pins of the board and the
flags before the apply, and nothing else, and on a reliable board it is the table that the channel
loop leaves, whether the loop reaches its end or fails half way (`outputs_placeChannels`). So a
condition on that table is a condition on the state before the apply.
-/

namespace RcController

open FirstFit OutputBank

/-! ### The layout with surviving flags -/

/-- The flag of a slot that is not in use. The teardown releases the used
channels only, so it survives. -/
def OutputBank.stray (s : OutputBank) (i : OutputIdx) : Bool :=
  s.pwmAttached i && !(s.outputs i).used

/-- A channel of the blob that passes though its claim is stuck: its sources are
valid, it is a servo on a pin with PWM, and its flag survived. -/
def Passes (b : Board) (stray : OutputIdx → Bool) (cfg : PersistedConfig) (i : OutputIdx) : Prop :=
  (cfg.channels i).sourcesValid = true ∧ (decodeChannel (cfg.channels i)).type = .pwm ∧
    b.hasPwm (decodeChannel (cfg.channels i)).pin = true ∧ stray i = true

instance (b : Board) (stray : OutputIdx → Bool) (cfg : PersistedConfig) (i : OutputIdx) :
    Decidable (Passes b stray cfg i) := inferInstanceAs (Decidable (_ ∧ _ ∧ _ ∧ _))

/-- A step of the layout in which such a channel is a success. -/
def strayStep (b : Board) (stray : OutputIdx → Bool) (cfg : PersistedConfig) (i : OutputIdx)
    (l : Layout) : Layout × Except Unit Unit :=
  match layoutStep b cfg i l with
  | (l, .ok ()) => (l, .ok ())
  | (l, .error ()) => (l, if Passes b stray cfg i then .ok () else .error ())

/-- The layout over the flags that survived. -/
def strayLayout (b : Board) (stray : OutputIdx → Bool) (cfg : PersistedConfig) :
    Layout × Except Unit Unit :=
  Pass.run (strayStep b stray cfg) (List.finRange kMaxOutputChannels) {}

section Step

variable {b : Board} {stray : OutputIdx → Bool} {cfg : PersistedConfig} {i : OutputIdx}
  {l : Layout}

/-- The exception is about the result of a step, not about the layout it
leaves. -/
theorem strayStep_fst : (strayStep b stray cfg i l).1 = (layoutStep b cfg i l).1 := by
  unfold strayStep
  split <;> next heq => rw [heq]

/-- A step succeeds as a step of the layout does, or because the channel
passes. -/
theorem strayStep_ok_iff : (strayStep b stray cfg i l).2 = .ok () ↔
    (layoutStep b cfg i l).2 = .ok () ∨ Passes b stray cfg i := by
  unfold strayStep
  split
  · next heq => simp [heq]
  · next heq => simp [heq]

/-- Without flags there is no exception. -/
theorem strayLayout_eq_layout (h : ∀ i, stray i = false) :
    strayLayout b stray cfg = layout b cfg := by
  have hstep : strayStep b stray cfg = layoutStep b cfg := by
    funext i l
    have hnot : ¬ Passes b stray cfg i := fun hp => by
      rw [Passes, h i] at hp
      exact Bool.false_ne_true hp.2.2.2
    unfold strayStep
    split
    · next heq => exact heq.symm
    · next heq => rw [heq, if_neg hnot]
  rw [strayLayout, hstep, layout]

end Step

namespace OutputBank

/-! ### A claim that is stuck, with a flag -/

section Stuck

variable {b : Board} {pc : PersistedChannel} {i : OutputIdx} {s : OutputBank}

/-- **A stuck claim passes for success** exactly when it is a servo's and the
flag is set. -/
theorem setup_stuck_ok_iff (hb : b.Reliable) {k : Claim Pin} (hk : (s.outputs i).claim = some k)
    (hs : settle b.pool (claims s.outputs) i k = none) :
    (setupOutputHardware b i s).2 = .ok () ↔
      (s.outputs i).type = .pwm ∧ s.pwmAttached i = true := by
  obtain ⟨hused, hclaim⟩ := OutputChannelConfig.claim_eq_some.mp hk
  constructor
  · intro hok
    refine ⟨?_, ?_⟩
    · -- a switch that is stuck finds its pin taken
      by_contra hpwm
      have htype : (s.outputs i).type = .switch := by
        cases htype : (s.outputs i).type with
        | pwm => exact absurd htype hpwm
        | switch => rfl
      have hfree := (setup_switch_ok_iff htype).mp hok
      subst hclaim
      simp [settle, htype, hfree] at hs
    · by_contra hflag
      obtain ⟨⟨e, herr⟩, -⟩ := setup_of_stuck hb hk hs (by simpa using hflag)
      rw [herr] at hok
      cases hok
  · rintro ⟨hpwm, hflag⟩
    obtain ⟨y, -, hsetup⟩ := setup_cases b hused
    -- the outcomes that fail are those of a switch and those without the flag
    generalize (setupOutputHardware b i s).2 = r at hsetup ⊢
    cases hsetup with
    | placed _ _ => rfl
    | stale _ _ _ => rfl
    | failed _ hclear _ => exact absurd (show (s.slot i).flag = true from hflag) (by simp [hclear])
    | level _ _ => rfl
    | conflict hswitch _ =>
      have htype : (s.outputs i).type = .switch := hswitch
      rw [hpwm] at htype
      cases htype

/-- One iteration of the channel loop on a claim that is stuck: the record is
the channel as it was decoded, and the channel passes for success under the
conditions of `Passes`. -/
theorem place_stuck (hb : b.Reliable) (h : pc.used ≠ 0) (hsrc : pc.sourcesValid = true)
    (hs : settle b.pool (claims s.outputs) i (decodeChannel pc).usedClaim = none) :
    (placeChannel b pc i s).1.outputs = Function.update s.outputs i (decodeChannel pc) ∧
      ((placeChannel b pc i s).2 = .ok () ↔ (decodeChannel pc).type = .pwm ∧
        b.hasPwm (decodeChannel pc).pin = true ∧ s.pwmAttached i = true) := by
  have hself : (setOutput i (decodeChannel pc) s).outputs i = decodeChannel pc :=
    Function.update_self ..
  have hclaim := claim_setOutput (i := i) (s := s) (decodeChannel_used pc)
  have hstuck := (settle_setOutput (b := b) (i := i) (s := s) (decodeChannel pc) _).trans hs
  rw [place_eq h hsrc]
  rcases settle_entryRecord.2 hs with hentry | hentry
  · -- no pin with PWM is free for a servo that asked for one without
    have hcap : (decodeChannel pc).type = .pwm ∧ b.hasPwm (decodeChannel pc).pin = false := by
      by_contra hcap
      rw [entryRecord, if_neg hcap] at hentry
      cases hentry
    rw [hentry]
    exact ⟨rfl, iff_of_false (fun hok => by cases hok) fun hp => by
      rw [hcap.2] at hp
      exact Bool.false_ne_true hp.2.1⟩
  · have hcap : (decodeChannel pc).type = .pwm → b.hasPwm (decodeChannel pc).pin = true := by
      intro hpwm
      by_contra hnot
      rw [entryRecord, if_pos ⟨hpwm, by simpa using hnot⟩] at hentry
      -- the entry record of such a servo would be on a pin of the scan
      obtain ⟨pin, hfind, heq⟩ := Option.map_eq_some_iff.mp hentry
      have hpin : pin = (decodeChannel pc).pin := congrArg OutputChannelConfig.pin heq
      exact hnot (hpin ▸ (Pool.avail_iff.mp (List.find?_some hfind)).1)
    rw [hentry]
    refine ⟨outputs_setup_of_stuck hb hclaim hstuck, ?_⟩
    refine mapError_eq_ok.trans ((setup_stuck_ok_iff hb hclaim hstuck).trans ?_)
    rw [hself]
    exact ⟨fun hp => ⟨hp.1, hcap hp.1, hp.2⟩, fun hp => ⟨hp.1, hp.2.2⟩⟩

end Stuck

/-! ### The table the channel loop leaves -/

/-- The bank that the loop has come to and the layout over the flags at the same
point: the records are the same, and the flags of the slots to do are those that
survived. -/
structure InStray (stray : OutputIdx → Bool) (rest : List OutputIdx) (s : OutputBank)
    (l : Layout) : Prop where
  nodup : rest.Nodup
  records : s.outputs = l.records
  flags : ∀ j ∈ rest, s.pwmAttached j = stray j

/-- **One iteration of the channel loop** leaves the records of the step of the
layout, and succeeds when it does. The cases are those of the layout step: an
unused channel, a claim that settles, a source that is not one, a claim that is
stuck. -/
theorem InStray.place {b : Board} (hb : b.Reliable) {stray : OutputIdx → Bool}
    {cfg : PersistedConfig} {i : OutputIdx} {is : List OutputIdx} {s : OutputBank} {l : Layout}
    (h : InStray stray (i :: is) s l) :
    InStray stray is (placeChannel b (cfg.channels i) i s).1 (strayStep b stray cfg i l).1 ∧
      ((placeChannel b (cfg.channels i) i s).2 = .ok () ↔
        (strayStep b stray cfg i l).2 = .ok ()) := by
  obtain ⟨hnot, hnodup⟩ := List.nodup_cons.mp h.nodup
  -- the flags ahead are left alone, whatever the step does
  have hflags : ∀ j ∈ is, (placeChannel b (cfg.channels i) i s).1.pwmAttached j = stray j := by
    intro j hj
    obtain ⟨y, hy, -⟩ := place_cases b (cfg.channels i) i s
    have hji : j ≠ i := fun heq => hnot (heq ▸ hj)
    have hslot : (placeChannel b (cfg.channels i) i s).1.slot j = s.slot j := by
      rw [hy, Function.update_of_ne hji]
    exact (congrArg Slot.flag hslot).trans (h.flags j (List.mem_cons_of_mem i hj))
  rw [strayStep_ok_iff, strayStep_fst]
  cases hok : (layoutStep b cfg i l).2 with
  | ok _ =>
    rcases layoutStep_ok_cases hok with ⟨hunused, hstep⟩ | ⟨hused, hsrc, pin, hs, hstep⟩
    · rw [place_unused hunused] at hflags ⊢
      rw [hstep]
      exact ⟨⟨hnodup, h.records, hflags⟩, by simp⟩
    · obtain ⟨hplaced, hslot⟩ := place_of_settle hb hused hsrc (by rw [h.records]; exact hs)
      refine ⟨⟨hnodup, ?_, hflags⟩, by simp [hplaced]⟩
      rw [outputs_eq_of_slot hslot, hstep, h.records]
      refine congrArg (Function.update l.records i) ?_
      unfold Slot.settled
      split
      · rfl
      · next hpwm =>
        -- a switch settles on its own pin
        have hpin : pin = (decodeChannel (cfg.channels i)).pin := settle_rigid hs (by
          simpa [OutputChannelConfig.usedClaim] using hpwm)
        rw [hpin]
  | error _ =>
    obtain ⟨hused, ⟨hsrc, hstep⟩ | ⟨hsrc, hs, hstep⟩⟩ := layoutStep_error_cases hok
    · rw [place_invalid hused hsrc] at hflags ⊢
      rw [hstep]
      refine ⟨⟨hnodup, h.records, hflags⟩, iff_of_false (fun hok => by cases hok) ?_⟩
      rintro (hp | hp)
      · cases hp
      · rw [hp.1] at hsrc
        cases hsrc
    · obtain ⟨hrecord, hiff⟩ := place_stuck hb hused hsrc (by rw [h.records]; exact hs)
      refine ⟨⟨hnodup, ?_, hflags⟩, hiff.trans ?_⟩
      · rw [hrecord, hstep, h.records]
        rfl
      · rw [h.flags i List.mem_cons_self]
        exact ⟨fun hp => .inr ⟨hsrc, hp⟩, fun hp => (hp.resolve_left fun hok => by cases hok).2⟩

/-- The teardown leaves the flags of the slots that are not in use. -/
theorem pwmAttached_teardown (s : OutputBank) (i : OutputIdx) :
    s.teardown.pwmAttached i = s.stray i := by
  change (s.teardown.slot i).flag = _
  rw [slot_teardown]
  change (s.slot i).released.flag = _
  cases hused : (s.outputs i).used with
  | true =>
    rw [Slot.flag_released hused, stray, hused, Bool.not_true, Bool.and_false]
  | false =>
    have hkept : (s.slot i).released = s.slot i := if_neg (by simp [slot, hused])
    rw [hkept, stray, hused, Bool.not_false, Bool.and_true]
    rfl

/-- **The table after the channel loop**, from any bank: the layout of the blob
over the flags that survived. The loop fails when that layout does. -/
theorem outputs_placeChannels {b : Board} (hb : b.Reliable) (cfg : PersistedConfig)
    (s : OutputBank) :
    (s.teardown.placeChannels b cfg).1.outputs = (strayLayout b s.stray cfg).1.records ∧
      ((s.teardown.placeChannels b cfg).2 = .ok () ↔ (strayLayout b s.stray cfg).2 = .ok ()) := by
  have hinitial : InStray s.stray (List.finRange kMaxOutputChannels) s.teardown {} :=
    ⟨List.nodup_finRange _, outputs_teardown s, fun j _ => pwmAttached_teardown s j⟩
  obtain ⟨⟨rest, hend⟩, hiff⟩ := Pass.run_simulates
    (fun i => placeChannel b (cfg.channels i) i) (strayStep b s.stray cfg) (InStray s.stray)
    (fun i is t l h => h.place hb) hinitial
  exact ⟨hend.records, hiff⟩

end OutputBank

end RcController
