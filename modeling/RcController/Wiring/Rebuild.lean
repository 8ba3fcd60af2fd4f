import RcController.Wiring.Setup

/-!
# Rebuilding the hardware

`rebuildOutputHardware` releases the used channels and sets them all up again, in the
order of their slots. On a reliable board it is a pass of the first-fit library over
the claims of the records (`rebuild_refines`), and what the library says of such a
pass carries over: a wired table is rebuilt as it is (`rebuild_of_wired`), a rebuild
that succeeds leaves a wired table (`wiringOk_rebuild`), a rebuild after one record
was edited moves nothing when it fails (`rebuild_edit_error`) and otherwise moves
exactly the servos the edit got in the way of (`rebuild_keeps_iff`).

The claims only know pins. That the other fields of a record never change is
`Repinned`; that every servo ends up attached to the pin of its record is
`slot_rebuild`. Neither needs a reliable board.
-/

namespace RcController

open FirstFit

/-! ### Records that only move -/

/-- The second record is the first one, on another pin at most. A record that is
not in use is not moved. -/
structure Repinned (c c' : OutputChannelConfig) : Prop where
  eq : c' = { c with pin := c'.pin }
  unused : c.used = false → c' = c

namespace Repinned

/-- A record is itself on its own pin. -/
theorem refl (c : OutputChannelConfig) : Repinned c c := ⟨rfl, fun _ => rfl⟩

/-- Moving twice is moving. -/
theorem trans {c c' c'' : OutputChannelConfig} (h : Repinned c c') (h' : Repinned c' c'') :
    Repinned c c'' where
  eq := by
    rw [h'.eq, h.eq]
  unused hc := by
    rw [h'.unused (by rw [h.eq]; exact hc), h.unused hc]

/-- A record whose claim did not move did not change. -/
theorem eq_of_claim {c c' : OutputChannelConfig} (h : Repinned c c') (hclaim : c'.claim = c.claim) :
    c' = c := by
  cases hused : c.used with
  | false => exact h.unused hused
  | true =>
    have hc' : c'.claim = some ⟨decide (c.type = .pwm), c.pin⟩ := by
      rw [hclaim, OutputChannelConfig.claim_of_used hused]
    have hpin : c.pin = c'.pin := congrArg Claim.res (OutputChannelConfig.claim_eq_some.mp hc').2
    rw [h.eq, ← hpin]

/-- It does not change whether the record is in use, nor whether it is a servo
channel. -/
theorem used {c c' : OutputChannelConfig} (h : Repinned c c') : c'.used = c.used := by
  rw [h.eq]

theorem usedPwm {c c' : OutputChannelConfig} (h : Repinned c c') : c'.UsedPwm ↔ c.UsedPwm := by
  rw [h.eq]
  exact Iff.rfl

end Repinned

namespace OutputBank

/-- Setting a channel up moves its record at most. -/
theorem Setup.repinned {b : Board} {c : Claims OutputIdx Pin} {i : OutputIdx} {x y : Slot}
    {r : Except String Unit} (h : Setup b c i x y r) (hused : x.record.used = true) :
    Repinned x.record y.record := by
  cases h with
  | placed _ _ => exact ⟨rfl, fun h => by rw [hused] at h; cases h⟩
  | stale _ _ _ => exact .refl _
  | failed _ _ _ => exact .refl _
  | level _ _ => exact .refl _
  | conflict _ _ => exact .refl _

/-! ### The two loops -/

/-- Releasing a channel works on its own slot. -/
theorem slot_releaseIfUsed (i : OutputIdx) (s : OutputBank) :
    (releaseIfUsed i s).slot = Function.update s.slot i (s.slot i).released := by
  unfold releaseIfUsed Slot.released
  change (if (s.slot i).record.used = true then _ else _ : OutputBank).slot = _
  split
  · exact slot_releaseOutputHardware i s
  · exact (Function.update_eq_self i s.slot).symm

/-- The first loop releases the used channels, each on its own. So the loop
releases every slot once. -/
theorem slot_releaseAll (s : OutputBank) (j : OutputIdx) :
    s.releaseAll.slot j = (s.slot j).released := by
  have h := Pass.foldl_view slot releaseIfUsed (fun _ => Slot.released) slot_releaseIfUsed
    (List.nodup_finRange kMaxOutputChannels) s j
  rw [if_pos (List.mem_finRange j)] at h
  exact h

@[simp] theorem Slot.record_release (x : Slot) : x.release.record = x.record := by
  unfold Slot.release
  split <;> rfl

@[simp] theorem Slot.record_released (x : Slot) : x.released.record = x.record := by
  unfold Slot.released
  split
  · exact Slot.record_release x
  · rfl

/-- The release loop passes over a channel that is not in use. -/
theorem Slot.released_of_unused {x : Slot} (h : x.record.used = false) : x.released = x := by
  unfold Slot.released
  rw [if_neg (by simp [h])]

/-- Once released, a used channel has a clear flag. -/
theorem Slot.flag_released {x : Slot} (h : x.record.used = true) : x.released.flag = false := by
  unfold Slot.released Slot.release
  rw [if_pos h]
  split
  · rfl
  · next hflag => simpa using hflag

/-- It does not touch the table. -/
theorem outputs_releaseAll (s : OutputBank) : s.releaseAll.outputs = s.outputs := by
  funext j
  change (s.releaseAll.slot j).record = (s.slot j).record
  rw [slot_releaseAll, Slot.record_released]

/-- The second loop sets up what is in use, and passes over the rest. -/
theorem setupIfUsed_of_used {b : Board} {i : OutputIdx} {s : OutputBank}
    (h : (s.outputs i).used = true) : setupIfUsed b i s = setupOutputHardware b i s := by
  simp [setupIfUsed, h]

theorem setupIfUsed_of_unused {b : Board} {i : OutputIdx} {s : OutputBank}
    (h : (s.outputs i).used = false) : setupIfUsed b i s = (s, .ok ()) := by
  simp [setupIfUsed, h]

/-- Setting up slot `i` changes slot `i` alone, and of its record only the
pin. -/
theorem setupIfUsed_repinned (b : Board) (i : OutputIdx) (s : OutputBank) :
    ∃ y, (setupIfUsed b i s).1.slot = Function.update s.slot i y ∧
      Repinned (s.outputs i) y.record := by
  cases hused : (s.outputs i).used with
  | false =>
    rw [setupIfUsed_of_unused hused]
    exact ⟨s.slot i, (Function.update_eq_self i s.slot).symm, .refl _⟩
  | true =>
    rw [setupIfUsed_of_used hused]
    obtain ⟨y, hy, hsetup⟩ := setup_cases b hused
    exact ⟨y, hy, hsetup.repinned hused⟩

/-- A rebuild moves records to other pins, and changes nothing else of them. -/
theorem rebuild_repinned (b : Board) (s : OutputBank) (j : OutputIdx) :
    Repinned (s.outputs j) ((rebuildOutputHardware b s).1.outputs j) := by
  refine Pass.run_invariant (fun t : OutputBank => ∀ j, Repinned (s.outputs j) (t.outputs j))
    (fun i t ht j => ?_) _ (fun j => ?_) j
  · obtain ⟨y, hy, hrep⟩ := setupIfUsed_repinned b i t
    rw [outputs_eq_of_slot hy]
    by_cases hji : j = i
    · subst hji
      rw [Function.update_self]
      exact (ht j).trans hrep
    · rw [Function.update_of_ne hji]
      exact ht j
  · rw [outputs_releaseAll]
    exact .refl _

/-! ### The rebuild as a pass over claims -/

/-- The flags of the channels in use among the slots to do are clear. Without
that a setup would believe its servo to be attached. -/
def FlagsClear (l : List OutputIdx) (s : OutputBank) : Prop :=
  ∀ i ∈ l, (s.outputs i).used = true → s.pwmAttached i = false

/-- The release loop sees to it. -/
theorem flagsClear_releaseAll (s : OutputBank) (l : List OutputIdx) :
    FlagsClear l s.releaseAll := by
  intro i _ hused
  rw [outputs_releaseAll] at hused
  change (s.releaseAll.slot i).flag = false
  rw [slot_releaseAll]
  exact Slot.flag_released hused

/-- A step at another slot leaves the flags that are still to be looked at. -/
theorem FlagsClear.of_slot {i : OutputIdx} {is : List OutputIdx} {s s' : OutputBank} {y : Slot}
    (h : FlagsClear (i :: is) s) (hnodup : (i :: is).Nodup)
    (hslot : s'.slot = Function.update s.slot i y) : FlagsClear is s' := by
  intro j hj hused
  have hji : j ≠ i := by
    rintro rfl
    exact (List.nodup_cons.mp hnodup).1 hj
  have hsame : s'.slot j = s.slot j := by rw [hslot, Function.update_of_ne hji]
  have hflag : (s'.slot j).flag = (s.slot j).flag := by rw [hsame]
  have hrecord : (s'.slot j).record = (s.slot j).record := by rw [hsame]
  have hused' : (s.outputs j).used = true := (congrArg OutputChannelConfig.used hrecord) ▸ hused
  exact hflag.trans (h j (List.mem_cons_of_mem i hj) hused')

/-- The claim of a channel that was set up on the pin it settled on. -/
theorem claim_settled {b : Board} {c : Claims OutputIdx Pin} {i : OutputIdx} {x : Slot}
    {k : Claim Pin} {pin : Pin} (hk : x.record.claim = some k)
    (hs : settle b.pool c i k = some pin) :
    (x.settled pin).record.claim = some { k with res := pin } := by
  obtain ⟨hused, rfl⟩ := OutputChannelConfig.claim_eq_some.mp hk
  unfold Slot.settled
  split
  · exact OutputChannelConfig.claim_of_used hused
  · next hne =>
    rw [settle_rigid hs (by simpa using hne)]
    exact hk

/-- One step of the second loop is one step of the pass over claims. A claim
that settles is set up there and one that is stuck fails, as the flag is
clear. -/
theorem setupIfUsed_refines {b : Board} (hb : b.Reliable) {i : OutputIdx} {s : OutputBank}
    (hflag : (s.outputs i).used = true → s.pwmAttached i = false) :
    claims (setupIfUsed b i s).1.outputs = (settleStep b.pool i (claims s.outputs)).1 ∧
      ((setupIfUsed b i s).2 = .ok () ↔ (settleStep b.pool i (claims s.outputs)).2 = .ok ()) := by
  cases hused : (s.outputs i).used with
  | false =>
    have hnone : claims s.outputs i = none := OutputChannelConfig.claim_of_unused hused
    rw [setupIfUsed_of_unused hused, settleStep_of_none hnone]
    exact ⟨rfl, by simp⟩
  | true =>
    have hk : (s.outputs i).claim = some _ := OutputChannelConfig.claim_of_used hused
    have hk' : claims s.outputs i = some _ := hk
    rw [setupIfUsed_of_used hused]
    -- a setup succeeds where the claim settles, and writes that pin; a stuck one keeps the record
    cases hs : settle b.pool (claims s.outputs) i
        ⟨decide ((s.outputs i).type = .pwm), (s.outputs i).pin⟩ with
    | some pin =>
      obtain ⟨hok, hslot⟩ := setup_of_settle hb hk hs
      rw [settleStep_of_settle hk' hs, hok, outputs_eq_of_slot hslot, claims_update]
      refine ⟨?_, by simp⟩
      rw [claim_settled (x := s.slot i) hk hs]
    | none =>
      obtain ⟨⟨e, herr⟩, v, hslot, -⟩ := setup_of_stuck hb hk hs (hflag hused)
      rw [settleStep_of_stuck hk' hs, herr, claims_of_slot_servo hslot]
      exact ⟨rfl, by simp⟩

/-- **On a reliable board a rebuild is a first-fit pass over the claims of the
records.** The two passes go in step, slot by slot, and stop at the same slot
with the same claims. -/
theorem rebuild_refines {b : Board} (hb : b.Reliable) (s : OutputBank) :
    claims (rebuildOutputHardware b s).1.outputs
        = (settleAll b.pool (List.finRange kMaxOutputChannels) (claims s.outputs)).1 ∧
      ((rebuildOutputHardware b s).2 = .ok () ↔
        (settleAll b.pool (List.finRange kMaxOutputChannels) (claims s.outputs)).2 = .ok ()) := by
  -- the relation kept by the loop: equal claims, and clear flags on the slots to come
  let R : List OutputIdx → OutputBank → Claims OutputIdx Pin → Prop := fun l t c =>
    claims t.outputs = c ∧ l.Nodup ∧ FlagsClear l t
  have hstep : ∀ i is t c, R (i :: is) t c →
      R is (setupIfUsed b i t).1 (settleStep b.pool i c).1 ∧
        ((setupIfUsed b i t).2 = .ok () ↔ (settleStep b.pool i c).2 = .ok ()) := by
    rintro i is t _ ⟨rfl, hnodup, hclear⟩
    obtain ⟨hclaims, hiff⟩ := setupIfUsed_refines hb (hclear i List.mem_cons_self)
    obtain ⟨y, hy, -⟩ := setupIfUsed_repinned b i t
    exact ⟨⟨hclaims, (List.nodup_cons.mp hnodup).2, hclear.of_slot hnodup hy⟩, hiff⟩
  obtain ⟨⟨_, hR⟩, hiff⟩ := Pass.run_simulates (setupIfUsed b) (settleStep b.pool) R hstep
    (l := List.finRange kMaxOutputChannels) (s := s.releaseAll) (t := claims s.outputs)
    ⟨by rw [outputs_releaseAll], List.nodup_finRange _, flagsClear_releaseAll s _⟩
  exact ⟨hR.1, hiff⟩

/-- **A rebuild that succeeds leaves a wired table**, whatever the table was. -/
theorem wiringOk_rebuild {b : Board} (hb : b.Reliable) {s : OutputBank}
    (hok : (rebuildOutputHardware b s).2 = .ok ()) :
    WiringOk b (rebuildOutputHardware b s).1.outputs := by
  obtain ⟨hclaims, hiff⟩ := rebuild_refines hb s
  rw [wiringOk_iff, hclaims]
  exact settled_settleAll List.mem_finRange (hiff.mp hok)

/-- A rebuild whose pass leaves the claims leaves the records. -/
theorem outputs_rebuild_of_claims {b : Board} (hb : b.Reliable) {s : OutputBank}
    (h : (settleAll b.pool (List.finRange kMaxOutputChannels) (claims s.outputs)).1
      = claims s.outputs) : (rebuildOutputHardware b s).1.outputs = s.outputs := by
  funext j
  refine (rebuild_repinned b s j).eq_of_claim ?_
  exact congrFun ((rebuild_refines hb s).1.trans h) j

/-- **A wired table is rebuilt as it is.** -/
theorem rebuild_of_wired {b : Board} (hb : b.Reliable) {s : OutputBank} (h : WiringOk b s.outputs) :
    (rebuildOutputHardware b s).2 = .ok () ∧ (rebuildOutputHardware b s).1.outputs = s.outputs := by
  have hpass := settleAll_of_settled (wiringOk_iff.mp h) (List.finRange kMaxOutputChannels)
  refine ⟨(rebuild_refines hb s).2.mpr (by rw [hpass]),
    outputs_rebuild_of_claims hb (by rw [hpass])⟩

/-! ### One record out of place -/

/-- Wired but for one record. -/
def WiringOkBut (b : Board) (e : OutputIdx) (outputs : OutputIdx → OutputChannelConfig) : Prop :=
  Settled b.pool (Function.update (claims outputs) e none)

/-- A rebuild that fails after one record was edited moves nothing. This is the
fact of the library about a failed pass, and records with the same claims are
the same. -/
theorem rebuild_edit_error {b : Board} (hb : b.Reliable) {s : OutputBank} {e : OutputIdx}
    (h : WiringOkBut b e s.outputs) {msg : String}
    (herr : (rebuildOutputHardware b s).2 = .error msg) :
    (rebuildOutputHardware b s).1.outputs = s.outputs := by
  refine outputs_rebuild_of_claims hb (settleAll_error h ?_)
  cases hpass : (settleAll b.pool (List.finRange kMaxOutputChannels) (claims s.outputs)).2 with
  | ok _ =>
    rw [(rebuild_refines hb s).2.mpr hpass] at herr
    cases herr
  | error _ => rfl

/-- The slots of the loop before a given one are those of smaller index. -/
theorem finRange_split (e : OutputIdx) :
    ∃ before after, List.finRange kMaxOutputChannels = before ++ e :: after ∧
      ∀ i, i ∈ before ↔ i < e := by
  obtain ⟨before, after, hsplit⟩ := List.append_of_mem (List.mem_finRange e)
  have hsorted := List.pairwise_lt_finRange kMaxOutputChannels
  rw [hsplit, List.pairwise_append, List.pairwise_cons] at hsorted
  obtain ⟨-, ⟨hafter, -⟩, hbefore⟩ := hsorted
  refine ⟨before, after, hsplit,
    fun i => ⟨fun hi => hbefore i hi e List.mem_cons_self, fun hi => ?_⟩⟩
  have hmem := List.mem_finRange i
  rw [hsplit, List.mem_append, List.mem_cons] at hmem
  rcases hmem with hmem | rfl | hmem
  · exact hmem
  · exact absurd hi (lt_irrefl _)
  · exact absurd hi (lt_asymm (hafter i hmem))

/-- **What a rebuild does to the channels that were not edited.** They keep
their records exactly when no servo of a smaller index was on the pin the edited
channel asks for. Only such a servo is set up first, finds the pin claimed, and
can go elsewhere. -/
theorem rebuild_keeps_iff {b : Board} (hb : b.Reliable) {s : OutputBank} {e : OutputIdx}
    (h : WiringOkBut b e s.outputs) (hused : (s.outputs e).used = true)
    (hok : (rebuildOutputHardware b s).2 = .ok ()) :
    (∀ j, j ≠ e → (rebuildOutputHardware b s).1.outputs j = s.outputs j) ↔
      ∀ i, i < e → (s.outputs i).UsedPwm → (s.outputs i).pin ≠ (s.outputs e).pin := by
  obtain ⟨before, after, hsplit, hbefore⟩ := finRange_split e
  obtain ⟨hclaims, hiff⟩ := rebuild_refines hb s
  have hnodup := List.nodup_finRange kMaxOutputChannels
  have hpass := hiff.mp hok
  rw [hsplit] at hpass hnodup hclaims
  have hkeeps := settleAll_keeps_iff h hnodup hpass
  rw [← hclaims] at hkeeps
  -- a record moves by its pin alone, so the claims tell whether it did
  have hrecords : (∀ j, j ≠ e → (rebuildOutputHardware b s).1.outputs j = s.outputs j) ↔
      ∀ j, j ≠ e → claims (rebuildOutputHardware b s).1.outputs j = claims s.outputs j := by
    constructor
    · intro hj j hne
      exact congrArg OutputChannelConfig.claim (hj j hne)
    · intro hj j hne
      exact (rebuild_repinned b s j).eq_of_claim (hj j hne)
  rw [hrecords, hkeeps]
  constructor
  · intro hclash i hi hpwm hpin
    exact hclash i ((hbefore i).mpr hi) _ _ (OutputChannelConfig.claim_of_used hpwm.1)
      (by simp [hpwm.2]) (OutputChannelConfig.claim_of_used hused) hpin
  · intro hpins i hi k ke hik hm hke hres
    obtain ⟨hui, rfl⟩ := OutputChannelConfig.claim_eq_some.mp hik
    obtain ⟨hue, rfl⟩ := OutputChannelConfig.claim_eq_some.mp hke
    exact hpins i ((hbefore i).mp hi) ⟨hui, of_decide_eq_true hm⟩ hres

/-! ### The slots after a rebuild -/

/-- What a rebuild that succeeds makes of a slot: a servo channel is on some
pin, with its flag and its failsafe pulse, and anything else was released. -/
structure Rebuilt (x y : Slot) : Prop where
  servo : x.record.UsedPwm → ∃ pin, y = x.onPin pin
  other : ¬ x.record.UsedPwm → y = x.released

/-- **A slot after a rebuild**, on any board: released, or set up once after
that. -/
theorem slot_rebuild_cases (b : Board) (s : OutputBank) (j : OutputIdx) :
    (rebuildOutputHardware b s).1.slot j = (s.slot j).released ∧
        ((rebuildOutputHardware b s).2 = .ok () → (s.slot j).record.used = false) ∨
      (s.slot j).record.used = true ∧ ∃ c r,
        Setup b c j (s.slot j).released ((rebuildOutputHardware b s).1.slot j) r ∧
          ((rebuildOutputHardware b s).2 = .ok () → r = .ok ()) := by
  have hlocal : ∀ i t j, j ≠ i → (setupIfUsed b i t).1.slot j = t.slot j := by
    intro i t j hji
    obtain ⟨y, hy, -⟩ := setupIfUsed_repinned b i t
    rw [hy, Function.update_of_ne hji]
  -- the pass stopped before `j`, or its step at `j` found the released slot
  rcases Pass.run_slot slot hlocal (List.nodup_finRange _) (List.mem_finRange j) s.releaseAll
    with ⟨herr, hsame⟩ | ⟨t, ht, hend, hok⟩
  · exact .inl ⟨hsame.trans (slot_releaseAll s j), fun hok => absurd hok herr⟩
  · rw [slot_releaseAll] at ht
    have hrecord : (t.outputs j).used = (s.slot j).record.used := by
      change (t.slot j).record.used = _
      rw [ht, Slot.record_released]
    cases hused : (s.slot j).record.used with
    | false =>
      rw [setupIfUsed_of_unused (hrecord.trans hused)] at hend
      exact .inl ⟨hend.trans ht, fun _ => rfl⟩
    | true =>
      have hused' : (t.outputs j).used = true := hrecord.trans hused
      rw [setupIfUsed_of_used hused'] at hend hok
      obtain ⟨y, hy, hsetup⟩ := setup_cases b hused'
      rw [hy, Function.update_self] at hend
      rw [ht, ← hend] at hsetup
      exact .inr ⟨rfl, _, _, hsetup, hok⟩

/-- **The slots after a rebuild that succeeds**, on any board. -/
theorem slot_rebuild {b : Board} {s : OutputBank} (hok : (rebuildOutputHardware b s).2 = .ok ())
    (j : OutputIdx) : Rebuilt (s.slot j) ((rebuildOutputHardware b s).1.slot j) := by
  rcases slot_rebuild_cases b s j with ⟨hsame, hidle⟩ | ⟨hused, c, r, hsetup, hr⟩
  · exact ⟨fun hpwm => absurd hpwm (OutputChannelConfig.not_usedPwm_of_unused (hidle hok)),
      fun _ => hsame⟩
  · rw [hr hok] at hsetup
    generalize (rebuildOutputHardware b s).1.slot j = y at hsetup ⊢
    cases hsetup with
    | @placed pin hpwm _ =>
      rw [Slot.record_released] at hpwm
      refine ⟨fun _ => ⟨pin, ?_⟩, fun hne => absurd ⟨hused, hpwm⟩ hne⟩
      simp only [Slot.onPin, Slot.failsafeUs, Slot.record_released]
    | stale _ hset _ =>
      -- a released channel has no flag to pass for success
      rw [Slot.flag_released hused] at hset
      cases hset
    | level hswitch _ =>
      rw [Slot.record_released] at hswitch
      exact ⟨fun hpwm => absurd hpwm (OutputChannelConfig.not_usedPwm_of_switch hswitch),
        fun _ => rfl⟩

/-- After a rebuild that succeeds every servo is attached to the pin of its
record. -/
theorem servo_rebuild {b : Board} {s : OutputBank} (hok : (rebuildOutputHardware b s).2 = .ok ())
    {j : OutputIdx} (hpwm : ((rebuildOutputHardware b s).1.outputs j).UsedPwm) :
    (rebuildOutputHardware b s).1.pwmAttached j = true ∧
      ((rebuildOutputHardware b s).1.pwmOutputs j).pin
        = some ((rebuildOutputHardware b s).1.outputs j).pin := by
  have hold : (s.slot j).record.UsedPwm := (rebuild_repinned b s j).usedPwm.mp hpwm
  obtain ⟨pin, hpin⟩ := (slot_rebuild hok j).servo hold
  change ((rebuildOutputHardware b s).1.slot j).flag = true ∧
    ((rebuildOutputHardware b s).1.slot j).servo.pin
      = some ((rebuildOutputHardware b s).1.slot j).record.pin
  rw [hpin]
  exact ⟨rfl, rfl⟩

end OutputBank

end RcController
