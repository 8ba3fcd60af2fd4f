import RcController.Lib.Placement
import RcController.Wiring.Apply

/-!
# Remapping a preset onto a board

A preset that comes from another board may ask for servo pins without PWM. The channel
loop moves such a channel to the first free pin that has PWM, where free means free of
the channels placed so far: `firstAvailablePwmPin` does not look ahead in the blob. A
remapped channel can therefore take the pin of a later one, which is then moved as well,
or fails when it drives a switch.

`remap_iff` says when this does not happen, in numbers: below every PWM pin that a later
channel asks for there are as many spare pins as there are channels to remap so far. The
argument is about first-fit placement in general (`FirstFit.placeAll_keeps_iff`); here the
layout of a blob is recognised as such a placement (`layout_places`).
-/

namespace RcController

open FirstFit OutputBank DeviceProg

/-! ### Pins in order -/

/-- The order in which pins are tried. -/
instance linearOrderPin : LinearOrder UInt8 where
  le_refl := UInt8.le_refl
  le_trans _ _ _ := UInt8.le_trans
  le_antisymm _ _ := UInt8.le_antisymm
  le_total := UInt8.le_total
  lt_iff_le_not_ge _ _ := by
    simp only [UInt8.lt_iff_toNat_lt, UInt8.le_iff_toNat_le]
    omega
  toDecidableLE := inferInstance
  toDecidableEq := inferInstance
  toDecidableLT := inferInstance
  min a b := if a ≤ b then a else b
  max a b := if a ≤ b then b else a
  compare_eq_compareOfLessAndEq := by intros; rfl

/-- The pins are tried from the smallest on. -/
theorem scanPins_sorted : scanPins.Pairwise (· < ·) := by decide +kernel

/-- All pins up to 48 are tried. -/
theorem mem_scanPins {p : Pin} (h : p ≤ 48) : p ∈ scanPins := by
  have hlt : p.toNat < 49 := by
    have hle : p.toNat ≤ 48 := UInt8.le_iff_toNat_le.mp h
    omega
  unfold scanPins
  exact List.mem_map.mpr ⟨p.toNat, List.mem_range.mpr hlt, UInt8.ofNat_toNat⟩

/-! ### What a preset asks for -/

/-- A servo channel on a pin that has no PWM. -/
def NeedsRemap (b : Board) (cfg : PersistedConfig) (i : OutputIdx) : Prop :=
  (decodeChannels cfg i).UsedPwm ∧ b.hasPwm (decodeChannels cfg i).pin = false

instance (b : Board) (cfg : PersistedConfig) : DecidablePred (NeedsRemap b cfg) :=
  fun _ => inferInstanceAs (Decidable (_ ∧ _))

/-- The PWM pins that no channel of the blob asks for. -/
def sparePins (b : Board) (cfg : PersistedConfig) : Finset Pin :=
  scanPins.toFinset.filter fun p => b.hasPwm p = true ∧
    ∀ i, (decodeChannels cfg i).used = true → (decodeChannels cfg i).pin ≠ p

/-- Below every PWM pin that a later channel asks for there are as many spare
pins as there are channels to remap so far. -/
def SparePinsBelow (b : Board) (cfg : PersistedConfig) : Prop :=
  ∀ i, NeedsRemap b cfg i → ∀ j, i < j → (decodeChannels cfg j).used = true →
    b.hasPwm (decodeChannels cfg j).pin = true →
    (Finset.univ.filter fun m => m ≤ i ∧ NeedsRemap b cfg m).card
      ≤ ((sparePins b cfg).filter (· < (decodeChannels cfg j).pin)).card

/-- The apply succeeds, and the channels that had to be moved are the only ones
that were. -/
def RemapsExactly (b : Board) (cfg : PersistedConfig) (r : RcModel × Except String Unit) : Prop :=
  r.2 = .ok () ∧ ∀ i, (decodeChannels cfg i).used = true →
    ((r.1.bank.outputs i).pin ≠ (decodeChannels cfg i).pin ↔ NeedsRemap b cfg i)

section Requests

variable {b : Board} {cfg : PersistedConfig}

/-- A misfit among the requests is a channel that has to be moved. -/
theorem misfit_iff {i : OutputIdx} :
    misfit b.pool (claims (decodeChannels cfg)) i = true ↔ NeedsRemap b cfg i := by
  rw [misfit_eq_true]
  constructor
  · rintro ⟨k, hk, hmovable, hincapable⟩
    obtain ⟨hused, rfl⟩ := OutputChannelConfig.claim_eq_some.mp hk
    exact ⟨⟨hused, of_decide_eq_true hmovable⟩, hincapable⟩
  · rintro ⟨⟨hused, htype⟩, hincapable⟩
    exact ⟨_, OutputChannelConfig.claim_of_used hused, decide_eq_true htype, hincapable⟩

/-- A spare resource is a spare pin. -/
theorem spare_eq : spare b.pool (claims (decodeChannels cfg)) = sparePins b cfg := by
  unfold spare sparePins
  ext p
  simp only [Finset.mem_filter]
  refine and_congr_right fun _ => and_congr_right fun _ => ?_
  constructor
  · intro h i hused
    exact h i _ (OutputChannelConfig.claim_of_used hused)
  · intro h i k hk
    obtain ⟨hused, rfl⟩ := OutputChannelConfig.claim_eq_some.mp hk
    exact h i hused

/-- So the conditions on the two sides are the same. -/
theorem spareBelow_iff :
    SpareBelow b.pool (claims (decodeChannels cfg)) ↔ SparePinsBelow b cfg := by
  -- the misfits are the channels that need a remap
  have hcard : ∀ i, (misfitsUpTo b.pool (claims (decodeChannels cfg)) i).card
      = (Finset.univ.filter fun m => m ≤ i ∧ NeedsRemap b cfg m).card := by
    intro i
    congr 1
    ext m
    simp only [misfitsUpTo, Finset.mem_filter, Finset.mem_univ, true_and, misfit_iff]
  unfold SpareBelow SparePinsBelow
  simp only [misfit_iff, hcard, spare_eq]
  refine forall_congr' fun i => imp_congr_right fun _ => forall_congr' fun j => ?_
  constructor
  · intro h hlt hused hcap
    have hbelow := h ⟨decide ((decodeChannels cfg j).type = .pwm), (decodeChannels cfg j).pin⟩ hlt
      (OutputChannelConfig.claim_of_used hused) hcap
    dsimp only at hbelow
    exact hbelow
  · intro h k hlt hk hcap
    obtain ⟨hused, rfl⟩ := OutputChannelConfig.claim_eq_some.mp hk
    have hbelow := h hlt hused hcap
    dsimp only
    exact hbelow

/-! ### The layout as a placement -/

/-- **The layout of a blob places its requests**, when its sources are valid.
The two passes go in step: a step of either settles a request among those placed
before it. -/
theorem layout_places
    (hsrc : ∀ i, (cfg.channels i).used ≠ 0 → (cfg.channels i).sourcesValid = true) :
    claims (layout b cfg).1.records
        = (placeAll b.pool (claims (decodeChannels cfg)) (List.finRange kMaxOutputChannels)).1 ∧
      (LaysOut b cfg ↔
        (placeAll b.pool (claims (decodeChannels cfg)) (List.finRange kMaxOutputChannels)).2
          = .ok ()) := by
  have hstep : ∀ i (_ : List OutputIdx) l c, claims l.records = c →
      claims (layoutStep b cfg i l).1.records
          = (placeStep b.pool (claims (decodeChannels cfg)) i c).1 ∧
        ((layoutStep b cfg i l).2 = .ok () ↔
          (placeStep b.pool (claims (decodeChannels cfg)) i c).2 = .ok ()) := by
    rintro i - l _ rfl
    -- slot by slot the layout makes the step that the placement makes
    by_cases hused : (cfg.channels i).used = 0
    · have hnone : claims (decodeChannels cfg) i = none := by
        unfold claims decodeChannels
        rw [if_neg (not_not.mpr hused)]
        rfl
      rw [layoutStep_unused hused, placeStep_of_none hnone]
      exact ⟨rfl, Iff.rfl⟩
    · have hreq :
        claims (decodeChannels cfg) i = some (decodeChannel (cfg.channels i)).usedClaim := by
        unfold claims
        rw [decodeChannels_of_used hused]
        exact OutputChannelConfig.claim_of_used rfl
      cases hs : settle b.pool (claims l.records) i (decodeChannel (cfg.channels i)).usedClaim with
      | none =>
        rw [layoutStep_stuck hused (hsrc i hused) hs, placeStep_of_stuck hreq hs]
        refine ⟨?_, by simp⟩
        change claims (Function.update _ i _) = _
        rw [claims_update]
        rfl
      | some pin =>
        rw [layoutStep_settle hused (hsrc i hused) hs, placeStep_of_settle hreq hs]
        refine ⟨?_, Iff.rfl⟩
        change claims (Function.update _ i _) = _
        rw [claims_update]
        rfl
  obtain ⟨⟨-, hclaims⟩, hok⟩ := Pass.run_simulates (layoutStep b cfg)
    (placeStep b.pool (claims (decodeChannels cfg))) (fun _ l c => claims l.records = c) hstep
    (l := List.finRange kMaxOutputChannels) (s := {}) (t := fun _ => none) rfl
  exact ⟨hclaims, hok⟩

/-- What is laid out is what the blob asks for, at most on other pins. -/
theorem layout_repinned (h : LaysOut b cfg) (i : OutputIdx) :
    Repinned (decodeChannels cfg i) ((layout b cfg).1.records i) := by
  -- the slots that are done hold what they asked for, the others nothing
  let motive : List OutputIdx → Layout → Prop := fun rest l => rest.Nodup ∧
    (∀ j ∈ rest, l.records j = {}) ∧ ∀ j, j ∉ rest → Repinned (decodeChannels cfg j) (l.records j)
  suffices hstep : ∀ i is l, motive (i :: is) l → (layoutStep b cfg i l).2 = .ok () →
      motive is (layoutStep b cfg i l).1 by
    have hstart : motive (List.finRange kMaxOutputChannels) {} :=
      ⟨List.nodup_finRange _, fun _ _ => rfl, fun j hj => absurd (List.mem_finRange j) hj⟩
    exact (Pass.run_ok motive hstep hstart h).2.2 i List.not_mem_nil
  rintro i is l ⟨hnodup, hempty, hplaced⟩ hok
  obtain ⟨hnot, hnodup'⟩ := List.nodup_cons.mp hnodup
  refine ⟨hnodup', fun j hj => ?_, fun j hj => ?_⟩
  · have hji : j ≠ i := fun heq => hnot (heq ▸ hj)
    rw [(layoutStep_of_ne hji).1]
    exact hempty j (List.mem_cons_of_mem i hj)
  · by_cases hji : j = i
    · subst hji
      rcases layoutStep_ok_cases hok with ⟨hunused, hstep⟩ | ⟨hused, -, pin, -, hstep⟩
      · rw [hstep, hempty j List.mem_cons_self, decodeChannels, if_neg (not_not.mpr hunused)]
        exact .refl _
      · rw [hstep, decodeChannels_of_used hused]
        simp only [Layout.put, Function.update_self]
        exact ⟨rfl, fun h => by cases h⟩
    · rw [(layoutStep_of_ne hji).1]
      exact hplaced j fun hmem => (List.mem_cons.mp hmem).elim hji hj

/-- A layout that keeps every request it can keep moves exactly the channels
that have to. -/
theorem remapsExactly_iff_kept :
    (LaysOut b cfg ∧ ∀ i, (decodeChannels cfg i).used = true →
      (((layout b cfg).1.records i).pin ≠ (decodeChannels cfg i).pin ↔ NeedsRemap b cfg i)) ↔
    LaysOut b cfg ∧ ∀ i k, claims (decodeChannels cfg) i = some k →
      misfit b.pool (claims (decodeChannels cfg)) i = false →
        claims (layout b cfg).1.records i = some k := by
  refine and_congr_right fun hlays => ?_
  constructor
  · intro h i k hk hfits
    obtain ⟨hused, rfl⟩ := OutputChannelConfig.claim_eq_some.mp hk
    have hpin : ((layout b cfg).1.records i).pin = (decodeChannels cfg i).pin := by
      by_contra hne
      rw [misfit_iff.mpr ((h i hused).mp hne)] at hfits
      cases hfits
    have hsame : (layout b cfg).1.records i = decodeChannels cfg i := by
      rw [(layout_repinned hlays i).eq, hpin]
    unfold claims
    rw [hsame]
    exact OutputChannelConfig.claim_of_used hused
  · intro h i hused
    constructor
    · intro hne
      by_contra hfits
      have hkept := h i _ (OutputChannelConfig.claim_of_used hused)
        (Bool.eq_false_iff.mpr fun hmis => hfits (misfit_iff.mp hmis))
      have hclaim := (OutputChannelConfig.claim_eq_some.mp hkept).2
      exact hne (congrArg Claim.res hclaim).symm
    · rintro ⟨hpwm, hincapable⟩ heq
      -- what is laid out is on a pin with PWM
      have hcap := (wiringOk_layout hlays).capable i ((layout_repinned hlays i).usedPwm.mpr hpwm)
      rw [heq, hincapable] at hcap
      cases hcap

end Requests

/-! ### The apply -/

/-- **When the remap is minimal and complete.** The apply follows the layout,
the layout is a placement, and the library says when a placement keeps every
request that can be kept. -/
theorem remap_iff {b : Board} (hb : b.Reliable) (hpins : ∀ p, b.hasPwm p = true → p ≤ 48)
    {cfg : PersistedConfig} (hheader : cfg.HeaderOk)
    (hsrc : ∀ i, (cfg.channels i).used ≠ 0 → (cfg.channels i).sourcesValid = true)
    (hdistinct : ∀ i j, (decodeChannels cfg i).used = true → (decodeChannels cfg j).used = true →
      (decodeChannels cfg i).pin = (decodeChannels cfg j).pin → i = j)
    (hspare : (Finset.univ.filter (NeedsRemap b cfg)).card ≤ (sparePins b cfg).card) {s : RcModel}
    (hstray : ∀ i, s.bank.pwmAttached i = true → (s.bank.outputs i).used = true)
    (plan : Prog.Plan nvsInterface) (n : NvsStore) :
    RemapsExactly b cfg ((applyPersistedConfig b cfg s).run nvsDevice plan n).1 ↔
      SparePinsBelow b cfg := by
  have hr : ((applyPersistedConfig b cfg s).run nvsDevice plan n).1 = applyTables b cfg s :=
    (applyPersistedConfig_always b cfg s).run nvsDevice plan n
  -- the apply is the layout of the blob
  have happly : RemapsExactly b cfg (applyTables b cfg s) ↔
      LaysOut b cfg ∧ ∀ i, (decodeChannels cfg i).used = true →
        (((layout b cfg).1.records i).pin ≠ (decodeChannels cfg i).pin ↔ NeedsRemap b cfg i) := by
    obtain ⟨-, hiff⟩ := place_refines_layout hb cfg (clear_teardown hstray)
    constructor
    · rintro ⟨hok, hmoved⟩
      have hlays := hiff.mp (place_of_applyTables hok).2
      rw [(applyTables_of_laysOut hb hheader hlays s).2.2] at hmoved
      exact ⟨hlays, hmoved⟩
    · rintro ⟨hlays, hmoved⟩
      obtain ⟨hok, -, houtputs⟩ := applyTables_of_laysOut hb hheader hlays s
      exact ⟨hok, by rw [houtputs]; exact hmoved⟩
  obtain ⟨hclaims, hlaysOut⟩ := layout_places (b := b) hsrc
  rw [hr, happly, remapsExactly_iff_kept, hclaims, hlaysOut, ← spareBelow_iff]
  refine placeAll_keeps_iff scanPins_sorted (fun p hp => mem_scanPins (hpins p hp)) ?_ ?_
    (List.pairwise_lt_finRange _) List.mem_finRange
  · intro i j k l hi hj hres
    obtain ⟨hui, rfl⟩ := OutputChannelConfig.claim_eq_some.mp hi
    obtain ⟨huj, rfl⟩ := OutputChannelConfig.claim_eq_some.mp hj
    exact hdistinct i j hui huj hres
  · simpa only [misfit_iff, spare_eq] using hspare

/-! ### A misfit before another channel -/

/-- A servo channel on pin 0, which has no PWM, and a second channel behind
it. -/
def afterMisfit (second : PersistedChannel) : PersistedConfig :=
  { builtinHeader with
    channels := fun i => if i = 0 then { used := 1 } else if i = 1 then second else {} }

/-- The pins of the small board are among those that are tried. -/
theorem smallBoard_pins (p : Pin) (h : smallBoard.hasPwm p = true) : p ≤ 48 := by
  rcases of_decide_eq_true h with rfl | rfl <;> decide

/-- The misfit gets pin 4, and the servo on pin 5 stays there. -/
theorem remap_iff_servo_on_5 :
    RemapsExactly smallBoard (afterMisfit { used := 1, pin := 5 })
        ((applyPersistedConfig smallBoard (afterMisfit { used := 1, pin := 5 }) {}).run nvsDevice
          (fun _ _ => false) {}).1 ↔
      SparePinsBelow smallBoard (afterMisfit { used := 1, pin := 5 }) :=
  remap_iff smallBoard_reliable smallBoard_pins ⟨rfl, rfl⟩ (by decide +kernel) (by decide +kernel)
    (by decide +kernel) (fun i hi => by cases hi) (fun _ _ => false) {}

/-- The misfit takes pin 4 from the switch behind it, and the apply fails
although pin 5 is free. -/
theorem remap_takes_later_pin :
    let cfg := afterMisfit { used := 1, type := ChannelType.switch.toByte, pin := 4 }
    cfg.HeaderOk ∧ (∀ i, (cfg.channels i).used ≠ 0 → (cfg.channels i).sourcesValid = true) ∧
      (∀ i j, (decodeChannels cfg i).used = true → (decodeChannels cfg j).used = true →
        (decodeChannels cfg i).pin = (decodeChannels cfg j).pin → i = j) ∧
      (Finset.univ.filter (NeedsRemap smallBoard cfg)).card ≤ (sparePins smallBoard cfg).card ∧
      ((applyPersistedConfig smallBoard cfg {}).eval nvsDevice {}).1.2
        = .error "Invalid preset: Pin already used" ∧
      ¬ RemapsExactly smallBoard cfg
        ((applyPersistedConfig smallBoard cfg {}).eval nvsDevice {}).1 := by
  intro cfg
  have hfails : ((applyPersistedConfig smallBoard cfg {}).eval nvsDevice {}).1.2
      = .error "Invalid preset: Pin already used" := by decide +kernel
  refine ⟨⟨rfl, rfl⟩, by decide +kernel, by decide +kernel, by decide +kernel, hfails, fun h => ?_⟩
  have hok := h.1
  rw [hfails] at hok
  cases hok

end RcController
