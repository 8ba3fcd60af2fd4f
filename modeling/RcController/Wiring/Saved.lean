import RcController.Wiring.Ranges

/-!
# Tables that a blob brings back

A configuration is saved when the blob kept of it, applied again, succeeds and leaves
both tables as they are (`AppliesIdle`). That asks the hardware too. `Saved` says the
same of the blob and the tables alone: the blob can be laid out, and the tables are what
it decodes to. The two agree on a reliable board (`appliesIdle_iff`).

The difficulty is a flag that survived the teardown. It lets the channel loop go on where
the layout stops, with a channel on a pin it cannot have; `placed_beyond_layout` says
what that leaves behind. A second apply cannot profit from the same flag, and no other
blob lays out such a table.
-/

namespace RcController

open FirstFit OutputBank

/-! ### Where the channel loop leaves the layout -/

namespace OutputBank

section Stuck

variable {b : Board} {i : OutputIdx} {s : OutputBank}

/-- A claim that is stuck leaves the record on the pin it asks for, whatever the
flag says. -/
theorem outputs_setup_of_stuck (hb : b.Reliable) {k : Claim Pin} (hk : (s.outputs i).claim = some k)
    (hs : settle b.pool (claims s.outputs) i k = none) :
    (setupOutputHardware b i s).1.outputs = s.outputs := by
  obtain ⟨hused, rfl⟩ := OutputChannelConfig.claim_eq_some.mp hk
  cases htype : (s.outputs i).type with
  | pwm =>
    obtain ⟨v, hv, -⟩ := slot_setPeriodHertz_of_reliable hb i s
    have hperiod : (setPeriodHertz b i s).outputs = s.outputs := by
      rw [outputs_eq_of_slot hv]
      exact Function.update_eq_self i s.outputs
    -- the search ends without a pin
    have hpick : pick b.pool (claims s.outputs) i (s.outputs i).pin = none := by
      simpa [settle, htype] using hs
    have hsearch := searchPin_of_reliable hb i (setPeriodHertz b i s)
    rw [hperiod, hpick] at hsearch
    have hout : (searchPin b i (setPeriodHertz b i s)).outputs = s.outputs := by
      rw [← hperiod]
      exact congrArg (fun slots j => Slot.record (slots j)) hsearch
    rw [setupOutputHardware_pwm htype]
    dsimp only
    split
    · rw [outputs_writeFailsafeForOutput, hout]
    · exact hout
  | switch =>
    have htaken : Taken (claims s.outputs) i (s.outputs i).pin := by
      by_contra hfree
      simp [settle, htype, hfree] at hs
    unfold setupOutputHardware
    rw [htype]
    dsimp only
    rw [if_pos (by rw [outputPinAlreadyUsed_eq]; exact decide_eq_true htaken)]

/-- A stuck channel that is placed all the same had its flag set, and holds what
was asked for. -/
theorem place_stuck_ok (hb : b.Reliable) {pc : PersistedChannel} (h : pc.used ≠ 0)
    (hsrc : pc.sourcesValid = true)
    (hs : settle b.pool (claims s.outputs) i (decodeChannel pc).usedClaim = none)
    (hok : (placeChannel b pc i s).2 = .ok ()) :
    s.pwmAttached i = true ∧
      (placeChannel b pc i s).1.outputs = Function.update s.outputs i (decodeChannel pc) := by
  constructor
  · by_contra hflag
    obtain ⟨⟨e, herr⟩, -⟩ := place_of_stuck hb h hsrc hs (by simpa using hflag)
    rw [herr] at hok
    cases hok
  · rw [place_eq h hsrc] at hok ⊢
    rcases settle_entryRecord.2 hs with hentry | hentry
    · rw [hentry] at hok
      cases hok
    · rw [hentry]
      exact outputs_setup_of_stuck hb (claim_setOutput (decodeChannel_used pc))
        ((settle_setOutput _ _).trans hs)

/-- Placing a channel leaves the records of the others. -/
theorem outputs_placeChannel_of_ne (pc : PersistedChannel) {j : OutputIdx} (h : j ≠ i) :
    (placeChannel b pc i s).1.outputs j = s.outputs j := by
  obtain ⟨y, hy, -⟩ := place_record b pc i s
  rw [outputs_eq_of_slot hy, Function.update_of_ne h]

end Stuck

/-- A table that holds a stuck channel, and the claims it was stuck on, is not
wired. -/
theorem not_wiringOk_of_stuck {b : Board} {i : OutputIdx} {c : OutputChannelConfig}
    {old outputs : OutputIdx → OutputChannelConfig} (hused : c.used = true)
    (hs : settle b.pool (claims old) i c.usedClaim = none) (hself : outputs i = c)
    (hclaimed : ∀ j, j ≠ i → (old j).used = true → outputs j = old j) : ¬ WiringOk b outputs := by
  intro hwired
  -- otherwise the claim would have been settled where it is
  have hfree : ¬ Taken (claims old) i c.pin := by
    rintro ⟨j, k, hji, hj, hres⟩
    obtain ⟨huj, rfl⟩ := OutputChannelConfig.claim_eq_some.mp hj
    have hsame := hclaimed j hji huj
    refine hji (hwired.distinct j i (by rwa [hsame]) (by rwa [hself]) ?_)
    rw [hsame, hself]
    exact hres
  have hsettled : settle b.pool (claims old) i c.usedClaim = some c.pin := by
    refine settle_eq_self (k := c.usedClaim) hfree fun hmovable => ?_
    have hcap := hwired.capable i
    rw [hself] at hcap
    exact hcap ⟨hused, of_decide_eq_true hmovable⟩
  rw [hs] at hsettled
  cases hsettled

/-- The channel loop over some of the slots. -/
def placeLoop (b : Board) (cfg : PersistedConfig) (l : List OutputIdx) (s : OutputBank) :
    OutputBank × Except String Unit :=
  Pass.run (fun i => placeChannel b (cfg.channels i) i) l s

section PlaceLoop

variable {b : Board} {cfg : PersistedConfig} {i : OutputIdx} {is : List OutputIdx} {s : OutputBank}

/-- A channel that is placed is followed by the rest, and one that is not ends
the loop. -/
theorem placeLoop_cons_ok (h : (placeChannel b (cfg.channels i) i s).2 = .ok ()) :
    placeLoop b cfg (i :: is) s = placeLoop b cfg is (placeChannel b (cfg.channels i) i s).1 := by
  unfold placeLoop
  exact Pass.run_cons_ok h

theorem placeLoop_cons_error {e : String} (h : (placeChannel b (cfg.channels i) i s).2 = .error e) :
    placeLoop b cfg (i :: is) s = placeChannel b (cfg.channels i) i s := by
  unfold placeLoop
  exact Pass.run_cons_error h

/-- The loop over some slots keeps the records of the others. -/
theorem outputs_placeLoop_of_not_mem (b : Board) (cfg : PersistedConfig) {l : List OutputIdx}
    {j : OutputIdx} (hj : j ∉ l) (s : OutputBank) :
    (placeLoop b cfg l s).1.outputs j = s.outputs j := by
  induction l generalizing s with
  | nil => rfl
  | cons i is ih =>
    have hji : j ≠ i := fun heq => hj (heq ▸ List.mem_cons_self)
    have hstep : (placeChannel b (cfg.channels i) i s).1.outputs j = s.outputs j :=
      outputs_placeChannel_of_ne _ hji
    cases hi : (placeChannel b (cfg.channels i) i s).2 with
    | ok _ => rw [placeLoop_cons_ok hi, ih (fun hmem => hj (List.mem_cons_of_mem i hmem)), hstep]
    | error e => rw [placeLoop_cons_error hi, hstep]

/-- A loop that succeeds went through its first slot. -/
theorem place_of_placeLoop (hok : (placeLoop b cfg (i :: is) s).2 = .ok ()) :
    (placeChannel b (cfg.channels i) i s).2 = .ok () := by
  cases hi : (placeChannel b (cfg.channels i) i s).2 with
  | ok _ => rfl
  | error e =>
    rw [placeLoop_cons_error hi, hi] at hok
    cases hok

end PlaceLoop

/-- What a channel loop leaves that succeeds although the layout fails: a
channel in use whose flag survived the teardown, and a table that is not
wired. -/
structure Misplaced (b : Board) (t s : OutputBank) : Prop where
  stray : ∃ i, t.pwmAttached i = true ∧ (s.outputs i).used = true
  notWired : ¬ WiringOk b s.outputs

/-- **A channel loop that succeeds where the layout fails.** The induction
follows both passes; up to the channel the layout stops at, the bank follows the
layout. -/
theorem place_beyond {b : Board} (hb : b.Reliable) {cfg : PersistedConfig} {t : OutputBank}
    (ht : t.outputs = fun _ => {}) {l : List OutputIdx} {s : OutputBank} {lay : Layout}
    (h : Follows b t l s lay) (hok : (placeLoop b cfg l s).2 = .ok ())
    (hstop : (Pass.run (layoutStep b cfg) l lay).2 ≠ .ok ()) :
    Misplaced b t (placeLoop b cfg l s).1 := by
  induction l generalizing s lay with
  | nil => exact absurd rfl hstop
  | cons i is ih =>
    have hplaced := place_of_placeLoop hok
    cases hlay : (layoutStep b cfg i lay).2 with
    | ok _ =>
      rw [placeLoop_cons_ok hplaced] at hok ⊢
      rw [Pass.run_cons_ok hlay] at hstop
      exact ih (h.place hb hlay).2 hok hstop
    | error _ =>
      obtain ⟨hused, ⟨hsrc, -⟩ | ⟨hsrc, hs, -⟩⟩ := layoutStep_error_cases hlay
      · rw [place_invalid hused hsrc] at hplaced
        cases hplaced
      · rw [← h.records] at hs
        obtain ⟨hflag, houtputs⟩ := place_stuck_ok hb hused hsrc hs hplaced
        obtain ⟨hnot, -⟩ := List.nodup_cons.mp h.nodup
        rw [placeLoop_cons_ok hplaced]
        -- the rest of the loop leaves this channel and the claims it was stuck on
        have hself : (placeLoop b cfg is (placeChannel b (cfg.channels i) i s).1).1.outputs i
            = decodeChannel (cfg.channels i) := by
          rw [outputs_placeLoop_of_not_mem b cfg hnot, houtputs, Function.update_self]
        have hclaimed : ∀ j, j ≠ i → (s.outputs j).used = true →
            (placeLoop b cfg is (placeChannel b (cfg.channels i) i s).1).1.outputs j
              = s.outputs j := by
          intro j hji huj
          have hdone : j ∉ is := by
            intro hmem
            have hahead := congrArg Slot.record (h.ahead j (List.mem_cons_of_mem i hmem))
            have hblank : s.outputs j = {} := hahead.trans (congrFun ht j)
            rw [hblank] at huj
            cases huj
          rw [outputs_placeLoop_of_not_mem b cfg hdone, houtputs, Function.update_of_ne hji]
        have hflag' : t.pwmAttached i = true := by
          have hahead := congrArg Slot.flag (h.ahead i List.mem_cons_self)
          exact hahead.symm.trans hflag
        refine ⟨⟨i, hflag', ?_⟩, not_wiringOk_of_stuck rfl hs hself hclaimed⟩
        rw [hself]
        rfl

/-- **What an apply leaves that succeeds with a blob that cannot be laid out.**
The next apply releases the channel and clears its flag, so it cannot pass a
second time. -/
theorem placed_beyond_layout {b : Board} (hb : b.Reliable) {cfg : PersistedConfig} {s : OutputBank}
    (hok : (s.teardown.placeChannels b cfg).2 = .ok ()) (hstop : ¬ LaysOut b cfg) :
    Misplaced b s.teardown (s.teardown.placeChannels b cfg).1 :=
  place_beyond hb (outputs_teardown s) (.initial _ (outputs_teardown s)) hok hstop

end OutputBank

/-! ### Saved tables -/

/-- Applying the blob succeeds and leaves both tables as they are. -/
def AppliesIdle (b : Board) (cfg : PersistedConfig) (s : RcModel) : Prop :=
  (applyTables b cfg s).2 = .ok () ∧ (applyTables b cfg s).1.virtualInputs = s.virtualInputs ∧
    (applyTables b cfg s).1.bank.outputs = s.bank.outputs

/-- **The tables are what the blob decodes to**, and it can be laid out. -/
structure Saved (b : Board) (cfg : PersistedConfig) (s : RcModel) : Prop where
  header : cfg.HeaderOk
  laysOut : LaysOut b cfg
  inputs : s.virtualInputs = decodeVirtualInputs cfg
  outputs : s.bank.outputs = (layout b cfg).1.records

/-- The channel loop fails, from this bank torn down. -/
def Rejects (b : Board) (cfg : PersistedConfig) (s : OutputBank) : Prop :=
  (s.teardown.placeChannels b cfg).2 ≠ .ok ()

/-- Two blobs that can be laid out and decode to the same tables. -/
structure SameTables (b : Board) (cfg c : PersistedConfig) : Prop where
  laysOut : LaysOut b cfg
  laysOut' : LaysOut b c
  inputs : decodeVirtualInputs cfg = decodeVirtualInputs c
  outputs : (layout b cfg).1.records = (layout b c).1.records

section Tables

variable {b : Board} {cfg c : PersistedConfig} {s s' : RcModel}

/-- Tables that are saved are wired, for they were laid out. -/
theorem Saved.wiringOk (h : Saved b cfg s) : WiringOk b s.bank.outputs := by
  rw [h.outputs]
  exact wiringOk_layout h.laysOut

/-- The tables are all that counts. -/
theorem Saved.congr (h : Saved b cfg s) (hinputs : s'.virtualInputs = s.virtualInputs)
    (houtputs : s'.bank.outputs = s.bank.outputs) : Saved b cfg s' :=
  ⟨h.header, h.laysOut, hinputs.trans h.inputs, houtputs.trans h.outputs⟩

/-- A blob that can be laid out is not rejected. -/
theorem LaysOut.not_rejects (hb : b.Reliable) (h : LaysOut b cfg) (s : OutputBank) :
    ¬ Rejects b cfg s := not_not_intro (place_follows_layout hb h s).1

/-- A blob that was applied was not rejected, and one that was not applied, with
a header that is right, was. -/
theorem not_rejects_of_applied (h : (applyTables b cfg s).2 = .ok ()) : ¬ Rejects b cfg s.bank :=
  not_not_intro (place_of_applyTables h).2

theorem rejects_of_error (hcfg : cfg.HeaderOk) {e : String}
    (h : (applyTables b cfg s).2 = .error e) :
    Rejects b cfg s.bank := by
  intro hok
  rw [applyTables_ok hcfg hok] at h
  cases h

/-- The flags of the channels in use are cleared by the teardown. -/
theorem teardown_flag_of_used {s : OutputBank} {j : OutputIdx} (h : (s.outputs j).used = true) :
    s.teardown.pwmAttached j = false := by
  change (s.teardown.slot j).flag = false
  rw [slot_teardown]
  exact Slot.flag_released h

/-- **A blob applied to any tables**, and whether it succeeds or not: they are
saved after it exactly when it can be laid out. If it cannot, it was rejected,
or it left a table that is not wired. -/
theorem saved_apply_iff (hb : b.Reliable) (hcfg : cfg.HeaderOk) :
    Saved b cfg (applyTables b cfg s).1 ↔ LaysOut b cfg := by
  refine ⟨fun h => h.laysOut, fun h => ?_⟩
  obtain ⟨-, hinputs, houtputs⟩ := applyTables_of_laysOut hb hcfg h s
  exact ⟨hcfg, h, hinputs, houtputs⟩

/-- After a successful apply of one blob the tables are saved as another one
exactly when the two have the same tables. A blob that was placed beyond its
layout has no other one. -/
theorem saved_applied_iff (hb : b.Reliable) (hc : c.HeaderOk)
    (hok : (applyTables b cfg s).2 = .ok ()) :
    Saved b c (applyTables b cfg s).1 ↔ SameTables b cfg c := by
  obtain ⟨hcfg, hplace⟩ := place_of_applyTables hok
  constructor
  · intro h
    -- a table that stops before the layout does is not a wired one
    have hlays : LaysOut b cfg := by
      by_contra hstop
      have hwired := h.wiringOk
      rw [applyTables_ok hcfg hplace] at hwired
      refine (placed_beyond_layout hb hplace hstop).notWired ?_
      rwa [← outputs_applyFailsafeAllOutputs]
    obtain ⟨-, hinputs, houtputs⟩ := applyTables_of_laysOut hb hcfg hlays s
    exact ⟨hlays, h.laysOut, hinputs.symm.trans h.inputs, houtputs.symm.trans h.outputs⟩
  · intro h
    obtain ⟨-, hinputs, houtputs⟩ := applyTables_of_laysOut hb hcfg h.laysOut s
    exact ⟨hc, h.laysOut', hinputs.trans h.inputs, houtputs.trans h.outputs⟩

/-- A rejected apply leaves saved tables saved exactly when every servo comes
back to its pin. -/
theorem saved_rejected_iff (hb : b.Reliable) (hcfg : cfg.HeaderOk) (h : Saved b c s)
    (hrejects : Rejects b cfg s.bank) : Saved b c (applyTables b cfg s).1 ↔
      RestoresPins b s.bank (s.bank.teardown.placeChannels b cfg).1.outputs := by
  obtain ⟨e, hplace⟩ : ∃ e, (s.bank.teardown.placeChannels b cfg).2 = .error e := by
    cases hplace : (s.bank.teardown.placeChannels b cfg).2 with
    | ok _ => exact absurd hplace hrejects
    | error e => exact ⟨e, rfl⟩
  rw [applyTables_error hcfg hplace, ← outputs_restoreOld_iff hb]
  exact ⟨fun h' => h'.outputs.trans h.outputs.symm, fun hback => h.congr rfl hback⟩

/-- **Applying the blob again changes nothing** exactly when the tables are what
it decodes to. -/
theorem appliesIdle_iff (hb : b.Reliable) : AppliesIdle b cfg s ↔ Saved b cfg s := by
  constructor
  · rintro ⟨hok, hinputs, houtputs⟩
    obtain ⟨hcfg, hplace⟩ := place_of_applyTables hok
    have hlays : LaysOut b cfg := by
      by_contra hstop
      obtain ⟨i, hflag, hused⟩ := (placed_beyond_layout hb hplace hstop).stray
      -- a channel in use after the loop was in use before it, and lost its flag in the teardown
      rw [applyTables_ok hcfg hplace] at houtputs
      have hsame := (outputs_applyFailsafeAllOutputs _).symm.trans houtputs
      rw [hsame] at hused
      rw [teardown_flag_of_used hused] at hflag
      cases hflag
    exact ((saved_apply_iff hb hcfg).mpr hlays).congr hinputs.symm houtputs.symm
  · intro h
    obtain ⟨hok, hinputs, houtputs⟩ := applyTables_of_laysOut hb h.header h.laysOut s
    exact ⟨hok, hinputs.trans h.inputs.symm, houtputs.trans h.outputs.symm⟩

/-- **The tables are saved as their own export** exactly when they are wired and
every channel in use has failsafe mode `Min`. -/
theorem saved_export_iff (h : TablesOk s) : Saved b (exportCurrentConfig s) s ↔
    WiringOk b s.bank.outputs ∧
      ∀ i, (s.bank.outputs i).used = true → (s.bank.outputs i).pwmFailsafeMode = .min := by
  rw [← swapOutputs_eq_self_iff]
  constructor
  · intro hsaved
    refine ⟨hsaved.wiringOk, ?_⟩
    rw [← (layout_export hsaved.wiringOk h.outputs).2]
    exact hsaved.outputs.symm
  · rintro ⟨hwired, hmodes⟩
    obtain ⟨hlays, hrecords⟩ := layout_export hwired h.outputs
    exact ⟨export_headerOk s, hlays, (decodeVirtualInputs_export h.inputs).symm,
      (hrecords.trans hmodes).symm⟩

end Tables

end RcController
