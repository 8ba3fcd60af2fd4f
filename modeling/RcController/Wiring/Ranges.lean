import RcController.Wiring.Rollback
import RcController.Wiring.RoundTrip

/-!
# The tables stay within their ranges

The request parser and the decoder clamp what they read, so the tables never leave the
ranges in which they survive an export (`TablesOk`). A rebuild, an apply and a rollback
write no other records than these: they move pins and nothing else (`Repinned`).

For the inputs the round trip is exact (`decodeVirtualInputs_export`), so that a table
within its ranges is always stored as it is.
-/

namespace RcController

open OutputBank

/-! ### Inputs -/

/-- The ranges of an input: percentages within their bounds, and a name that is
terminated. -/
structure VirtualInputConfig.InRange (c : VirtualInputConfig) : Prop where
  deadzone : 0 ≤ c.deadzonePercent ∧ c.deadzonePercent ≤ 95
  expo : 0 ≤ c.expoPercent ∧ c.expoPercent ≤ 100
  name : Terminated c.name

/-- The inputs in use are within their ranges, and the others are the default
record. -/
structure InputsOk (virtualInputs : InputIdx → VirtualInputConfig) : Prop where
  inRange : ∀ i, (virtualInputs i).used = true → (virtualInputs i).InRange
  unused : ∀ i, (virtualInputs i).used = false → virtualInputs i = {}

/-- The three fields that share a byte come out of it again, and so does the
modifier. -/
theorem decode_encode_inputType (t : InputType) (m : ToggleRangeMode) (rumble : Bool) :
    let raw := t.toByte ||| (m.toByte <<< (4 : UInt8)) |||
      ((if rumble then 1 else 0) <<< (5 : UInt8))
    (if raw &&& 0x0F = InputType.toggle2Pos.toByte then InputType.toggle2Pos
      else if raw &&& 0x0F = InputType.toggle3Pos.toByte then .toggle3Pos else .direct) = t ∧
    (if (raw >>> 4) &&& 0x01 = 1 then ToggleRangeMode.bipolar else .unipolar) = m ∧
    decide ((raw >>> 5) &&& 0x01 = 1) = rumble := by
  cases t <;> cases m <;> cases rumble <;> decide

theorem decode_encode_modifierFunction (f : ModifierFunction) :
    (if f.toByte = ModifierFunction.reverse.toByte then ModifierFunction.reverse
      else if f.toByte = ModifierFunction.center.toByte then .center
      else if f.toByte = ModifierFunction.activate.toByte then .activate
      else if f.toByte = ModifierFunction.desactivate.toByte then .desactivate
      else .none) = f := by
  cases f <;> decide

/-- **The input codec**: every field comes back. Percentages fit their byte, and
an enumeration is read from the number it was written as. -/
theorem decode_encode_input {c : VirtualInputConfig} (hused : c.used = true) (h : c.InRange) :
    decodeVirtualInput (encodeVirtualInput c) = c := by
  obtain ⟨htype, hrange, hrumble⟩ :=
    decode_encode_inputType c.inputType c.toggleRange c.rumbleEnabled
  -- a percentage in range is a byte that reads back as itself
  have hdeadzone : constrain ((UInt8.ofInt (constrain c.deadzonePercent 0 95)).toNat : ℤ) 0 95
      = c.deadzonePercent := by
    rw [toNat_ofInt_constrain h.deadzone.1 h.deadzone.2 (by norm_num),
      constrain_eq_self h.deadzone.1 h.deadzone.2]
  have hexpo : constrain ((UInt8.ofInt (constrain c.expoPercent 0 100)).toNat : ℤ) 0 100
      = c.expoPercent := by
    rw [toNat_ofInt_constrain h.expo.1 h.expo.2 (by norm_num),
      constrain_eq_self h.expo.1 h.expo.2]
  unfold decodeVirtualInput encodeVirtualInput
  simp only [htype, hrange, hrumble, decode_encode_modifierFunction, hdeadzone, hexpo,
    terminate_of_terminated h.name]
  rw [← hused]

/-- **The input round trip.** An input in use comes back by the codec; the
others are not stored, and a slot that is not stored is decoded to the default
record. -/
theorem decodeVirtualInputs_export {s : RcModel} (h : InputsOk s.virtualInputs) :
    decodeVirtualInputs (exportCurrentConfig s) = s.virtualInputs := by
  funext i
  unfold decodeVirtualInputs
  change (if (encodeVirtualInput (s.virtualInputs i)).used ≠ 0 then
    decodeVirtualInput (encodeVirtualInput (s.virtualInputs i)) else {}) = _
  cases hused : (s.virtualInputs i).used with
  | true =>
    rw [if_pos (by simp [encodeVirtualInput, hused]), decode_encode_input hused (h.inRange i hused)]
  | false =>
    rw [if_neg (by simp [encodeVirtualInput, hused]), h.unused i hused]

/-- What is decoded is within its ranges, whatever the bytes are. -/
theorem decodeVirtualInput_inRange (pv : PersistedVirtualInput) :
    (decodeVirtualInput pv).InRange where
  deadzone := constrain_mem (pv.deadzone.toNat : ℤ) (by norm_num)
  expo := constrain_mem (pv.expo.toNat : ℤ) (by norm_num)
  name := terminated_terminate _

/-- So a decoded table is within its ranges. -/
theorem inputsOk_decode (cfg : PersistedConfig) : InputsOk (decodeVirtualInputs cfg) where
  inRange i hi := by
    unfold decodeVirtualInputs at hi ⊢
    split at hi
    · next hused =>
      rw [if_pos hused]
      exact decodeVirtualInput_inRange _
    · cases hi
  unused i hi := by
    unfold decodeVirtualInputs at hi ⊢
    split at hi
    · cases hi
    · next hused => exact if_neg hused

/-- What is parsed from a request is clamped. -/
theorem parseVirtual_inRange (args : Args) {c : VirtualInputConfig} (i : InputIdx)
    (h : Terminated c.name) : (args.parseVirtualFromRequest c i).InRange where
  deadzone := constrain_mem _ (show (0 : ℤ) ≤ 95 by norm_num)
  expo := constrain_mem _ (show (0 : ℤ) ≤ 100 by norm_num)
  name := terminated_toCharArray _ h

/-- A slot is written with an input within the ranges, or reset. -/
theorem InputsOk.update {virtualInputs : InputIdx → VirtualInputConfig} (h : InputsOk virtualInputs)
    {i : InputIdx} {c : VirtualInputConfig} (hused : c.used = true → c.InRange)
    (hunused : c.used = false → c = {}) : InputsOk (Function.update virtualInputs i c) where
  inRange j hj := by
    by_cases hji : j = i
    · subst hji
      rw [Function.update_self] at hj ⊢
      exact hused hj
    · rw [Function.update_of_ne hji] at hj ⊢
      exact h.inRange j hj
  unused j hj := by
    by_cases hji : j = i
    · subst hji
      rw [Function.update_self] at hj ⊢
      exact hunused hj
    · rw [Function.update_of_ne hji] at hj ⊢
      exact h.unused j hj

/-! ### Outputs -/

/-- A record in use is within its ranges, and any other one is the default. -/
def OutputChannelConfig.Ok (c : OutputChannelConfig) : Prop :=
  (c.used = true → c.InRange) ∧ (c.used = false → c = {})

/-- A table is within its ranges when each record is. -/
theorem outputsOk_iff {outputs : OutputIdx → OutputChannelConfig} :
    OutputsOk outputs ↔ ∀ i, (outputs i).Ok :=
  ⟨fun h i => ⟨h.inRange i, h.unused i⟩, fun h => ⟨fun i => (h i).1, fun i => (h i).2⟩⟩

/-- The default record is. -/
theorem ok_reset : OutputChannelConfig.Ok {} := ⟨fun h => Bool.noConfusion h, fun _ => rfl⟩

/-- The ranges do not depend on the pin. -/
theorem Repinned.ok {c c' : OutputChannelConfig} (h : Repinned c c') (hc : c.Ok) : c'.Ok := by
  refine ⟨fun hused => ?_, fun hunused => ?_⟩
  · rw [h.used] at hused
    obtain ⟨hthreshold, hA, hB, hC, hwA, hwB, hwC, hoA, hoB, hoC, hname⟩ := hc.1 hused
    rw [h.eq]
    exact ⟨hthreshold, hA, hB, hC, hwA, hwB, hwC, hoA, hoB, hoC, hname⟩
  · rw [h.used] at hunused
    rw [h.unused hunused]
    exact hc.2 hunused

/-- A clamped number survives the byte it is kept in. -/
theorem toInt_ofInt_constrain {v lo hi : ℤ} (h : lo ≤ hi) (hlo : -128 ≤ lo) (hhi : hi < 128) :
    lo ≤ (Int8.ofInt (constrain v lo hi)).toInt ∧ (Int8.ofInt (constrain v lo hi)).toInt ≤ hi := by
  obtain ⟨hle, hge⟩ := constrain_mem v h
  rw [Int8.toInt_ofInt_of_le (by omega) (by omega)]
  exact ⟨hle, hge⟩

/-- A source that is parsed is an input or none. -/
theorem sourceValid_parseSource (args : Args) (p : Param) (fallback : Int8) :
    sourceValid (args.parseSource p fallback) = true := by
  have hrange : (-1 : ℤ) ≤ (args.parseSource p fallback).toInt ∧
      (args.parseSource p fallback).toInt ≤ (kMaxVirtualInputs : ℤ) - 1 :=
    toInt_ofInt_constrain (by norm_num) (by norm_num) (by norm_num)
  unfold sourceValid
  simp only [Bool.and_eq_true, decide_eq_true_eq]
  exact ⟨hrange.1, by omega⟩

theorem percent_inRange (v : ℤ) : -100 ≤ (Int8.ofInt (constrain v (-100) 100)).toInt ∧
    (Int8.ofInt (constrain v (-100) 100)).toInt ≤ 100 :=
  toInt_ofInt_constrain (by norm_num) (by norm_num) (by norm_num)

/-- So a record that is parsed is within its ranges. -/
theorem parseOutput_inRange (args : Args) {c : OutputChannelConfig} (i : OutputIdx)
    (h : Terminated c.name) : (args.parseOutputFromRequest c i).InRange where
  threshold := constrain_mem _ (show (0 : ℤ) ≤ 100 by norm_num)
  sourceA := sourceValid_parseSource ..
  sourceB := sourceValid_parseSource ..
  sourceC := sourceValid_parseSource ..
  weightA := percent_inRange _
  weightB := percent_inRange _
  weightC := percent_inRange _
  offsetA := percent_inRange _
  offsetB := percent_inRange _
  offsetC := percent_inRange _
  name := terminated_toCharArray _ h

/-- A record that is decoded is within its ranges when its sources are valid. -/
theorem decodeChannel_inRange {pc : PersistedChannel} (h : pc.sourcesValid = true) :
    (decodeChannel pc).InRange := by
  obtain ⟨⟨hA, hB⟩, hC⟩ : (sourceValid pc.sourceA = true ∧ sourceValid pc.sourceB = true) ∧
      sourceValid pc.sourceC = true := by
    simpa [PersistedChannel.sourcesValid] using h
  exact ⟨constrain_mem (pc.threshold.toNat : ℤ) (by norm_num), hA, hB, hC, percent_inRange _,
    percent_inRange _, percent_inRange _, percent_inRange _, percent_inRange _, percent_inRange _,
    terminated_terminate _⟩

/-- A record that is updated stays within its ranges. -/
theorem updatedOutput_inRange (args : Args) {c : OutputChannelConfig} (h : c.InRange)
    (i : OutputIdx) :
    (updatedOutput args c i).InRange := by
  obtain ⟨hthreshold, hA, hB, hC, hwA, hwB, hwC, hoA, hoB, hoC, hname⟩ :=
    parseOutput_inRange args i h.name
  unfold updatedOutput
  dsimp only
  split
  · exact ⟨hthreshold, h.sourceA, h.sourceB, h.sourceC, h.weightA, h.weightB, h.weightC, h.offsetA,
      h.offsetB, h.offsetC, hname⟩
  · exact ⟨hthreshold, hA, hB, hC, hwA, hwB, hwC, hoA, hoB, hoC, hname⟩

/-- A cleared term reads no source and weighs nothing. -/
theorem clearSource_ok {c : OutputChannelConfig} (h : c.Ok) (index : InputIdx) :
    (clearSource index c).Ok := by
  have hnone : sourceValid (-1) = true := by decide
  have hzero : -100 ≤ (0 : Int8).toInt ∧ (0 : Int8).toInt ≤ 100 := by decide
  by_cases hused : c.used = true
  swap
  · have hkept : clearSource index c = c := if_pos (by simp [hused])
    rwa [hkept]
  -- one term after the other; a term is cleared or kept
  obtain ⟨cA, hcA, hA⟩ : ∃ cA, cA = (if c.sourceA.toInt = index.val then
      { c with sourceA := -1, weightA := 0, offsetA := 0 } else c) ∧
      cA.InRange ∧ cA.used = true := by
    refine ⟨_, rfl, ?_⟩
    split
    · exact ⟨{ h.1 hused with sourceA := hnone, weightA := hzero, offsetA := hzero }, hused⟩
    · exact ⟨h.1 hused, hused⟩
  obtain ⟨cB, hcB, hB⟩ : ∃ cB, cB = (if cA.sourceB.toInt = index.val then
      { cA with sourceB := -1, weightB := 0, offsetB := 0 } else cA) ∧
      cB.InRange ∧ cB.used = true := by
    refine ⟨_, rfl, ?_⟩
    split
    · exact ⟨{ hA.1 with sourceB := hnone, weightB := hzero, offsetB := hzero }, hA.2⟩
    · exact hA
  obtain ⟨cC, hcC, hC⟩ : ∃ cC, cC = (if cB.sourceC.toInt = index.val then
      { cB with sourceC := -1, weightC := 0, offsetC := 0 } else cB) ∧
      cC.InRange ∧ cC.used = true := by
    refine ⟨_, rfl, ?_⟩
    split
    · exact ⟨{ hB.1 with sourceC := hnone, weightC := hzero, offsetC := hzero }, hB.2⟩
    · exact hB
  have hcleared : clearSource index c = cC := by
    rw [hcC, hcB, hcA]
    exact if_neg (by simp [hused])
  rw [hcleared]
  exact ⟨fun _ => hC.1, fun hunused => by simp [hC.2] at hunused⟩

/-! ### What the hardware functions do to the records -/

namespace OutputBank

/-- A rebuild moves pins only. -/
theorem outputsOk_rebuild (b : Board) {s : OutputBank} (h : OutputsOk s.outputs) :
    OutputsOk (rebuildOutputHardware b s).1.outputs :=
  outputsOk_iff.mpr fun j => (rebuild_repinned b s j).ok (outputsOk_iff.mp h j)

/-- An edit writes a record within its ranges. -/
theorem outputsOk_setOutput {s : OutputBank} (h : OutputsOk s.outputs) (e : OutputIdx)
    {c : OutputChannelConfig} (hc : c.Ok) : OutputsOk (s.setOutput e c).outputs := by
  rw [outputsOk_iff] at h ⊢
  intro j
  change (Function.update s.outputs e c j).Ok
  by_cases hje : j = e
  · subst hje
    rwa [Function.update_self]
  · rw [Function.update_of_ne hje]
    exact h j

/-- One iteration of the channel loop writes a decoded channel, possibly on
another pin. -/
theorem place_record (b : Board) (pc : PersistedChannel) (i : OutputIdx) (s : OutputBank) :
    ∃ y, (placeChannel b pc i s).1.slot = Function.update s.slot i y ∧
      (y = s.slot i ∨ y.record.Ok) := by
  obtain ⟨y, hy, hcases⟩ := place_cases b pc i s
  refine ⟨y, hy, ?_⟩
  rcases hcases with hsame | ⟨hsrc, hrecord⟩
  · exact .inl hsame
  have hdecoded : (decodeChannel pc).Ok :=
    ⟨fun _ => decodeChannel_inRange hsrc, fun h => by cases h⟩
  rcases hrecord with ⟨rfl, -⟩ | ⟨c, r, hrep, ⟨_, hsetup⟩, -⟩
  · exact .inr hdecoded
  · have hused : c.used = true := hrep.used.trans (decodeChannel_used pc)
    exact .inr ((hsetup.repinned hused).ok (hrep.ok hdecoded))

/-- The channel loop writes decoded channels, as far as it comes. -/
theorem outputsOk_place (b : Board) (cfg : PersistedConfig) (s : OutputBank) :
    OutputsOk (s.teardown.placeChannels b cfg).1.outputs := by
  refine Pass.run_invariant (fun t : OutputBank => OutputsOk t.outputs) (fun i t ht => ?_) _ ?_
  · obtain ⟨y, hy, hcases⟩ := place_record b (cfg.channels i) i t
    rw [outputs_eq_of_slot hy, outputsOk_iff]
    rw [outputsOk_iff] at ht
    intro j
    by_cases hji : j = i
    · subst hji
      rw [Function.update_self]
      -- the slot was left alone, or has a decoded channel
      rcases hcases with rfl | hok
      · exact ht j
      · exact hok
    · rw [Function.update_of_ne hji]
      exact ht j
  · rw [outputs_teardown]
    exact outputsOk_iff.mpr fun _ => ok_reset

/-- A rollback puts every record back, possibly on another pin. -/
theorem restoreOld_repinned (b : Board) (old : OutputIdx → OutputChannelConfig)
    (oldPwm : OutputIdx → Bool) (s : OutputBank) (i : OutputIdx) :
    Repinned (old i) ((s.restoreOld b old oldPwm).outputs i) := by
  obtain ⟨t, hslot, -, -⟩ := restoreOld_slot b old oldPwm s i
  obtain ⟨y, hy, hcases⟩ := restoreSlot_cases b old oldPwm i t
  change Repinned (old i) ((s.restoreOld b old oldPwm).slot i).record
  rw [hslot, hy, Function.update_self]
  rcases hcases with rfl | ⟨hused, -, c, r, hsetup⟩
  · exact .refl _
  · exact hsetup.repinned hused

end OutputBank

/-! ### Tables -/

/-- Both tables are within their ranges. -/
structure TablesOk (s : RcModel) : Prop where
  inputs : InputsOk s.virtualInputs
  outputs : OutputsOk s.bank.outputs

/-- Empty tables are. -/
theorem tablesOk_blank : TablesOk {} where
  inputs := ⟨fun _ h => Bool.noConfusion h, fun _ _ => rfl⟩
  outputs := outputsOk_iff.mpr fun _ => ok_reset

/-- **An apply keeps the tables within their ranges**, whether it succeeds or
rolls back. -/
theorem TablesOk.applyTables {s : RcModel} (h : TablesOk s) (b : Board) (cfg : PersistedConfig) :
    TablesOk (applyTables b cfg s).1 := by
  by_cases hheader : cfg.HeaderOk
  swap
  · rw [applyTables_badHeader hheader]
    exact h
  cases hplace : (s.bank.teardown.placeChannels b cfg).2 with
  | ok _ =>
    rw [applyTables_ok hheader hplace]
    refine ⟨inputsOk_decode cfg, ?_⟩
    rw [outputs_applyFailsafeAllOutputs]
    exact outputsOk_place b cfg s.bank
  -- the rollback restores records of the old table, each at its pin or at a spare one
  | error e =>
    rw [applyTables_error hheader hplace]
    refine ⟨h.inputs, outputsOk_iff.mpr fun i => ?_⟩
    exact (restoreOld_repinned b _ _ _ i).ok (outputsOk_iff.mp h.outputs i)

/-- **An edit keeps the tables within their ranges.** -/
theorem TablesOk.editOutput {s : Sketch} (h : TablesOk s.rc) (b : Board) (e : OutputIdx)
    {record : OutputChannelConfig} (hrecord : record.Ok) (message : String) :
    TablesOk (editOutput b e record message s).1.rc := by
  have hfirst : OutputsOk (rebuildOutputHardware b (s.rc.bank.setOutput e record)).1.outputs :=
    outputsOk_rebuild b (outputsOk_setOutput h.outputs e hrecord)
  rcases editOutput_cases b e record message s with ⟨-, -, hrc⟩ | ⟨msg, -, -, hrc⟩
  · rw [hrc]
    exact ⟨h.inputs, hfirst⟩
  · rw [hrc]
    refine ⟨h.inputs, outputsOk_rebuild b (outputsOk_setOutput hfirst e ?_)⟩
    exact outputsOk_iff.mp h.outputs e

end RcController
