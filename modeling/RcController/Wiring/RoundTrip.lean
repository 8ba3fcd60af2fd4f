import RcController.Wiring.Apply

/-!
# Exporting a configuration and applying it again

Encoder and decoder are compared field by field. They agree on every field but one:
the encoder numbers the failsafe modes `Min`, `Center`, `Max` from one, the decoder
reads `Min`, `Max`, `Center` (`decode_encode_failsafe`). So an export that is applied
again swaps `Center` and `Max`, and brings a channel back as it was exactly when its
mode is `Min` (`decode_encode_channel`).

The pins come back too: the blob of a wired table decodes to a wired table, which is
laid out as it is.
-/

namespace RcController

open OutputBank

/-! ### Fields -/

/-- A percentage survives the byte it is stored in. -/
theorem toNat_ofInt_constrain {v hi : ℤ} (h0 : 0 ≤ v) (hv : v ≤ hi) (hhi : hi < 256) :
    ((UInt8.ofInt (constrain v 0 hi)).toNat : ℤ) = v := by
  rw [constrain_eq_self h0 hv]
  obtain ⟨n, rfl⟩ := Int.eq_ofNat_of_zero_le h0
  simp only [UInt8.ofInt, UInt8.toNat_ofNat']
  omega

/-- A weight in range is not clamped. -/
theorem clampPercent_eq_self {v : Int8} (h0 : -100 ≤ v.toInt) (hv : v.toInt ≤ 100) :
    clampPercent v = v := by
  rw [clampPercent, constrain_eq_self h0 hv, Int8.ofInt_toInt]

/-- The failsafe mode that comes back for the one that was stored. -/
def swapFailsafe : PwmFailsafeMode → PwmFailsafeMode
  | .min => .min
  | .center => .max
  | .max => .center

/-- Only `Min` comes back as it was. -/
theorem swapFailsafe_eq_self_iff (m : PwmFailsafeMode) : swapFailsafe m = m ↔ m = .min := by
  cases m <;> simp [swapFailsafe]

/-- The encoder numbers the modes in the order of the enumeration and the
decoder reads them in another, so two of them are swapped. -/
theorem decode_encode_failsafe (mix : MixMode) (m : PwmFailsafeMode) :
    pwmFailsafeModeFromPacked
      ((((mix.toByte &&& 0x01) ||| (packFailsafe m <<< (4 : UInt8))) >>> 4) &&& 0x03)
        = swapFailsafe m := by
  cases mix <;> cases m <;> decide

/-- The other field of that byte comes back, and so does the type. -/
theorem decode_encode_mixMode (mix : MixMode) (m : PwmFailsafeMode) :
    (if ((mix.toByte &&& 0x01) ||| (packFailsafe m <<< (4 : UInt8))) &&& 0x01
        = MixMode.multiply.toByte then MixMode.multiply else .add) = mix := by
  cases mix <;> cases m <;> decide

theorem decode_encode_type (t : ChannelType) :
    (if t.toByte = ChannelType.switch.toByte then ChannelType.switch else .pwm) = t := by
  cases t <;> decide

/-! ### Channels -/

/-- The ranges of an output: percentages within their bounds, sources that are
inputs or none, and a name that is terminated. -/
structure OutputChannelConfig.InRange (c : OutputChannelConfig) : Prop where
  threshold : 0 ≤ c.thresholdPercent ∧ c.thresholdPercent ≤ 100
  sourceA : sourceValid c.sourceA = true
  sourceB : sourceValid c.sourceB = true
  sourceC : sourceValid c.sourceC = true
  weightA : -100 ≤ c.weightA.toInt ∧ c.weightA.toInt ≤ 100
  weightB : -100 ≤ c.weightB.toInt ∧ c.weightB.toInt ≤ 100
  weightC : -100 ≤ c.weightC.toInt ∧ c.weightC.toInt ≤ 100
  offsetA : -100 ≤ c.offsetA.toInt ∧ c.offsetA.toInt ≤ 100
  offsetB : -100 ≤ c.offsetB.toInt ∧ c.offsetB.toInt ≤ 100
  offsetC : -100 ≤ c.offsetC.toInt ∧ c.offsetC.toInt ≤ 100
  name : Terminated c.name

/-- **The channel codec**: every field comes back, the failsafe mode swapped.
The percentages and sources fit their bytes, and the name keeps its
terminator. -/
theorem decode_encode_channel {c : OutputChannelConfig} (hused : c.used = true) (h : c.InRange) :
    decodeChannel (encodeChannel c)
      = { c with pwmFailsafeMode := swapFailsafe c.pwmFailsafeMode } := by
  have hinverted : decide ((if c.inverted then (1 : UInt8) else 0) ≠ 0) = c.inverted := by
    cases c.inverted <;> decide
  -- the flag and the percentages read back as they were written
  have hthreshold : constrain ((UInt8.ofInt (constrain c.thresholdPercent 0 100)).toNat : ℤ) 0 100
      = c.thresholdPercent := by
    rw [toNat_ofInt_constrain h.threshold.1 h.threshold.2 (by norm_num),
      constrain_eq_self h.threshold.1 h.threshold.2]
  unfold decodeChannel encodeChannel
  simp only [decode_encode_type, decode_encode_mixMode, decode_encode_failsafe, hinverted,
    hthreshold, clampPercent_eq_self h.weightA.1 h.weightA.2,
    clampPercent_eq_self h.weightB.1 h.weightB.2, clampPercent_eq_self h.weightC.1 h.weightC.2,
    clampPercent_eq_self h.offsetA.1 h.offsetA.2, clampPercent_eq_self h.offsetB.1 h.offsetB.2,
    clampPercent_eq_self h.offsetC.1 h.offsetC.2, terminate_of_terminated h.name]
  rw [hused]

/-- A channel is stored as used when it is in use, and its sources are valid
when they were. -/
theorem encodeChannel_used_iff (c : OutputChannelConfig) :
    (encodeChannel c).used ≠ 0 ↔ c.used = true := by
  cases h : c.used <;> simp [encodeChannel, h]

theorem encodeChannel_sourcesValid {c : OutputChannelConfig} (h : c.InRange) :
    (encodeChannel c).sourcesValid = true := by
  simp [PersistedChannel.sourcesValid, encodeChannel, h.sourceA, h.sourceB, h.sourceC]

/-! ### Tables -/

/-- The outputs in use are within their ranges, and the others are the default
record. -/
structure OutputsOk (outputs : OutputIdx → OutputChannelConfig) : Prop where
  inRange : ∀ i, (outputs i).used = true → (outputs i).InRange
  unused : ∀ i, (outputs i).used = false → outputs i = {}

/-- A table with the failsafe mode of every output in use swapped. -/
def swapOutputs (outputs : OutputIdx → OutputChannelConfig) (i : OutputIdx) : OutputChannelConfig :=
  if (outputs i).used then
    { outputs i with pwmFailsafeMode := swapFailsafe (outputs i).pwmFailsafeMode }
  else outputs i

/-- What an export decodes to. -/
theorem decodeChannels_export {s : RcModel} (h : OutputsOk s.bank.outputs) :
    decodeChannels (exportCurrentConfig s) = swapOutputs s.bank.outputs := by
  funext i
  unfold decodeChannels swapOutputs
  change (if (encodeChannel (s.bank.outputs i)).used ≠ 0 then
    decodeChannel (encodeChannel (s.bank.outputs i)) else {}) = _
  cases hused : (s.bank.outputs i).used with
  | true =>
    rw [if_pos ((encodeChannel_used_iff _).mpr hused), if_pos rfl,
      decode_encode_channel hused (h.inRange i hused)]
  | false =>
    rw [if_neg (by simp [encodeChannel_used_iff, hused]), h.unused i hused]
    rfl

/-- Swapping failsafe modes does not move a pin. -/
theorem claims_swapOutputs (outputs : OutputIdx → OutputChannelConfig) :
    claims (swapOutputs outputs) = claims outputs := by
  funext i
  unfold claims swapOutputs OutputChannelConfig.claim
  split <;> simp_all

/-- Wiring is about pins, so a swapped table is wired when the table is. -/
theorem wiringOk_swapOutputs {b : Board} {outputs : OutputIdx → OutputChannelConfig} :
    WiringOk b (swapOutputs outputs) ↔ WiringOk b outputs := by
  rw [wiringOk_iff, wiringOk_iff, claims_swapOutputs]

/-- The outputs come back as they were exactly when every mode in use is
`Min`. -/
theorem swapOutputs_eq_self_iff (outputs : OutputIdx → OutputChannelConfig) :
    swapOutputs outputs = outputs ↔
      ∀ i, (outputs i).used = true → (outputs i).pwmFailsafeMode = .min := by
  constructor
  · intro h i hused
    have hi := congrArg OutputChannelConfig.pwmFailsafeMode (congrFun h i)
    rw [swapOutputs, if_pos hused] at hi
    exact (swapFailsafe_eq_self_iff _).mp hi
  · intro h
    funext i
    unfold swapOutputs
    split
    · next hused => rw [(swapFailsafe_eq_self_iff _).mpr (h i hused)]
    · rfl

/-- An export is laid out on the board it was made on, with the modes
swapped. -/
theorem layout_export {b : Board} {s : RcModel} (hwired : WiringOk b s.bank.outputs)
    (hok : OutputsOk s.bank.outputs) :
    LaysOut b (exportCurrentConfig s) ∧
      (layout b (exportCurrentConfig s)).1.records = swapOutputs s.bank.outputs := by
  have hdecode := decodeChannels_export hok
  rw [← hdecode]
  refine layout_of_wired (by rwa [hdecode, wiringOk_swapOutputs]) fun i hused => ?_
  exact encodeChannel_sourcesValid (hok.inRange i ((encodeChannel_used_iff _).mp hused))

/-- An export has the current format. -/
theorem export_headerOk (s : RcModel) : (exportCurrentConfig s).HeaderOk := ⟨rfl, rfl⟩

/-- **The output round trip.** The export of a wired table is applied on any
state of the same board, under any storage faults, and gives the table back
exactly when every channel in use has failsafe mode `Min`. -/
theorem export_apply_iff {b : Board} (hb : b.Reliable) {s : RcModel}
    (hwired : WiringOk b s.bank.outputs) (hok : OutputsOk s.bank.outputs) (t : RcModel)
    (plan : DeviceProg.Prog.Plan nvsInterface) (nvs : NvsStore) :
    let r := ((applyPersistedConfig b (exportCurrentConfig s) t).run nvsDevice plan nvs).1
    (r.2 = .ok () ∧ r.1.bank.outputs = s.bank.outputs) ↔
      ∀ i, (s.bank.outputs i).used = true → (s.bank.outputs i).pwmFailsafeMode = .min := by
  intro r
  have hr : r = applyTables b (exportCurrentConfig s) t :=
    (applyPersistedConfig_always b (exportCurrentConfig s) t).run nvsDevice plan nvs
  obtain ⟨hlays, hrecords⟩ := layout_export hwired hok
  obtain ⟨happlied, -, houtputs⟩ := applyTables_of_laysOut hb (export_headerOk s) hlays t
  rw [hr, houtputs, hrecords, swapOutputs_eq_self_iff]
  exact and_iff_right happlied

/-! ### One servo, saved and applied -/

/-- A table with one servo is within its ranges. -/
theorem outputsOk_oneServo (pin : Pin) : OutputsOk (oneServo pin).outputs where
  inRange i hi := by
    by_cases h0 : i = 0
    · simp only [oneServo, h0, if_true]
      constructor <;> dsimp only <;> decide
    · simp [oneServo, h0] at hi
  unused i hi := by
    by_cases h0 : i = 0
    · simp [oneServo, h0] at hi
    · simp [oneServo, h0]

/-- A servo whose failsafe is `Min`. -/
theorem export_apply_iff_one_servo :
    let r := ((applyPersistedConfig smallBoard (exportCurrentConfig { bank := oneServo 4 })
      {}).run nvsDevice (fun _ _ => false) {}).1
    (r.2 = .ok () ∧ r.1.bank.outputs = (oneServo 4).outputs) ↔
      ∀ i, ((oneServo 4).outputs i).used = true → ((oneServo 4).outputs i).pwmFailsafeMode = .min :=
  export_apply_iff smallBoard_reliable (s := { bank := oneServo 4 }) (wiringOk_oneServo (by decide))
    (outputsOk_oneServo 4) {} (fun _ _ => false) {}

/-- A servo whose failsafe is `Center` has failsafe `Max` after it was exported
and applied. -/
theorem export_apply_center :
    WiringOk smallBoard (oneServo 4).outputs ∧ OutputsOk (oneServo 4).outputs ∧
      ((oneServo 4).outputs 0).pwmFailsafeMode = .center ∧
      let r := ((applyPersistedConfig smallBoard (exportCurrentConfig { bank := oneServo 4 })
        { bank := oneServo 4 }).eval nvsDevice {}).1
      r.2.isOk = true ∧ (r.1.bank.outputs 0).pwmFailsafeMode = .max :=
  ⟨wiringOk_oneServo (by decide), outputsOk_oneServo 4, by decide, by decide +kernel,
    by decide +kernel⟩

end RcController
