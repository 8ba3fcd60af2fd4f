import RcController.Service.Activity
import RcController.Store.Suggest
import Mathlib.Data.Nat.Log

/-!
# The payloads of a device

`handleApiState` and `handleApiActivity` take a snapshot of the globals each, and the second one
leaves out what its payload does not show. Nothing that is left out is read
(`activityDoc_snapshot`), so what the UI polls is a projection of the full state, in whatever
state the device is (`polls_agree`).
-/

namespace RcController

open Json

/-! ### Runtime values -/

/-- A number rounded to some decimals, in units of the last one. Halves are
rounded up, as `dtostrf` does it. -/
def roundedUnits (v : ℚ) (prec : ℕ) : ℕ := ⌊|v| * 10 ^ prec + 1 / 2⌋.toNat

/-- The runtime values of the model are rational numbers. They have no NaN and
no infinity, and their digits are those of the rounded number. -/
def ratFloat : FloatOps ℚ where
  isnan _ := false
  isinf _ := false
  negative v := decide (v < 0)
  fabsf v := |v|
  aboveActiveThreshold v := decide (15 / 100 < v)
  tens v prec := Nat.log 10 (roundedUnits v prec / 10 ^ prec)
  digit v prec k :=
    let digitcount := Nat.log 10 (roundedUnits v prec / 10 ^ prec) + 1 + prec
    roundedUnits v prec / 10 ^ (digitcount - 1 - k) % 10

example : floatText ratFloat (-1 / 2) 3 = lit "-0.500" := by decide +kernel

/-- A rational number is written as a number: when it has tens, the place in
front has a digit other than zero. -/
theorem finite_ratFloat : ratFloat.Finite where
  isnan _ := rfl
  isinf _ := rfl
  lead v decimals htens := by
    have hpos : 0 < Nat.log 10 (roundedUnits v decimals / 10 ^ decimals) := htens
    generalize hm : roundedUnits v decimals / 10 ^ decimals = m at hpos
    have hne : m ≠ 0 := by
      rintro rfl
      simp at hpos
    -- the first digit is what is left when all the places behind it are cut off
    have hdigit : ratFloat.digit v decimals 0 = m / 10 ^ Nat.log 10 m % 10 := by
      change roundedUnits v decimals / 10 ^ (Nat.log 10 (roundedUnits v decimals / 10 ^ decimals)
        + 1 + decimals - 1 - 0) % 10 = _
      rw [hm, ← hm, Nat.div_div_eq_div_mul, hm, ← pow_add]
      congr 3
      omega
    have hle : 10 ^ Nat.log 10 m ≤ m := Nat.pow_log_le_self 10 hne
    have hlt : m < 10 ^ (Nat.log 10 m + 1) := Nat.lt_pow_succ_log_self (by decide) m
    have hone : 0 < m / 10 ^ Nat.log 10 m := Nat.div_pos hle (by positivity)
    have hten : m / 10 ^ Nat.log 10 m < 10 := by
      rw [Nat.div_lt_iff_lt_mul (by positivity)]
      rwa [pow_succ, Nat.mul_comm] at hlt
    rw [hdigit, Nat.mod_eq_of_lt hten]
    exact hone

/-! ### Snapshots of a device -/

/-- The globals `g_fwVersion` and `g_fwChannel`. -/
structure Firmware where
  version : Str
  channel : Str

namespace System

/-- The directory `handleApiState` reads. -/
def loadedDirectory (s : System) : LoadedDirectory :=
  ⟨s.nvs.directory, (directory_header s.nvs).2.2⟩

/-- The snapshot `handleApiState` takes. -/
def stateSnapshot (s : System) (fw : Firmware) (apIp : Str) : StateSnapshot ℚ where
  apIp := apIp
  apSsid := s.sketch.apSsid
  apPassword := s.sketch.apPassword
  gamepadConnected := s.gamepadConnected
  btScanActive := s.sketch.btScanActive
  pairingEnabled := s.sketch.pairingScanEnabled
  failsafeActive := s.failsafeActive
  fwVersion := fw.version
  fwChannel := fw.channel
  currentModel := s.sketch.currentModelName
  bootModel := s.sketch.bootModelName
  modelDirty := s.sketch.modelDirty
  virtualInputs := s.sketch.rc.virtualInputs
  outputs := s.sketch.rc.bank.outputs
  virtualRuntime i := (s.sketch.rc.memory i).runtime
  outputRuntime := s.sketch.rc.bank.outputRuntime
  presetDir := some s.loadedDirectory
  presetBuiltinA := some kPresetRcCar
  presetBuiltinB := some kPresetExcavator
  presetBuiltinC := some kPresetSkidSteer

/-- The snapshot `handleApiActivity` takes. -/
def activitySnapshot (s : System) (fw : Firmware) : StateSnapshot ℚ :=
  { s.stateSnapshot fw (lit "0.0.0.0") with
    apPassword := []
    presetDir := none
    presetBuiltinA := some []
    presetBuiltinB := some []
    presetBuiltinC := some [] }

end System

/-- The activity payload does not read what the handler leaves out. -/
theorem activityDoc_snapshot (s : System) (fw : Firmware) (apIp : Str) :
    activityDoc ratFloat (s.activitySnapshot fw) = activityDoc ratFloat (s.stateSnapshot fw apIp) :=
  rfl

/-- **What the UI polls is a projection of the full state.** In any state of the
device both handlers answer with a JSON text, and the documents the texts are
read as agree. -/
theorem polls_agree (b : Board) (s : System) (fw : Firmware) (apIp : Str) :
    ∃ stateText activityText state activity,
      buildStateJson b ratFloat (s.stateSnapshot fw apIp) = some stateText ∧
      Doc.parse stateText = some state ∧
      buildActivityJson ratFloat (s.activitySnapshot fw) = some activityText ∧
      Doc.parse activityText = some activity ∧ Projects state activity := by
  obtain ⟨stateText, hstate, hstateDoc⟩ :=
    str_of_writesDoc (writes_stateDoc b ratFloat (s.stateSnapshot fw apIp)) (by decide)
  obtain ⟨activityText, hactivity, hactivityDoc⟩ :=
    str_of_writesDoc (writes_activityDoc ratFloat (s.activitySnapshot fw)) (by decide)
  refine ⟨stateText, activityText, _, _, hstate,
    Doc.parse_of_scan hstateDoc (strict_stateDoc finite_ratFloat _), hactivity,
    Doc.parse_of_scan hactivityDoc (strict_activityDoc finite_ratFloat _), ?_⟩
  rw [activityDoc_snapshot s fw apIp]
  exact projects_activityDoc b ratFloat _

end RcController
