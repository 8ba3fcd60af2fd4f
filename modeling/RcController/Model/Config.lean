import RcController.Model.Str
import Mathlib.Data.Fintype.Pi

/-!
# Configuration records

The records of `rc_model.h`, `preset_store.h` and `control_inputs.h`: the runtime
tables the control loop reads (`VirtualInputConfig`, `OutputChannelConfig`) and the
packed form in which a preset is stored (`PersistedConfig`).

The two forms differ. A runtime field of an enumeration type only ever holds one of
its values, so it is an inductive type here; the same field of a stored record is a
raw byte that may hold anything. `InputId` is the exception on the runtime side: the
request parser and the decoder cast any integer to it, so it is a byte with names for
the values the firmware knows.
-/

namespace RcController

/-! ### Constants of `preset_store.h` -/

abbrev kMaxVirtualInputs : ℕ := 16
abbrev kMaxOutputChannels : ℕ := 24
abbrev kMaxUserPresets : ℕ := 8

-- "RCCF"
def kConfigMagic : UInt32 := 0x52434346
def kConfigVersion : UInt16 := 5
def kPresetDirectoryVersion : UInt16 := 2

def kPresetRcCar : Str := lit "car"
def kPresetExcavator : Str := lit "excavator"
def kPresetSkidSteer : Str := lit "skid_steer"

/-! ### Slots and pins -/

abbrev InputIdx := Fin kMaxVirtualInputs

abbrev OutputIdx := Fin kMaxOutputChannels

instance neZeroInputs : @NeZero ℕ Zero.ofOfNat0 kMaxVirtualInputs := ⟨Nat.succ_ne_zero 15⟩

instance neZeroOutputs : @NeZero ℕ Zero.ofOfNat0 kMaxOutputChannels := ⟨Nat.succ_ne_zero 23⟩

abbrev Pin := UInt8

/-! ### Enumerations

Each `toByte` is the `static_cast<uint8_t>` of the enumeration. -/

/-- `InputId`. Any byte can be cast to it. -/
abbrev InputId := UInt8

namespace InputId

def none : InputId := 0
def axisX : InputId := 1
def axisY : InputId := 2
def axisRX : InputId := 3
def axisRY : InputId := 4
def throttle : InputId := 5
def brake : InputId := 6
def buttonA : InputId := 7
def buttonB : InputId := 8
def buttonX : InputId := 9
def buttonY : InputId := 10
def buttonL1 : InputId := 11
def buttonR1 : InputId := 12
def buttonL2 : InputId := 13
def buttonR2 : InputId := 14
def buttonStart : InputId := 15
def buttonSelect : InputId := 16
def dpadUp : InputId := 17
def dpadDown : InputId := 18
def dpadLeft : InputId := 19
def dpadRight : InputId := 20

end InputId

inductive InputKind where
  | centered
  | positive
  | digital
  deriving DecidableEq, Repr

inductive InputType where
  | direct
  | toggle2Pos
  | toggle3Pos
  deriving DecidableEq, Repr

inductive ToggleRangeMode where
  | unipolar
  | bipolar
  deriving DecidableEq, Repr

inductive ModifierFunction where
  | none
  | reverse
  | center
  | activate
  | desactivate
  deriving DecidableEq, Repr

inductive ChannelType where
  | pwm
  | switch
  deriving DecidableEq, Repr

inductive MixMode where
  | add
  | multiply
  deriving DecidableEq, Repr

inductive PwmFailsafeMode where
  | min
  | center
  | max
  deriving DecidableEq, Repr

def InputType.toByte : InputType → UInt8
  | .direct => 0
  | .toggle2Pos => 1
  | .toggle3Pos => 2

def ToggleRangeMode.toByte : ToggleRangeMode → UInt8
  | .unipolar => 0
  | .bipolar => 1

def ModifierFunction.toByte : ModifierFunction → UInt8
  | .none => 0
  | .reverse => 1
  | .center => 2
  | .activate => 3
  | .desactivate => 4

def ChannelType.toByte : ChannelType → UInt8
  | .pwm => 0
  | .switch => 1

def MixMode.toByte : MixMode → UInt8
  | .add => 0
  | .multiply => 1

def PwmFailsafeMode.toByte : PwmFailsafeMode → UInt8
  | .min => 0
  | .center => 1
  | .max => 2

/-! ### Runtime records -/

/-- `VirtualInputConfig`, with its default member values. -/
structure VirtualInputConfig where
  used : Bool := false
  primary : InputId := InputId.none
  secondary : InputId := InputId.none
  inputType : InputType := .direct
  toggleRange : ToggleRangeMode := .bipolar
  rumbleEnabled : Bool := false
  modifier : InputId := InputId.none
  modifierFunction : ModifierFunction := .none
  deadzonePercent : ℤ := 10
  expoPercent : ℤ := 0
  name : CharBuf := CharBuf.zero
  deriving DecidableEq

/-- `OutputChannelConfig`, with its default member values. -/
structure OutputChannelConfig where
  used : Bool := false
  type : ChannelType := .pwm
  pin : Pin := 0
  inverted : Bool := false
  thresholdPercent : ℤ := 50
  pwmFailsafeMode : PwmFailsafeMode := .center
  sourceA : Int8 := -1
  sourceB : Int8 := -1
  sourceC : Int8 := -1
  mixMode : MixMode := .multiply
  weightA : Int8 := 100
  weightB : Int8 := 0
  weightC : Int8 := 0
  offsetA : Int8 := 0
  offsetB : Int8 := 0
  offsetC : Int8 := 0
  name : CharBuf := CharBuf.zero
  deriving DecidableEq

/-- The channel is in use and drives a servo. -/
def OutputChannelConfig.UsedPwm (c : OutputChannelConfig) : Prop :=
  c.used = true ∧ c.type = .pwm

/-- The channel is in use and drives an ON/OFF pin. -/
def OutputChannelConfig.UsedSwitch (c : OutputChannelConfig) : Prop :=
  c.used = true ∧ c.type = .switch

instance (c : OutputChannelConfig) : Decidable c.UsedPwm := inferInstanceAs (Decidable (_ ∧ _))

instance (c : OutputChannelConfig) : Decidable c.UsedSwitch :=
  inferInstanceAs (Decidable (_ ∧ _))

theorem OutputChannelConfig.not_usedPwm_of_unused {c : OutputChannelConfig} (h : c.used = false) :
    ¬ c.UsedPwm := by
  rintro ⟨hused, -⟩
  rw [h] at hused
  cases hused

theorem OutputChannelConfig.not_usedPwm_of_switch {c : OutputChannelConfig}
    (h : c.type = .switch) : ¬ c.UsedPwm := by
  rintro ⟨-, hpwm⟩
  rw [h] at hpwm
  cases hpwm

/-! ### Stored records -/

/-- `PersistedChannel`. Zero by default, as `PersistedConfig cfg = {}` makes
it. -/
structure PersistedChannel where
  used : UInt8 := 0
  type : UInt8 := 0
  pin : Pin := 0
  inverted : UInt8 := 0
  mixMode : UInt8 := 0
  sourceA : Int8 := 0
  sourceB : Int8 := 0
  sourceC : Int8 := 0
  weightA : Int8 := 0
  weightB : Int8 := 0
  weightC : Int8 := 0
  offsetA : Int8 := 0
  offsetB : Int8 := 0
  offsetC : Int8 := 0
  threshold : UInt8 := 0
  name : CharBuf := CharBuf.zero
  deriving DecidableEq

/-- `PersistedVirtualInput`. -/
structure PersistedVirtualInput where
  used : UInt8 := 0
  input : UInt8 := 0
  inputSecondary : UInt8 := 0
  inputModifier : UInt8 := 0
  modifierFunction : UInt8 := 0
  deadzone : UInt8 := 0
  expo : UInt8 := 0
  reserved : UInt8 := 0
  name : CharBuf := CharBuf.zero
  deriving DecidableEq

/-- `PersistedConfig`: the blob a preset is stored as. -/
structure PersistedConfig where
  magic : UInt32 := 0
  version : UInt16 := 0
  reserved : UInt16 := 0
  virtualInputs : InputIdx → PersistedVirtualInput := fun _ => {}
  channels : OutputIdx → PersistedChannel := fun _ => {}
  deriving DecidableEq

/-- The blob carries the magic and the version of this firmware. -/
def PersistedConfig.HeaderOk (cfg : PersistedConfig) : Prop :=
  cfg.magic = kConfigMagic ∧ cfg.version = kConfigVersion

instance (cfg : PersistedConfig) : Decidable cfg.HeaderOk := inferInstanceAs (Decidable (_ ∧ _))

/-- `PresetDirectory`. `count` is a `uint16_t`. -/
structure PresetDirectory where
  magic : UInt32 := 0
  version : UInt16 := 0
  count : ℕ := 0
  names : Vector CharBuf kMaxUserPresets := Vector.replicate _ CharBuf.zero
  deriving DecidableEq

end RcController
