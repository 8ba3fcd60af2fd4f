import RcController.Model.Outputs

/-!
# Exporting and applying a configuration

`exportCurrentConfig` packs the runtime tables into a `PersistedConfig`;
`applyPersistedConfig` unpacks one, places its channels on the board and rolls back
when a channel cannot be placed. Encoder and decoder are written separately in the
source and are translated separately here.

`applyPersistedConfig` ends with a call of `saveRuntimeConfigToNvs` whose result it
ignores. What it does to the tables and the hardware comes before that call and is
`applyTables`; the storage module adds the call.
-/

namespace RcController

/-- The globals of `rc_model.cpp`. -/
structure RcModel where
  virtualInputs : InputIdx → VirtualInputConfig := fun _ => {}
  -- `g_toggle3Direction` is initialised with `{1}`, which sets the first element alone
  memory : InputIdx → InputMemory := fun i => { toggle3Direction := if i = 0 then 1 else 0 }
  bank : OutputBank := {}

def firstFreeVirtualIndex (virtualInputs : InputIdx → VirtualInputConfig) : Option InputIdx :=
  (List.finRange kMaxVirtualInputs).find? fun i => !(virtualInputs i).used

/-! ### Encoding -/

def encodeVirtualInput (c : VirtualInputConfig) : PersistedVirtualInput where
  used := if c.used then 1 else 0
  input := c.primary
  inputSecondary := c.secondary
  inputModifier := c.modifier
  modifierFunction := c.modifierFunction.toByte
  reserved := c.inputType.toByte ||| (c.toggleRange.toByte <<< (4 : UInt8)) |||
    ((if c.rumbleEnabled then 1 else 0) <<< (5 : UInt8))
  deadzone := UInt8.ofInt (constrain c.deadzonePercent 0 95)
  expo := UInt8.ofInt (constrain c.expoPercent 0 100)
  name := c.name

/-- The two bits a failsafe mode is stored as. -/
def packFailsafe (m : PwmFailsafeMode) : UInt8 := (m.toByte + 1) &&& (0x03 : UInt8)

def encodeChannel (c : OutputChannelConfig) : PersistedChannel where
  used := if c.used then 1 else 0
  type := c.type.toByte
  pin := c.pin
  inverted := if c.inverted then 1 else 0
  mixMode := (c.mixMode.toByte &&& 0x01) ||| (packFailsafe c.pwmFailsafeMode <<< (4 : UInt8))
  sourceA := c.sourceA
  sourceB := c.sourceB
  sourceC := c.sourceC
  weightA := c.weightA
  weightB := c.weightB
  weightC := c.weightC
  offsetA := c.offsetA
  offsetB := c.offsetB
  offsetC := c.offsetC
  threshold := UInt8.ofInt (constrain c.thresholdPercent 0 100)
  name := c.name

/-- `exportCurrentConfig`. -/
def exportCurrentConfig (s : RcModel) : PersistedConfig where
  magic := kConfigMagic
  version := kConfigVersion
  virtualInputs i := encodeVirtualInput (s.virtualInputs i)
  channels i := encodeChannel (s.bank.outputs i)

/-! ### Decoding -/

/-- A used stored input, decoded. -/
def decodeVirtualInput (pv : PersistedVirtualInput) : VirtualInputConfig where
  used := true
  primary := pv.input
  secondary := pv.inputSecondary
  modifier := pv.inputModifier
  inputType :=
    -- the four low bits; an unknown type is direct
    let raw := pv.reserved &&& 0x0F
    if raw = InputType.toggle2Pos.toByte then .toggle2Pos
    else if raw = InputType.toggle3Pos.toByte then .toggle3Pos
    else .direct
  toggleRange := if (pv.reserved >>> 4) &&& 0x01 = 1 then .bipolar else .unipolar
  rumbleEnabled := decide ((pv.reserved >>> 5) &&& 0x01 = 1)
  modifierFunction :=
    if pv.modifierFunction = ModifierFunction.reverse.toByte then .reverse
    else if pv.modifierFunction = ModifierFunction.center.toByte then .center
    else if pv.modifierFunction = ModifierFunction.activate.toByte then .activate
    else if pv.modifierFunction = ModifierFunction.desactivate.toByte then .desactivate
    else .none
  deadzonePercent := constrain (pv.deadzone.toNat : ℤ) 0 95
  expoPercent := constrain (pv.expo.toNat : ℤ) 0 100
  name := terminate pv.name

/-- The memory of a decoded input: no edge seen, and the toggle at its startup
position. -/
def initialMemory (inp : VirtualInputConfig) (m : InputMemory) : InputMemory :=
  let m := { m with
    togglePrimaryPressedPrev := false
    toggleSecondaryPressedPrev := false
    toggleModifierPressedPrev := false
    directPrimaryPressedPrev := false
    lastRumbleMs := 0 }
  match inp.inputType with
  | .toggle2Pos => { m with togglePosition := 0 }
  | .toggle3Pos =>
    { m with
      togglePosition := if inp.toggleRange = .unipolar then 0 else 1
      toggle3Direction := 1 }
  | .direct => { m with togglePosition := 0, toggle3Direction := 1 }

/-- The virtual-input table of a blob. -/
def decodeVirtualInputs (cfg : PersistedConfig) (i : InputIdx) : VirtualInputConfig :=
  if (cfg.virtualInputs i).used ≠ 0 then decodeVirtualInput (cfg.virtualInputs i) else {}

/-- The toggle memory after the inputs of a blob are decoded. -/
def decodeMemory (cfg : PersistedConfig) (memory : InputIdx → InputMemory) (i : InputIdx) :
    InputMemory :=
  if (cfg.virtualInputs i).used ≠ 0 then
    initialMemory (decodeVirtualInput (cfg.virtualInputs i)) (memory i)
  else memory i

/-- `pwmFailsafeModeFromPacked`. -/
def pwmFailsafeModeFromPacked (packed : UInt8) : PwmFailsafeMode :=
  -- old presets only stored `mix_mode`, so `0` is the historical default
  if packed = 0 then .center
  else if packed = 1 then .min
  else if packed = 2 then .max
  else .center

/-- The lambda `sourceValid`. -/
def sourceValid (s : Int8) : Bool := -1 ≤ s.toInt && s.toInt < kMaxVirtualInputs

/-- A percentage stored in an `int8_t`, clamped to `[-100, 100]`. -/
def clampPercent (v : Int8) : Int8 := Int8.ofInt (constrain v.toInt (-100) 100)

/-- A used stored channel, decoded, on the pin it asks for. -/
def decodeChannel (pc : PersistedChannel) : OutputChannelConfig where
  used := true
  type := if pc.type = ChannelType.switch.toByte then .switch else .pwm
  pin := pc.pin
  inverted := decide (pc.inverted ≠ 0)
  mixMode := if pc.mixMode &&& 0x01 = MixMode.multiply.toByte then .multiply else .add
  pwmFailsafeMode := pwmFailsafeModeFromPacked ((pc.mixMode >>> 4) &&& 0x03)
  sourceA := pc.sourceA
  sourceB := pc.sourceB
  sourceC := pc.sourceC
  weightA := clampPercent pc.weightA
  weightB := clampPercent pc.weightB
  weightC := clampPercent pc.weightC
  offsetA := clampPercent pc.offsetA
  offsetB := clampPercent pc.offsetB
  offsetC := clampPercent pc.offsetC
  thresholdPercent := constrain (pc.threshold.toNat : ℤ) 0 100
  name := terminate pc.name

def PersistedChannel.sourcesValid (pc : PersistedChannel) : Bool :=
  sourceValid pc.sourceA && sourceValid pc.sourceB && sourceValid pc.sourceC

/-! ### Applying -/

namespace OutputBank

/-- The teardown of an old output: a used servo is released, the record is
reset. -/
def teardownSlot (i : OutputIdx) (s : OutputBank) : OutputBank := setOutput i {} (releaseIfUsed i s)

def teardown (s : OutputBank) : OutputBank :=
  (List.finRange kMaxOutputChannels).foldl (fun s i => teardownSlot i s) s

/-- One iteration of the channel loop of `applyPersistedConfig`. -/
def placeChannel (b : Board) (pc : PersistedChannel) (i : OutputIdx) (s : OutputBank) :
    OutputBank × Except String Unit :=
  if pc.used = 0 then (s, .ok ())
  else if !pc.sourcesValid then (s, .error "Invalid output source index")
  else
    let s := setOutput i (decodeChannel pc) s
    let setup (s : OutputBank) : OutputBank × Except String Unit :=
      (setupOutputHardware b i s).map id (Except.mapError ("Invalid preset: " ++ ·))
    if (s.outputs i).type = .pwm && !b.hasPwm (s.outputs i).pin then
      match firstAvailablePwmPin b i s with
      | none => (s, .error "Invalid preset: no PWM-compatible GPIO available")
      | some fallbackPin => setup (setOutput i { s.outputs i with pin := fallbackPin } s)
    else setup s

/-- The channel loop of `applyPersistedConfig`. -/
def placeChannels (b : Board) (cfg : PersistedConfig) (s : OutputBank) :
    OutputBank × Except String Unit :=
  Pass.run (fun i => placeChannel b (cfg.channels i) i) (List.finRange kMaxOutputChannels) s

/-- One iteration of the loop of `restoreOld` over the outputs. -/
def restoreSlot (b : Board) (oldOutputs : OutputIdx → OutputChannelConfig)
    (oldPwm : OutputIdx → Bool) (i : OutputIdx) (s : OutputBank) : OutputBank :=
  let s := setAttached i false (setOutput i (oldOutputs i) (releaseIfUsed i s))
  if (s.outputs i).used && oldPwm i then (setupOutputHardware b i s).1 else s

/-- The part of `restoreOld` that puts the outputs back. -/
def restoreOld (b : Board) (oldOutputs : OutputIdx → OutputChannelConfig)
    (oldPwm : OutputIdx → Bool) (s : OutputBank) : OutputBank :=
  (List.finRange kMaxOutputChannels).foldl (fun s i => restoreSlot b oldOutputs oldPwm i s) s

end OutputBank

/-- `applyPersistedConfig` up to its last call, `saveRuntimeConfigToNvs`. -/
def applyTables (b : Board) (cfg : PersistedConfig) (s : RcModel) : RcModel × Except String Unit :=
  if cfg.magic ≠ kConfigMagic ∨ cfg.version ≠ kConfigVersion then
    (s, .error "Invalid preset format")
  else
    let memory := decodeMemory cfg s.memory
    match s.bank.teardown.placeChannels b cfg with
    | (bank, .ok ()) =>
      ({ virtualInputs := decodeVirtualInputs cfg
         memory := memory
         bank := bank.applyFailsafeAllOutputs }, .ok ())
    | (bank, .error e) =>
      -- `restoreOld` puts the records and the outputs back, not the toggle memory
      ({ virtualInputs := s.virtualInputs
         memory := memory
         bank := bank.restoreOld b s.bank.outputs s.bank.pwmAttached }, .error e)

end RcController
