import RcController.Model.JsonWriter
import RcController.Model.Outputs

/-!
# The state payloads

`state_service.cpp`: the two builders the UI lives on. `buildStateJson` writes the whole
configuration, `buildActivityJson` what moves several times a second.

A builder is a program of writer calls (`Writing`), which has no result when a call writes past
the stack of the writer. The runtime values are floats. What the builders do with one is to take
its absolute value, to compare it, and to write it with three decimals; these operations are
parameters (`FloatOps`), and the type of floats is any.
-/

namespace RcController

/-! ### Floats as text -/

/-- What the payloads need of a type of floats. The digits are those the loop of
`dtostrf` takes off a number in `double` arithmetic: `tens` says how often it
finds the number too large for the digits it has, and `digit` is the digit at a
position, both for a number of decimals. -/
structure FloatOps (F : Type) where
  isnan : F → Bool
  isinf : F → Bool
  /-- `number < 0.0` -/
  negative : F → Bool
  fabsf : F → F
  /-- `x > kActiveThreshold` -/
  aboveActiveThreshold : F → Bool
  tens : F → ℕ → ℕ
  digit : F → ℕ → ℕ → ℕ

variable {F : Type}

/-- `dtostrf` of `stdlib_noniso.c`. -/
def dtostrf (fl : FloatOps F) (number : F) (width : ℤ) (prec : ℕ) : Str :=
  if fl.isnan number then lit "nan"
  else if fl.isinf number then lit "inf"
  else
    let sign : Str := if fl.negative number then [45] else []
    let digitcount := fl.tens number prec + 1
    let fillme : ℤ := width - (if prec > 0 then prec + 1 else 0) - sign.length - digitcount
    -- the fill loop runs while `fillme` is positive
    List.replicate fillme.toNat 32 ++ sign ++
      (List.range (digitcount + prec)).flatMap fun k =>
        (48 ||| UInt8.ofNat (min (fl.digit number prec k) 9)) ::
          -- the point goes behind the last digit of the integer part
          if k + 1 = digitcount ∧ prec > 0 then [46] else []

/-- `String(value, decimalPlaces)`. -/
def floatText (fl : FloatOps F) (value : F) (decimalPlaces : ℕ) : Str :=
  dtostrf fl value (decimalPlaces + 2) decimalPlaces

namespace JsonWriter

/-- `value(const char*)`. -/
def valueCString (text : Option Str) (w : JsonWriter) : JsonWriter :=
  w.valueString ((text.getD []).takeWhile (· ≠ 0))

/-- `value(float, int)`. -/
def valueFloat (fl : FloatOps F) (value : F) (decimals : ℕ) (w : JsonWriter) : JsonWriter :=
  let w := w.beforeValue
  { w with out := w.out ++ floatText fl value decimals, expectingValue := false }

end JsonWriter

/-! ### Programs of writer calls -/

/-- A program of calls of the writer `j`. -/
abbrev Writing := StateT JsonWriter Option Unit

namespace Writing

def beginObject : Writing := fun j => j.beginObject.map fun j => ((), j)

def endObject : Writing := modify JsonWriter.endObject

def beginArray : Writing := fun j => j.beginArray.map fun j => ((), j)

def endArray : Writing := modify JsonWriter.endArray

def key (k : String) : Writing := modify (JsonWriter.key (lit k))

def valueString (s : Str) : Writing := modify (JsonWriter.valueString s)

def valueCString (text : Option Str) : Writing := modify (JsonWriter.valueCString text)

def valueInt (n : ℤ) : Writing := modify (JsonWriter.valueInt n)

def valueFloat (fl : FloatOps F) (value : F) (decimals : ℕ) : Writing :=
  modify (JsonWriter.valueFloat fl value decimals)

def valueBool (v : Bool) : Writing := modify (JsonWriter.valueBool v)

/-- The text a builder returns: `j.str()`. -/
def str (builder : Writing) : Option Str := (builder {}).map fun (_, j) => j.out

end Writing

open Writing

/-! ### Snapshots -/

/-- A directory whose names are all in its array. `loadPresetDirectory` leaves
no other. -/
abbrev LoadedDirectory := { dir : PresetDirectory // dir.count ≤ kMaxUserPresets }

/-- A name that is counted. -/
def LoadedDirectory.name (dir : LoadedDirectory) (i : Fin dir.val.count) : CharBuf :=
  dir.val.names.get ⟨i.val, i.isLt.trans_le dir.property⟩

/-- `StateSnapshot`. Of the address of the access point the text counts. -/
structure StateSnapshot (F : Type) where
  apIp : Str
  apSsid : Str
  apPassword : Str
  gamepadConnected : Bool
  btScanActive : Bool
  pairingEnabled : Bool
  failsafeActive : Bool
  fwVersion : Str
  fwChannel : Str
  currentModel : Str
  bootModel : Str
  modelDirty : Bool
  virtualInputs : InputIdx → VirtualInputConfig
  outputs : OutputIdx → OutputChannelConfig
  virtualRuntime : InputIdx → F
  outputRuntime : OutputIdx → F
  presetDir : Option LoadedDirectory
  presetBuiltinA : Option Str
  presetBuiltinB : Option Str
  presetBuiltinC : Option Str

/-! ### Builders -/

def outputTypeLabel (type : ChannelType) : Str :=
  match type with
  | .pwm => lit "PWM"
  | .switch => lit "ON/OFF"

def mixModeLabel (mode : MixMode) : Str :=
  match mode with
  | .multiply => lit "Multiply"
  | .add => lit "Add"

def appendVirtualInput (fl : FloatOps F) (index : InputIdx) (inp : VirtualInputConfig)
    (runtime : F) : Writing := do
  beginObject
  key "index"
  valueInt index.val
  key "name"
  valueString (cstr inp.name)
  key "input"
  valueInt inp.primary.toNat
  key "input_secondary"
  valueInt inp.secondary.toNat
  key "input_type"
  valueInt inp.inputType.toByte.toNat
  key "range_mode"
  valueInt inp.toggleRange.toByte.toNat
  key "rumble"
  valueBool inp.rumbleEnabled
  key "input_modifier"
  valueInt inp.modifier.toNat
  key "modifier_function"
  valueInt inp.modifierFunction.toByte.toNat
  key "deadzone"
  valueInt inp.deadzonePercent
  key "expo"
  valueInt inp.expoPercent
  key "signed_activity"
  valueFloat fl runtime 3
  key "activity"
  valueFloat fl (fl.fabsf runtime) 3
  key "active"
  valueBool (fl.aboveActiveThreshold (fl.fabsf runtime))
  endObject

def appendOutput (fl : FloatOps F) (index : OutputIdx) (out : OutputChannelConfig) (runtime : F)
    (failsafeActive : Bool) : Writing := do
  beginObject
  key "index"
  valueInt index.val
  key "name"
  valueString (cstr out.name)
  key "type"
  valueInt out.type.toByte.toNat
  key "type_label"
  valueString (outputTypeLabel out.type)
  key "pin"
  valueInt out.pin.toNat
  key "source_a"
  valueInt out.sourceA.toInt
  key "source_b"
  valueInt out.sourceB.toInt
  key "source_c"
  valueInt out.sourceC.toInt
  key "mix_mode"
  valueInt out.mixMode.toByte.toNat
  key "mix_mode_label"
  valueString (mixModeLabel out.mixMode)
  key "weight_a"
  valueInt out.weightA.toInt
  key "weight_b"
  valueInt out.weightB.toInt
  key "weight_c"
  valueInt out.weightC.toInt
  key "offset_a"
  valueInt out.offsetA.toInt
  key "offset_b"
  valueInt out.offsetB.toInt
  key "offset_c"
  valueInt out.offsetC.toInt
  key "threshold"
  valueInt out.thresholdPercent
  key "inverted"
  valueBool out.inverted
  key "pwm_failsafe"
  valueInt out.pwmFailsafeMode.toByte.toNat
  key "failsafe_active"
  valueBool failsafeActive
  key "signed_activity"
  valueFloat fl runtime 3
  key "activity"
  valueFloat fl (fl.fabsf runtime) 3
  key "active"
  valueBool (fl.aboveActiveThreshold (fl.fabsf runtime))
  endObject

/-- The names of the user presets in `buildStateJson`. -/
def presetNames (presetDir : Option LoadedDirectory) : Writing :=
  match presetDir with
  | none => pure ()
  | some dir => (List.finRange dir.val.count).forM fun i =>
      valueString (cstr (dir.name i))

/-- The calls of `buildStateJson`. -/
def stateCalls (b : Board) (fl : FloatOps F) (s : StateSnapshot F) : Writing := do
  beginObject
  key "ap_ip"
  valueString s.apIp
  key "ap_ssid"
  valueString s.apSsid
  key "ap_password"
  valueString s.apPassword
  key "gamepad"
  valueBool s.gamepadConnected
  key "bt_scan"
  valueBool s.btScanActive
  key "pairing"
  valueBool s.pairingEnabled
  key "current_model"
  valueString s.currentModel
  key "fw_version"
  valueString s.fwVersion
  key "fw_channel"
  valueString s.fwChannel
  key "boot_model"
  valueString s.bootModel
  key "model_dirty"
  valueBool s.modelDirty
  key "failsafe"
  valueBool s.failsafeActive
  key "virtual_inputs"
  beginArray
  (List.finRange kMaxVirtualInputs).forM fun i =>
    if !(s.virtualInputs i).used then pure ()
    else appendVirtualInput fl i (s.virtualInputs i) (s.virtualRuntime i)
  endArray
  key "outputs"
  beginArray
  -- an unused slot is passed over, so the entries name their slot
  (List.finRange kMaxOutputChannels).forM fun i =>
    if !(s.outputs i).used then pure ()
    else appendOutput fl i (s.outputs i) (s.outputRuntime i) s.failsafeActive
  endArray
  key "pwm_pins"
  beginArray
  -- pins 0 to 48
  OutputBank.scanPins.forM fun pin => if b.hasPwm pin then valueInt pin.toNat else pure ()
  endArray
  key "presets"
  beginArray
  valueCString s.presetBuiltinA
  valueCString s.presetBuiltinB
  valueCString s.presetBuiltinC
  presetNames s.presetDir
  endArray
  endObject

/-- The calls of `buildActivityJson`. -/
def activityCalls (fl : FloatOps F) (s : StateSnapshot F) : Writing := do
  beginObject
  key "ap_ssid"
  valueString s.apSsid
  key "gamepad"
  valueBool s.gamepadConnected
  key "bt_scan"
  valueBool s.btScanActive
  key "pairing"
  valueBool s.pairingEnabled
  key "failsafe"
  valueBool s.failsafeActive
  key "fw_version"
  valueString s.fwVersion
  key "fw_channel"
  valueString s.fwChannel
  key "virtual_inputs"
  beginArray
  (List.finRange kMaxVirtualInputs).forM fun i =>
    if !(s.virtualInputs i).used then pure ()
    else do
      beginObject
      key "index"
      valueInt i.val
      key "signed_activity"
      valueFloat fl (s.virtualRuntime i) 3
      key "active"
      valueBool (fl.aboveActiveThreshold (fl.fabsf (s.virtualRuntime i)))
      endObject
  endArray
  key "outputs"
  beginArray
  (List.finRange kMaxOutputChannels).forM fun i =>
    if !(s.outputs i).used then pure ()
    else do
      beginObject
      key "index"
      valueInt i.val
      key "signed_activity"
      valueFloat fl (s.outputRuntime i) 3
      key "failsafe_active"
      valueBool s.failsafeActive
      key "active"
      valueBool (fl.aboveActiveThreshold (fl.fabsf (s.outputRuntime i)))
      endObject
  endArray
  endObject

def buildStateJson (b : Board) (fl : FloatOps F) (s : StateSnapshot F) : Option Str :=
  (stateCalls b fl s).str

def buildActivityJson (fl : FloatOps F) (s : StateSnapshot F) : Option Str :=
  (activityCalls fl s).str

end RcController
