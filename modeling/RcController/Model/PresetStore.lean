import RcController.Model.Nvs
import RcController.Model.Codec

/-!
# The preset store

`preset_store.cpp` and `preset_service.cpp`: user presets are kept as a directory of
names and one blob for each slot, `pr0` to `pr7`; built-in presets are constants.

A function that takes an `errorOut` returns an `Except` whose error is the text it
would write there.
-/

namespace RcController

open DeviceProg

/-! ### Names -/

/-- The characters `sanitizePresetName` keeps. -/
def nameCharOk (c : UInt8) : Bool :=
  (97 ≤ c && c ≤ 122) || (65 ≤ c && c ≤ 90) || (48 ≤ c && c ≤ 57) || c = 95 || c = 45

/-- The loop of `sanitizePresetName`; `out` is the name built so far. -/
def sanitizeLoop : Str → Str → Str
  | [], out => out
  | c :: cs, out =>
    if out.length < 23 then
      if nameCharOk c then sanitizeLoop cs (out ++ [c])
      else if c = 32 then sanitizeLoop cs (out ++ [95])
      else sanitizeLoop cs out
    else out

def sanitizePresetName (s : Str) : Str :=
  let out := sanitizeLoop s.trim []
  if out = [] then lit "preset" else out

/-! ### The directory -/

/-- The directory of a store without presets. -/
def freshDirectory : PresetDirectory where
  magic := kConfigMagic
  version := kPresetDirectoryVersion

/-- `dir.names[i]`. -/
def PresetDirectory.name (dir : PresetDirectory) (i : ℕ) : CharBuf :=
  dir.names[i]?.getD CharBuf.zero

def findPresetSlotByName (dir : PresetDirectory) (name : Str) : Option ℕ :=
  (List.range dir.count).find? fun i => name.equalsIgnoreCase (cstr (dir.name i))

def loadPresetDirectory : NvsM PresetDirectory := do
  if !(← nvsOpenReadonly) then
    return freshDirectory
  else match ← nvsGetBlob .presetDir with
    | some (.directory dir) =>
      if dir.magic ≠ kConfigMagic ∨ dir.version ≠ kPresetDirectoryVersion then
        return freshDirectory
      else
        return { dir with count := min dir.count kMaxUserPresets }
    | _ => return freshDirectory

/-! ### User presets -/

/-- The two writes and the commit at the end of `saveUserPresetBlob`. -/
def writePreset (slot : ℕ) (cfg : PersistedConfig) (dir : PresetDirectory) :
    NvsM (Except String Unit) := do
  if !(← nvsOpenReadwrite) then
    return .error "NVS unavailable"
  else if !(← nvsSetBlob (.pr slot) (.config cfg)) then
    return .error "Failed to save preset"
  else if !(← nvsSetBlob .presetDir (.directory dir)) then
    return .error "Failed to save preset"
  else if !(← nvsCommit) then
    return .error "Failed to save preset"
  else
    return .ok ()

def saveUserPresetBlob (rawName : Str) (sourceCfg : PersistedConfig) :
    NvsM (Except String Unit) := do
  let name := sanitizePresetName rawName
  let dir ← loadPresetDirectory
  match findPresetSlotByName dir name with
  | some slot => writePreset slot sourceCfg dir
  | none =>
    if kMaxUserPresets ≤ dir.count then
      return .error "Preset limit reached"
    else
      let slot := dir.count
      let names := dir.names.setIfInBounds slot (toCharArray name CharBuf.zero)
      writePreset slot sourceCfg { dir with count := slot + 1, names := names }

def loadUserPreset (rawName : Str) : NvsM (Except String PersistedConfig) := do
  let name := sanitizePresetName rawName
  let dir ← loadPresetDirectory
  match findPresetSlotByName dir name with
  | none => return .error "Unknown preset"
  | some slot =>
    if !(← nvsOpenReadonly) then
      return .error "NVS unavailable"
    else match ← nvsGetBlob (.pr slot) with
      | some (.config cfg) =>
        if cfg.magic ≠ kConfigMagic then
          return .error "Preset corrupted (invalid magic)"
        else if cfg.version ≠ kConfigVersion then
          return .error "Preset obsolete (format changed after update)"
        else
          return .ok cfg
      | _ => return .error "Preset corrupted"

/-- The copying loop of `deleteUserPreset` over the slots still to do: the new
directory, or `none` when a write fails. -/
def copyPresets (dir : PresetDirectory) (slot : ℕ) :
    List ℕ → PresetDirectory → NvsM (Option PresetDirectory)
  | [], newDir => return some newDir
  | i :: is, newDir =>
    if i = slot then copyPresets dir slot is newDir
    else do
      match ← nvsGetBlob (.pr i) with
      | some (.config cfg) =>
        let dst := newDir.count
        if kMaxUserPresets ≤ dst then
          return some newDir
        else if !(← nvsSetBlob (.pr dst) (.config cfg)) then
          return none
        else
          let name := terminate (strncpy (newDir.name dst) (cstr (dir.name i)) 23)
          copyPresets dir slot is
            { newDir with names := newDir.names.setIfInBounds dst name, count := dst + 1 }
      -- a slot that cannot be read as a configuration is dropped
      | _ => copyPresets dir slot is newDir

/-- The erasing loop of `deleteUserPreset`. The replies are ignored. -/
def erasePresets : List ℕ → NvsM Unit
  | [] => return ()
  | i :: is => do
    let _ ← nvsEraseKey (.pr i)
    erasePresets is

def deleteUserPreset (rawName : Str) : NvsM (Except String Unit) := do
  let name := sanitizePresetName rawName
  let dir ← loadPresetDirectory
  match findPresetSlotByName dir name with
  | none => return .error "Unknown preset"
  | some slot =>
    if !(← nvsOpenReadwrite) then
      return .error "NVS unavailable"
    else
      let oldCount := dir.count
      match ← copyPresets dir slot (List.range oldCount) freshDirectory with
      | none => return .error "Failed to delete preset"
      | some newDir =>
        -- the directory is written last: until then the old one is read
        erasePresets (List.range' newDir.count (oldCount - newDir.count))
        if !(← nvsSetBlob .presetDir (.directory newDir)) then
          return .error "Failed to delete preset"
        else if !(← nvsCommit) then
          return .error "Failed to delete preset"
        else
          return .ok ()

/-! ### Built-in presets -/

/-- `strncpy(name, text, sizeof(name) - 1)` on a zeroed record. -/
def nameBuf (text : String) : CharBuf := strncpy CharBuf.zero (lit text) 23

/-- The header of a built-in preset. -/
def builtinHeader : PersistedConfig where
  magic := kConfigMagic
  version := kConfigVersion

def builtinPresetRcCar : PersistedConfig :=
  { builtinHeader with
    virtualInputs := fun i =>
      if i = 0 then
        { used := 1, input := InputId.axisRX, deadzone := 10, expo := 20,
          name := nameBuf "Steering" }
      else if i = 1 then
        { used := 1, input := InputId.throttle, inputSecondary := InputId.brake, deadzone := 0,
          expo := 25, name := nameBuf "Throttle" }
      else if i = 2 then
        -- Toggle3Pos, unipolar, rumble
        { used := 1, input := InputId.buttonA, reserved := 34, deadzone := 0, expo := 0,
          name := nameBuf "Steering DR" }
      else {}
    channels := fun i =>
      if i = 0 then
        { used := 1, type := ChannelType.pwm.toByte, pin := 13, sourceA := 0, sourceB := -1,
          sourceC := -1, mixMode := 1, weightA := 100, weightB := 0, weightC := 0, offsetB := 0,
          threshold := 50, name := nameBuf "Steering" }
      else if i = 1 then
        { used := 1, type := ChannelType.pwm.toByte, pin := 12, inverted := 1, sourceA := 1,
          sourceB := 2, sourceC := -1, mixMode := 1, weightA := 100, weightB := -75, weightC := 0,
          offsetB := 100, threshold := 50, name := nameBuf "Throttle" }
      else {} }

/-- A row of the table `vmap` of a built-in preset. -/
structure BuiltinInput where
  name : String
  input : InputId
  secondary : InputId
  deadzone : UInt8
  expo : UInt8

/-- A row of the table `omap` of a built-in preset. -/
structure BuiltinOutput where
  name : String
  pin : Pin
  inverted : Bool
  sourceA : Int8
  weightA : Int8
  sourceB : Int8
  weightB : Int8

/-- The two loops over `vmap` and `omap`. -/
def builtinFromTables (vmap : List BuiltinInput) (omap : List BuiltinOutput) : PersistedConfig :=
  { builtinHeader with
    virtualInputs := fun i =>
      match vmap[i.val]? with
      | some v =>
        { used := 1, input := v.input, inputSecondary := v.secondary, deadzone := v.deadzone,
          expo := v.expo, name := nameBuf v.name }
      | none => {}
    channels := fun i =>
      match omap[i.val]? with
      | some o =>
        { used := 1, type := ChannelType.pwm.toByte, pin := o.pin,
          inverted := if o.inverted then 1 else 0, sourceA := o.sourceA, weightA := o.weightA,
          sourceB := o.sourceB, weightB := o.weightB, sourceC := -1, weightC := 0, threshold := 50,
          name := nameBuf o.name }
      | none => {} }

def builtinPresetExcavator : PersistedConfig :=
  builtinFromTables
    [⟨"Drive", .axisY, .none, 10, 30⟩, ⟨"Steer", .axisX, .none, 10, 20⟩,
     ⟨"Turret", .axisRX, .none, 10, 15⟩, ⟨"Boom", .axisRY, .none, 10, 20⟩,
     ⟨"Bucket", .throttle, .brake, 5, 25⟩]
    [⟨"Left Track", 5, false, 0, 100, 1, 100⟩, ⟨"Right Track", 6, false, 0, 100, 1, -100⟩,
     ⟨"Turret", 4, false, 2, 100, -1, 0⟩, ⟨"Boom", 7, false, 3, 100, -1, 0⟩,
     ⟨"Bucket", 16, true, 4, 100, -1, 0⟩]

def builtinPresetSkidSteer : PersistedConfig :=
  builtinFromTables
    [⟨"Drive", .axisY, .none, 10, 20⟩, ⟨"Steer", .axisX, .none, 10, 20⟩,
     ⟨"Arm", .axisRY, .none, 10, 20⟩, ⟨"Bucket", .axisRX, .none, 10, 20⟩]
    [⟨"Left Track", 5, false, 0, 100, 1, 100⟩, ⟨"Right Track", 6, false, 0, 100, 1, -100⟩,
     ⟨"Arm", 7, false, 2, 100, -1, 0⟩, ⟨"Bucket", 16, false, 3, 100, -1, 0⟩]

/-- The old name of the car preset, still accepted by `loadAnyPreset`. -/
def kPresetRcCarLegacy : Str := lit "rc_car_controller"

/-- The presets `loadAnyPreset` answers without looking in the store. -/
def builtinPreset (name : Str) : Option PersistedConfig :=
  if name = kPresetRcCarLegacy then some builtinPresetRcCar
  else if name = kPresetRcCar then some builtinPresetRcCar
  else if name = kPresetExcavator then some builtinPresetExcavator
  else if name = kPresetSkidSteer then some builtinPresetSkidSteer
  else none

def loadAnyPreset (name : Str) : NvsM (Except String PersistedConfig) :=
  match builtinPreset name with
  | some cfg => return .ok cfg
  | none => loadUserPreset name

/-! ### The boot preset and the running configuration -/

def saveBootModelName (rawName : Str) : NvsM Bool := do
  let name := sanitizePresetName rawName
  if !(← nvsOpenReadwrite) then
    return false
  else if !(← nvsSetStr .bootModel name) then
    return false
  else
    nvsCommit

def loadBootModelName : NvsM Str := do
  if !(← nvsOpenReadonly) then
    return kPresetRcCar
  else match ← nvsGetStr .bootModel with
    | none => return kPresetRcCar
    | some s =>
      -- `required` counts the terminator
      if 64 < s.length + 1 then
        return kPresetRcCar
      else match ← nvsGetStr .bootModel with
        | none => return kPresetRcCar
        | some s =>
          let name := sanitizePresetName s
          return if name = kPresetRcCarLegacy then kPresetRcCar else name

def saveRuntimeConfigToNvs (s : RcModel) : NvsM Bool := do
  if !(← nvsOpenReadwrite) then
    return false
  else if !(← nvsSetBlob .cfg (.config (exportCurrentConfig s))) then
    return false
  else
    nvsCommit

/-- `applyPersistedConfig`. The result of the final save is ignored. -/
def applyPersistedConfig (b : Board) (cfg : PersistedConfig) (s : RcModel) :
    NvsM (RcModel × Except String Unit) :=
  match applyTables b cfg s with
  | (s, .ok ()) => do
    let _ ← saveRuntimeConfigToNvs s
    return (s, .ok ())
  | (s, .error e) => return (s, .error e)

/-! ### `preset_service.cpp` -/

def saveUserPresetFromConfig (rawName : Str) (sourceCfg : PersistedConfig) :
    NvsM (Except String Unit) :=
  saveUserPresetBlob rawName sourceCfg

def saveCurrentAsUserPreset (rawName : Str) (s : RcModel) : NvsM (Except String Unit) :=
  saveUserPresetBlob rawName (exportCurrentConfig s)

def presetNameExists (rawName : Str) : NvsM Bool := do
  let dir ← loadPresetDirectory
  let target := sanitizePresetName rawName
  return (List.range dir.count).any fun i => target.equalsIgnoreCase (cstr (dir.name i))

/-- The loop of `nextAvailableCustomModelName` over the suffixes still to
try. -/
def nextFreeSuffix (base : Str) : List ℕ → NvsM (Option Str)
  | [] => return none
  | i :: is => do
    let candidate := base ++ lit "_" ++ Str.ofNat i
    if !(← presetNameExists candidate) then
      return some candidate
    else nextFreeSuffix base is

def nextAvailableCustomModelName (baseName : Str) (millis : UInt32) : NvsM Str := do
  let base := sanitizePresetName baseName
  if !(← presetNameExists base) then
    return base
  else match ← nextFreeSuffix base (List.range' 2 98) with
    | some candidate => return candidate
    | none => return base ++ lit "_" ++ Str.ofNat (millis.toNat % 1000)

end RcController
