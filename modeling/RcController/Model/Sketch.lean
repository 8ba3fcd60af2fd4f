import RcController.Model.Requests
import RcController.Model.PresetStore

/-!
# The firmware

`sketch.cpp` and `runtime_loop.cpp`: the globals, the API handlers, the controller
callbacks, the scan scheduler, the control tick and `setup()`.

The device as a whole is `System`: the globals, which controllers are connected, the
clock and the NVS namespace. It moves by events (`Event`): a request, a control tick,
a scheduler tick, a controller coming or going, time passing. `loop()` runs them in
one fixed order; a run here may run them in any order.

`millis()` is a 32-bit counter. It moves by events of its own (`Event.elapse`), so that
a run decides how much time lies between two others, and every reading within one event
sees the same value.
-/

namespace RcController

open DeviceProg

/-! ### Globals -/

/-- The index of a controller in Bluepad32. -/
abbrev ControllerIdx := Fin 4

/-- The kinds of controller `onConnectedController` tells apart. -/
inductive ControllerKind where
  | gamepad
  | mouse
  | keyboard
  | balanceBoard
  deriving DecidableEq

def kSignalTimeoutMs : UInt32 := 450
def kPairingWindowMs : UInt32 := 120000
def kBtAutoScanOnMs : UInt32 := 1500
def kBtAutoScanOffMs : UInt32 := 12000
def kBtPairingScanOnMs : UInt32 := 3500
def kBtPairingScanOffMs : UInt32 := 900

def kDefaultApSsid : Str := lit "RC-Controller"
def kDefaultApPassword : Str := lit "rccontrol"

/-- The globals of `sketch.cpp`, with those of `rc_model.cpp` as `rc`. -/
structure Sketch where
  rc : RcModel := {}
  gamepad : Option ControllerIdx := none
  lastPacketMs : UInt32 := 0
  signalTimedOut : Bool := false
  pairingScanEnabled : Bool := false
  pairingScanUntilMs : UInt32 := 0
  btScanActive : Bool := false
  btScanToggleAtMs : UInt32 := 0
  currentModelName : Str := kPresetRcCar
  bootModelName : Str := kPresetRcCar
  apSsid : Str := kDefaultApSsid
  apPassword : Str := kDefaultApPassword
  modelDirty : Bool := false

namespace Sketch

def setInputs (s : Sketch) (virtualInputs : InputIdx → VirtualInputConfig) : Sketch :=
  { s with rc := { s.rc with virtualInputs := virtualInputs } }

def setBank (s : Sketch) (bank : OutputBank) : Sketch := { s with rc := { s.rc with bank := bank } }

end Sketch

/-- What a handler sends back. -/
inductive Reply where
  | json (ok : Bool) (message : String)
  -- the answer of `model_save_current` for a built-in model
  | readonly (suggestedName base : Str)
  deriving DecidableEq

/-- The reply says that the request was carried out. -/
def Reply.ok : Reply → Bool
  | .json ok _ => ok
  | .readonly _ _ => false

/-- The three names the handlers treat as read-only models. -/
def isReadonlyModel (name : Str) : Bool :=
  decide (name = kPresetRcCar) || decide (name = kPresetExcavator) ||
    decide (name = kPresetSkidSteer)

/-! ### Access point -/

def sanitizeApSsid (raw : Str) : Str :=
  let ssid := raw.trim
  if ssid = [] then kDefaultApSsid
  else if 31 < ssid.length then ssid.substring 31 else ssid

def sanitizeApPassword (raw : Str) : Str :=
  let pass := raw.trim
  if 63 < pass.length then pass.substring 63 else pass

def isValidApPassword (pass : Str) : Bool :=
  if pass = [] then true else 8 ≤ pass.length && pass.length ≤ 63

/-- A string key read in two steps, its length and its bytes, within a size
limit. -/
def loadString (key : NvsKey) (limit : ℕ) : NvsM (Option Str) := do
  if !(← nvsOpenReadonly) then
    return none
  else match ← nvsGetStr key with
    | none => return none
    -- the length NVS reports counts the terminating NUL
    | some s => if limit < s.length + 1 then return none else nvsGetStr key

def loadApSsid : NvsM Str := do
  match ← loadString .apSsid 64 with
  | none => return kDefaultApSsid
  | some s => return sanitizeApSsid s

def loadApPassword : NvsM Str := do
  match ← loadString .apPass 80 with
  | none => return kDefaultApPassword
  | some s =>
    let pass := sanitizeApPassword s
    return if isValidApPassword pass then pass else kDefaultApPassword

/-- A string key written and committed. -/
def saveString (key : NvsKey) (s : Str) : NvsM Bool := do
  if !(← nvsOpenReadwrite) then
    return false
  else if !(← nvsSetStr key s) then
    return false
  else
    nvsCommit

def saveApSsid (raw : Str) : NvsM Bool := saveString .apSsid (sanitizeApSsid raw)

def saveApPassword (raw : Str) : NvsM Bool := do
  let pass := sanitizeApPassword raw
  if !isValidApPassword pass then
    return false
  else
    saveString .apPass pass

/-! ### Handlers: inputs and outputs -/

def handleApiVirtualAdd (args : Args) (s : Sketch) : Sketch × Reply :=
  match firstFreeVirtualIndex s.rc.virtualInputs with
  | none => (s, .json false "Input limit reached")
  | some index =>
    let draft := args.parseVirtualFromRequest { used := true } index
    let s := s.setInputs (Function.update s.rc.virtualInputs index draft)
    ({ s with modelDirty := true }, .json true "Input added")

/-- The slot named by the parameter `index`, when it is one. -/
def parseIndex (args : Args) (n : ℕ) : Option (Fin n) :=
  let index := args.parseIntArg .index (-1)
  if h : 0 ≤ index ∧ index < n then some ⟨index.toNat, by omega⟩ else none

def handleApiVirtualUpdate (args : Args) (s : Sketch) : Sketch × Reply :=
  match parseIndex args kMaxVirtualInputs with
  | none => (s, .json false "Invalid input")
  | some index =>
    if !(s.rc.virtualInputs index).used then (s, .json false "Invalid input")
    else
      let draft := args.parseVirtualFromRequest (s.rc.virtualInputs index) index
      let s := s.setInputs (Function.update s.rc.virtualInputs index { draft with used := true })
      ({ s with modelDirty := true }, .json true "Input updated")

/-- What `handleApiVirtualDelete` does to a channel: the terms of the deleted
input are cleared. -/
def clearSource (index : InputIdx) (c : OutputChannelConfig) : OutputChannelConfig :=
  if !c.used then c
  else
    let c := if c.sourceA.toInt = index.val then
      { c with sourceA := -1, weightA := 0, offsetA := 0 } else c
    let c := if c.sourceB.toInt = index.val then
      { c with sourceB := -1, weightB := 0, offsetB := 0 } else c
    if c.sourceC.toInt = index.val then
      { c with sourceC := -1, weightC := 0, offsetC := 0 } else c

def handleApiVirtualDelete (args : Args) (s : Sketch) : Sketch × Reply :=
  match parseIndex args kMaxVirtualInputs with
  | none => (s, .json false "Invalid input")
  | some index =>
    if !(s.rc.virtualInputs index).used then (s, .json false "Invalid input")
    else
      let s := s.setInputs (Function.update s.rc.virtualInputs index {})
      let bank := s.rc.bank
      let s := s.setBank { bank with outputs := fun i => clearSource index (bank.outputs i) }
      ({ s with modelDirty := true }, .json true "Input deleted")

/-- The end of the three output handlers: `record` goes into the slot and the
hardware is rebuilt. When that fails the slot gets back what it held and the
hardware is rebuilt again. -/
def editOutput (b : Board) (index : OutputIdx) (record : OutputChannelConfig) (message : String)
    (s : Sketch) : Sketch × Reply :=
  let backup := s.rc.bank.outputs index
  match (s.rc.bank.setOutput index record).rebuildOutputHardware b with
  | (bank, .error e) =>
    (s.setBank ((bank.setOutput index backup).rebuildOutputHardware b).1, .json false e)
  | (bank, .ok ()) => ({ s.setBank bank with modelDirty := true }, .json true message)

def handleApiOutputAdd (b : Board) (args : Args) (s : Sketch) : Sketch × Reply :=
  match s.rc.bank.firstFreeOutputIndex with
  | none => (s, .json false "Output limit reached")
  | some index =>
    editOutput b index (args.parseOutputFromRequest { used := true } index) "Output added" s

/-- The record `handleApiOutputUpdate` writes. Without `allow_rewire` the wiring
fields keep their values. -/
def updatedOutput (args : Args) (backup : OutputChannelConfig) (index : OutputIdx) :
    OutputChannelConfig :=
  let draft := { args.parseOutputFromRequest backup index with used := true }
  if !args.parseBoolArg .allowRewire false then
    { draft with
      type := backup.type
      pin := backup.pin
      sourceA := backup.sourceA
      sourceB := backup.sourceB
      sourceC := backup.sourceC
      mixMode := backup.mixMode
      weightA := backup.weightA
      weightB := backup.weightB
      weightC := backup.weightC
      offsetA := backup.offsetA
      offsetB := backup.offsetB
      offsetC := backup.offsetC }
  else draft

def handleApiOutputUpdate (b : Board) (args : Args) (s : Sketch) : Sketch × Reply :=
  match parseIndex args kMaxOutputChannels with
  | none => (s, .json false "Invalid output")
  | some index =>
    if !(s.rc.bank.outputs index).used then (s, .json false "Invalid output")
    else
      editOutput b index (updatedOutput args (s.rc.bank.outputs index) index) "Output updated" s

def handleApiOutputDelete (b : Board) (args : Args) (s : Sketch) : Sketch × Reply :=
  match parseIndex args kMaxOutputChannels with
  | none => (s, .json false "Invalid output")
  | some index =>
    if !(s.rc.bank.outputs index).used then (s, .json false "Invalid output")
    else editOutput b index {} "Output deleted" s

/-! ### Handlers: presets and models -/

/-- `applyPersistedConfig` on the globals. -/
def applyToSketch (b : Board) (cfg : PersistedConfig) (s : Sketch) :
    NvsM (Sketch × Except String Unit) := do
  let (rc, r) ← applyPersistedConfig b cfg s.rc
  return ({ s with rc := rc }, r)

def handleApiPresetApply (b : Board) (args : Args) (s : Sketch) : NvsM (Sketch × Reply) := do
  let modelName := sanitizePresetName (args.arg .name)
  match ← loadAnyPreset modelName with
  | .error e => return (s, .json false e)
  | .ok cfg =>
    match ← applyToSketch b cfg s with
    | (s, .error e) => return (s, .json false e)
    | (s, .ok ()) =>
      return ({ s with currentModelName := modelName, modelDirty := false },
        .json true "Preset applied")

def handleApiModelSetDefault (args : Args) (s : Sketch) : NvsM (Sketch × Reply) := do
  let modelName := sanitizePresetName (args.arg .name)
  match ← loadAnyPreset modelName with
  | .error e => return (s, .json false e)
  | .ok _ =>
    if !(← saveBootModelName modelName) then
      return (s, .json false "Failed to save boot model")
    else
      return ({ s with bootModelName := modelName }, .json true "Boot model updated")

/-- The configuration `handleApiModelCreate` stores: the live one, a preset, or
an empty one. -/
def newModelConfig (args : Args) (s : Sketch) : NvsM (Except String PersistedConfig) := do
  let rawBase := (if args.hasArg .base then args.arg .base else []).trim
  let cloneEnabled := rawBase ≠ [] && !rawBase.equalsIgnoreCase (lit "none")
  if args.parseBoolArg .fromCurrent false then
    return .ok (exportCurrentConfig s.rc)
  else if cloneEnabled then
    loadAnyPreset (sanitizePresetName rawBase)
  else
    return .ok { magic := kConfigMagic, version := kConfigVersion }

/-- `handleApiModelCreate`. A sanitized name is never empty, so the test of the
source for an empty one is left out. -/
def handleApiModelCreate (b : Board) (args : Args) (s : Sketch) : NvsM (Sketch × Reply) := do
  let newName := sanitizePresetName (args.arg .name)
  match ← newModelConfig args s with
  | .error e => return (s, .json false e)
  | .ok cfg =>
    match ← saveUserPresetFromConfig newName cfg with
    | .error e => return (s, .json false e)
    | .ok () =>
      -- it is stored by now, and stays stored when the apply fails
      match ← applyToSketch b cfg s with
      | (s, .error e) => return (s, .json false e)
      | (s, .ok ()) =>
        return ({ s with currentModelName := newName, modelDirty := false },
          .json true "Model created")

/-- The base of the name suggested for a fork of a built-in model. -/
def forkBase (name : Str) : Str :=
  if name = kPresetRcCar then lit "car_custom"
  else if name = kPresetExcavator then lit "excavator_custom"
  else lit "skid_steer_custom"

def handleApiModelSaveCurrent (millis : UInt32) (s : Sketch) : NvsM (Sketch × Reply) := do
  if isReadonlyModel s.currentModelName then
    let suggested ← nextAvailableCustomModelName (forkBase s.currentModelName) millis
    return (s, .readonly suggested s.currentModelName)
  else
    match ← saveCurrentAsUserPreset s.currentModelName s.rc with
    | .error e => return (s, .json false e)
    | .ok () =>
      -- the blob of the running configuration is written too, and its failure ignored
      let _ ← saveRuntimeConfigToNvs s.rc
      return ({ s with modelDirty := false }, .json true "Model saved")

def handleApiModelRevert (b : Board) (s : Sketch) : NvsM (Sketch × Reply) := do
  match ← loadAnyPreset s.currentModelName with
  | .error e => return (s, .json false e)
  | .ok cfg =>
    match ← applyToSketch b cfg s with
    | (s, .error e) => return (s, .json false e)
    | (s, .ok ()) => return ({ s with modelDirty := false }, .json true "Changes reverted")

/-- The end of `handleApiModelDelete` when the current model is gone: the boot
model is loaded, or the car preset when that fails, and applied. The result of
the apply is ignored. -/
def fallBackToBootModel (b : Board) (s : Sketch) : NvsM Sketch := do
  match ← loadAnyPreset s.bootModelName with
  | .ok cfg =>
    let (s, _) ← applyToSketch b cfg { s with currentModelName := s.bootModelName }
    return { s with modelDirty := false }
  | .error _ =>
    let s := { s with bootModelName := kPresetRcCar, currentModelName := kPresetRcCar }
    match ← loadAnyPreset kPresetRcCar with
    | .ok cfg =>
      let (s, _) ← applyToSketch b cfg s
      return { s with modelDirty := false }
    -- a zeroed configuration, though the built-in car always loads
    | .error _ =>
      let (s, _) ← applyToSketch b {} s
      return { s with modelDirty := false }

def handleApiModelDelete (b : Board) (args : Args) (s : Sketch) : NvsM (Sketch × Reply) := do
  let modelName := sanitizePresetName (args.arg .name)
  if isReadonlyModel modelName then
    return (s, .json false "Readonly preset")
  else
    match ← deleteUserPreset modelName with
    | .error e => return (s, .json false e)
    | .ok () =>
      -- the names are compared exactly; `deleteUserPreset` ignored the case
      let s ← if s.bootModelName = modelName then do
          let _ ← saveBootModelName kPresetRcCar
          pure { s with bootModelName := kPresetRcCar }
        else pure s
      let s ← if s.currentModelName = modelName then fallBackToBootModel b s else pure s
      return (s, .json true "Preset deleted")

/-! ### Handlers: access point and pairing -/

/-- `handleApiApConfigSet`, and `handleApiApConfigApplyReboot` up to the
restart. The two differ in the text of the reply. -/
def handleApConfig (message : String) (args : Args) (s : Sketch) : NvsM (Sketch × Reply) := do
  if !args.hasArg .ssid || !args.hasArg .password then
    return (s, .json false "Missing AP fields")
  else
    let nextSsid := sanitizeApSsid (args.arg .ssid)
    let nextPass := sanitizeApPassword (args.arg .password)
    if !isValidApPassword nextPass then
      return (s, .json false "Password must be empty (open) or 8-63 chars")
    else if !(← saveApSsid nextSsid) then
      return (s, .json false "Failed to save AP config")
    -- the password is sanitized and checked once more, with the new SSID stored
    else if !(← saveApPassword nextPass) then
      return (s, .json false "Failed to save AP config")
    else
      return ({ s with apSsid := nextSsid, apPassword := nextPass }, .json true message)

def handleApiApConfigSet (args : Args) (s : Sketch) : NvsM (Sketch × Reply) :=
  handleApConfig "AP config saved. Reboot required to apply." args s

def handleApiApConfigApplyReboot (args : Args) (s : Sketch) : NvsM (Sketch × Reply) :=
  handleApConfig "AP config saved. Rebooting now..." args s

def handleApiPairingOn (millis : UInt32) (s : Sketch) : Sketch × Reply :=
  ({ s with
      pairingScanEnabled := true
      pairingScanUntilMs := millis + kPairingWindowMs
      btScanToggleAtMs := 0 }, .json true "Pairing ON")

def handleApiPairingOff (s : Sketch) : Sketch × Reply :=
  ({ s with pairingScanEnabled := false, pairingScanUntilMs := 0, btScanToggleAtMs := 0 },
    .json true "Pairing OFF")

/-- The endpoints that change something. -/
inductive Endpoint where
  | virtualAdd
  | virtualUpdate
  | virtualDelete
  | outputAdd
  | outputUpdate
  | outputDelete
  | presetApply
  | modelSetDefault
  | modelCreate
  | modelSaveCurrent
  | modelRevert
  | modelDelete
  | apConfigSet
  | apConfigApplyReboot
  | pairingOn
  | pairingOff
  deriving DecidableEq

/-- A request to the API. -/
structure Request where
  endpoint : Endpoint
  args : Args := fun _ => none

/-- The handler of a request. -/
def handleRequest (b : Board) (millis : UInt32) (r : Request) (s : Sketch) :
    NvsM (Sketch × Reply) :=
  match r.endpoint with
  | .virtualAdd => return handleApiVirtualAdd r.args s
  | .virtualUpdate => return handleApiVirtualUpdate r.args s
  | .virtualDelete => return handleApiVirtualDelete r.args s
  | .outputAdd => return handleApiOutputAdd b r.args s
  | .outputUpdate => return handleApiOutputUpdate b r.args s
  | .outputDelete => return handleApiOutputDelete b r.args s
  | .presetApply => handleApiPresetApply b r.args s
  | .modelSetDefault => handleApiModelSetDefault r.args s
  | .modelCreate => handleApiModelCreate b r.args s
  | .modelSaveCurrent => handleApiModelSaveCurrent millis s
  | .modelRevert => handleApiModelRevert b s
  | .modelDelete => handleApiModelDelete b r.args s
  | .apConfigSet => handleApiApConfigSet r.args s
  | .apConfigApplyReboot => handleApiApConfigApplyReboot r.args s
  | .pairingOn => return handleApiPairingOn millis s
  | .pairingOff => return handleApiPairingOff s

/-! ### Controllers, scheduler and control tick -/

/-- `setBtScanActive`. -/
def setBtScanActive (enabled : Bool) (s : Sketch) : Sketch :=
  if s.btScanActive = enabled then s else { s with btScanActive := enabled }

/-- `updateBtScanScheduler`. -/
def updateBtScanScheduler (now : UInt32) (connected : Bool) (s : Sketch) : Sketch :=
  -- readings of `millis()` are compared as unsigned numbers, also across a wrap
  let s := if s.pairingScanEnabled && s.pairingScanUntilMs < now then
    { s with pairingScanEnabled := false, btScanToggleAtMs := 0 } else s
  if connected then
    { setBtScanActive false s with btScanToggleAtMs := now + 2000 }
  -- a zero is no deadline: the next phase starts at once
  else if s.btScanToggleAtMs ≠ 0 && now < s.btScanToggleAtMs then s
  else
    let onMs := if s.pairingScanEnabled then kBtPairingScanOnMs else kBtAutoScanOnMs
    let offMs := if s.pairingScanEnabled then kBtPairingScanOffMs else kBtAutoScanOffMs
    if s.btScanActive then { setBtScanActive false s with btScanToggleAtMs := now + offMs }
    else { setBtScanActive true s with btScanToggleAtMs := now + onMs }

/-- `onConnectedController`; `connected` says which controllers are. -/
def onConnectedController (now : UInt32) (connected : ControllerIdx → Bool) (ctl : ControllerIdx)
    (kind : ControllerKind) (s : Sketch) : Sketch :=
  if kind ≠ .gamepad then s
  -- a second gamepad is turned away while the first is connected
  else if s.gamepad.any connected then s
  else
    let s := { s with gamepad := some ctl, lastPacketMs := now, signalTimedOut := false }
    let s := if s.pairingScanEnabled then
      { s with pairingScanEnabled := false, pairingScanUntilMs := 0 } else s
    setBtScanActive false { s with btScanToggleAtMs := 0 }

/-- `onDisconnectedController`. -/
def onDisconnectedController (ctl : ControllerIdx) (s : Sketch) : Sketch :=
  if some ctl = s.gamepad then
    let s := { s with gamepad := none, signalTimedOut := false }
    { s.setBank s.rc.bank.applyFailsafeAllOutputs with btScanToggleAtMs := 0 }
  else s

/-- `evaluateVirtualRuntime` on the globals. -/
def evaluateInputs (b : Board) (now : UInt32) (ctl : Option Snapshot) (rc : RcModel) : RcModel :=
  { rc with memory := evaluateVirtualRuntime b.powf now rc.virtualInputs rc.memory ctl }

/-- `processGamepadToOutputs`. -/
def processGamepadToOutputs (b : Board) (now : UInt32) (c : Snapshot) (rc : RcModel) : RcModel :=
  let rc := evaluateInputs b now (some c) rc
  { rc with bank := rc.bank.driveOutputs fun i => (rc.memory i).runtime }

/-- `processControlTick`. `packet` is the fresh packet of the gamepad, when it
has one. -/
def processControlTick (b : Board) (now : UInt32) (gamepadConnected : Bool)
    (packet : Option Snapshot) (s : Sketch) : Sketch :=
  if gamepadConnected then
    match packet with
    | some c =>
      { s with
        lastPacketMs := now
        signalTimedOut := false
        rc := processGamepadToOutputs b now c s.rc }
    | none =>
      -- a difference of readings, which a wrap leaves right
      if kSignalTimeoutMs < now - s.lastPacketMs then
        { s.setBank s.rc.bank.applyFailsafeAllOutputs with signalTimedOut := true }
      else s
  else
    let s := { s with rc := evaluateInputs b now none s.rc }
    s.setBank s.rc.bank.applyFailsafeAllOutputs

/-! ### Startup -/

/-- The boot preset, or the car preset when it cannot be loaded, with the names
it leaves. -/
def loadBootPreset (s : Sketch) : NvsM (Sketch × PersistedConfig) := do
  let boot ← loadBootModelName
  let s := { s with bootModelName := boot, currentModelName := boot }
  match ← loadAnyPreset boot with
  | .ok cfg => return (s, cfg)
  | .error _ =>
    let s := { s with bootModelName := kPresetRcCar, currentModelName := kPresetRcCar }
    match ← loadAnyPreset kPresetRcCar with
    | .ok cfg => return (s, cfg)
    | .error _ => return (s, {})

/-- `setup()`. The result of the apply is ignored. -/
def setup (b : Board) (now : UInt32) : NvsM Sketch := do
  let ssid ← loadApSsid
  let pass ← loadApPassword
  let s : Sketch := { apSsid := ssid, apPassword := pass, btScanToggleAtMs := now + 5000 }
  let (s, cfg) ← loadBootPreset s
  let (s, _) ← applyToSketch b cfg s
  let s := { s with modelDirty := false }
  return s.setBank s.rc.bank.applyFailsafeAllOutputs

/-! ### The device -/

/-- The state of the device. -/
structure System where
  sketch : Sketch
  connected : ControllerIdx → Bool
  millis : UInt32
  nvs : NvsStore

namespace System

/-- `g_gamepad && g_gamepad->isConnected()`. -/
def gamepadConnected (s : System) : Bool := s.sketch.gamepad.any s.connected

/-- The field `failsafeActive` of the state and activity payloads. -/
def failsafeActive (s : System) : Bool := s.sketch.signalTimedOut || !s.gamepadConnected

/-- The device after `setup()` on a given NVS content, with a plan of NVS
faults. -/
def boot (b : Board) (nvs : NvsStore) (plan : Prog.Plan nvsInterface) (millis : UInt32) : System :=
  let r := (setup b millis).run nvsDevice plan nvs
  { sketch := r.1, connected := fun _ => false, millis := millis, nvs := r.2 }

end System

/-- What can happen to the device. `plan` says which NVS calls of a request
fail; of a restart it says which NVS calls of `setup()` do. -/
inductive Event where
  | request (r : Request) (plan : Prog.Plan nvsInterface) (restartPlan : Prog.Plan nvsInterface)
  | tick (packet : Option Snapshot)
  | schedulerTick
  | connect (ctl : ControllerIdx) (kind : ControllerKind)
  | disconnect (ctl : ControllerIdx)
  | elapse (ms : UInt32)

namespace System

/-- A request is handled. `ap_config_apply_reboot` restarts the device when it
succeeds. -/
def request (b : Board) (r : Request) (plan restartPlan : Prog.Plan nvsInterface) (s : System) :
    System :=
  let res := (handleRequest b s.millis r s.sketch).run nvsDevice plan s.nvs
  if r.endpoint = .apConfigApplyReboot ∧ res.1.2.ok = true then
    boot b res.2 restartPlan 0
  else { s with sketch := res.1.1, nvs := res.2 }

/-- One event. -/
def step (b : Board) (s : System) : Event → System
  | .request r plan restartPlan => s.request b r plan restartPlan
  | .tick packet =>
    { s with sketch := processControlTick b s.millis s.gamepadConnected packet s.sketch }
  | .schedulerTick =>
    { s with sketch := updateBtScanScheduler s.millis s.gamepadConnected s.sketch }
  | .connect ctl kind =>
    -- Bluepad32 marks the controller connected before it calls back
    let connected := Function.update s.connected ctl true
    { s with
      connected := connected
      sketch := onConnectedController s.millis connected ctl kind s.sketch }
  | .disconnect ctl =>
    -- and disconnected after it has called back
    { s with
      connected := Function.update s.connected ctl false
      sketch := onDisconnectedController ctl s.sketch }
  | .elapse ms => { s with millis := s.millis + ms }

end System

end RcController
