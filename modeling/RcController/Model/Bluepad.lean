import RcController.Model.Sketch

/-!
# The controller bridge

Bluepad32 runs on one core, the sketch on the other. `arduino_platform.c` lies between
them: a table of seats (`controllers_`) that the Bluetooth side fills and the sketch side
reads. `ArduinoBluepad32.cpp` reads it once in every pass of `loop()`, keeps a copy of
each controller and calls the sketch back when one comes or goes.

The Bluetooth side is `Bridge`, moved by `BtEvent`: the functions of `uni_hid_device.c`
that a device goes through, with the platform callbacks they make. The sketch side is
`Bluepad32`. A seat is read in two accesses, its index without the mutex and its data
under it, and the Bluetooth side may run between the two; how the sides interleave is the
subject of `Loop`.

Each event of the Bluetooth side is one step. For the data of a seat this is what
`controller_mutex_` gives. Two callbacks write to a seat without it:
`arduino_on_device_disconnected` clears the seat with `memset` and sets its index to "none"
after that, so that for a moment the index reads as seat 0, and `arduino_on_device_ready` sets
the index before it copies the properties. A read of the other core that falls between two of
these writes is not in the model; what it would see is a seat that is still taken, or not yet
filled in.

Left out: the queue of rumble and LED commands, which no seat depends on, and virtual
devices, which the sketch turns off.
-/

namespace RcController

/-- The index of a device in `g_devices`. -/
abbrev DeviceIdx := Fin 4

/-- `uni_controller_class_t`. -/
inductive ControllerClass where
  | none
  | gamepad
  | mouse
  | keyboard
  | balanceBoard
  deriving DecidableEq

/-- `arduino_controller_data_t`: the class, and what the accessors of
`Controller` read. -/
structure ControllerData where
  klass : ControllerClass := .none
  reading : Snapshot := {}
  deriving DecidableEq

/-- `arduino_controller_properties_t`. -/
structure ControllerProperties where
  btaddr : BitVec 48 := 0
  type : UInt16 := 0
  subtype : UInt8 := 0
  vendorId : UInt16 := 0
  productId : UInt16 := 0
  flags : UInt16 := 0
  deriving DecidableEq

/-- What is known of a device: its address, and what the lookup of its type
found. The address is not zero, as `uni_hid_device_create` takes an entry of
`g_devices` with an address of zeros for a free one. -/
structure HidInfo where
  btaddr : BitVec 48
  controllerType : UInt16
  vendorId : UInt16
  productId : UInt16
  setPlayerLeds : Bool
  playDualRumble : Bool
  setLightbarColor : Bool

/-- `uni_bt_conn_state_t`, as far as the functions here tell the states
apart. -/
inductive ConnState where
  | connecting
  | pendingReady
  | ready
  deriving DecidableEq

/-- `uni_hid_device_t`, with the `arduino_instance_t` in its platform data. The
platform data is cleared with the device, and reads as seat 0 until
`arduino_on_device_connected` sets it. -/
structure HidDevice where
  info : Option HidInfo := none
  connected : Bool := false
  state : ConnState := .connecting
  controllerIdx : Option ControllerIdx := some 0

/-- `arduino_controller_t`. The seat is taken when its `idx` is valid. -/
structure Seat where
  taken : Bool := false
  data : ControllerData := {}
  dataUpdated : Bool := false
  properties : ControllerProperties := {}

/-- The globals of `uni_hid_device.c` and `arduino_platform.c`. -/
structure Bridge where
  devices : DeviceIdx → HidDevice := fun _ => {}
  controllers : ControllerIdx → Seat := fun _ => {}
  usedControllers : ℤ := 0

namespace Bridge

/-- The globals before anything has connected. -/
def initial : Bridge := {}

def setDevice (d : DeviceIdx) (dev : HidDevice) (s : Bridge) : Bridge :=
  { s with devices := Function.update s.devices d dev }

def setSeat (i : ControllerIdx) (seat : Seat) (s : Bridge) : Bridge :=
  { s with controllers := Function.update s.controllers i seat }

/-! ### Platform callbacks -/

def arduinoOnDeviceConnected (d : DeviceIdx) (s : Bridge) : Bridge :=
  s.setDevice d { s.devices d with controllerIdx := none }

def arduinoOnDeviceDisconnected (d : DeviceIdx) (s : Bridge) : Bridge :=
  match (s.devices d).controllerIdx with
  | none => s
  | some i =>
    let s := { s with usedControllers := s.usedControllers - 1 }
    (s.setSeat i {}).setDevice d { s.devices d with controllerIdx := none }

/-- The properties that `arduino_on_device_ready` copies; it takes the subtype
from the type. -/
def propertiesOf (info : HidInfo) : ControllerProperties where
  btaddr := info.btaddr
  type := info.controllerType
  subtype := info.controllerType.toUInt8
  vendorId := info.vendorId
  productId := info.productId
  flags := (if info.setPlayerLeds then 2 else 0) ||| (if info.playDualRumble then 1 else 0) |||
    (if info.setLightbarColor then 4 else 0)

/-- The first free seat. -/
def freeSeat (s : Bridge) : Option ControllerIdx :=
  (List.finRange 4).find? fun i => !(s.controllers i).taken

/-- `arduino_on_device_ready`, and whether it accepted the device. -/
def arduinoOnDeviceReady (d : DeviceIdx) (s : Bridge) : Bridge × Bool :=
  if s.usedControllers = 4 then (s, false)
  else if (s.devices d).controllerIdx ≠ none then (s, false)
  else match s.freeSeat with
    | some i =>
      let properties := ((s.devices d).info.map propertiesOf).getD {}
      let s := s.setSeat i { s.controllers i with taken := true, properties := properties }
      let s := s.setDevice d { s.devices d with controllerIdx := some i }
      ({ s with usedControllers := s.usedControllers + 1 }, true)
    -- the loop falls through and the device is accepted without a seat
    | none => (s, true)

def arduinoOnControllerData (d : DeviceIdx) (ctl : ControllerData) (s : Bridge) : Bridge :=
  match (s.devices d).controllerIdx with
  | none => s
  | some i => s.setSeat i { s.controllers i with data := ctl, dataUpdated := true }

/-! ### Devices -/

/-- `uni_hid_device_create`. -/
def create (info : HidInfo) (s : Bridge) : Bridge :=
  match (List.finRange 4).find? fun d => (s.devices d).info.isNone with
  | some d => s.setDevice d { info := some info }
  | none => s

/-- `uni_hid_device_connect`. -/
def connect (d : DeviceIdx) (s : Bridge) : Bridge :=
  arduinoOnDeviceConnected d (s.setDevice d { s.devices d with connected := true })

/-- `uni_hid_device_disconnect`. -/
def disconnect (d : DeviceIdx) (s : Bridge) : Bridge :=
  let connected := (s.devices d).connected
  let s := s.setDevice d { s.devices d with connected := false }
  if connected then arduinoOnDeviceDisconnected d s else s

/-- `uni_hid_device_delete`. -/
def delete (d : DeviceIdx) (s : Bridge) : Bridge := s.setDevice d {}

/-- `uni_hid_device_set_ready`, up to the setup of the parser. -/
def setReady (d : DeviceIdx) (s : Bridge) : Bridge :=
  if (s.devices d).state = .pendingReady then s
  else s.setDevice d { s.devices d with state := .pendingReady }

/-- `uni_hid_device_set_ready_complete`. -/
def setReadyComplete (d : DeviceIdx) (s : Bridge) : Bridge :=
  if (s.devices d).state = .ready then s
  else
    let (s, accepted) := s.arduinoOnDeviceReady d
    if accepted then s.setDevice d { s.devices d with state := .ready }
    else (s.disconnect d).delete d

/-- `uni_hid_device_process_controller`. -/
def processController (d : DeviceIdx) (ctl : ControllerData) (s : Bridge) : Bridge :=
  if (s.devices d).state = .ready then s.arduinoOnControllerData d ctl else s

end Bridge

/-- What happens on the Bluetooth core. A lost device is disconnected and
deleted. -/
inductive BtEvent where
  | create (info : HidInfo)
  | connect (d : DeviceIdx)
  | setReady (d : DeviceIdx)
  | setReadyComplete (d : DeviceIdx)
  | report (d : DeviceIdx) (ctl : ControllerData)
  | lost (d : DeviceIdx)

def Bridge.step (s : Bridge) : BtEvent → Bridge
  | .create info => s.create info
  | .connect d => s.connect d
  | .setReady d => s.setReady d
  | .setReadyComplete d => s.setReadyComplete d
  | .report d ctl => s.processController d ctl
  | .lost d => (s.disconnect d).delete d

/-! ### The sketch side -/

/-- A `Controller` object. -/
structure Controller where
  connected : Bool := false
  data : ControllerData := {}
  properties : ControllerProperties := {}
  hasData : Bool := false

/-- The object `BP32`. -/
structure Bluepad32 where
  prevConnectedControllers : ControllerIdx → Bool := fun _ => false
  controllers : ControllerIdx → Controller := fun _ => {}

/-- What `isMouse`, `isKeyboard` and `isBalanceBoard` make of the data a
controller holds. One that has not sent any yet counts as a gamepad. -/
def Controller.kind (c : Controller) : ControllerKind :=
  match c.data.klass with
  | .none | .gamepad => .gamepad
  | .mouse => .mouse
  | .keyboard => .keyboard
  | .balanceBoard => .balanceBoard

namespace Bluepad32

def setController (i : ControllerIdx) (c : Controller) (s : Bluepad32) : Bluepad32 :=
  { s with controllers := Function.update s.controllers i c }

/-- The locked half of `arduino_get_controller_data`, with what `update` does
with its result. A seat that was freed after its index was read gives no
data. -/
def fetch (i : ControllerIdx) (bridge : Bridge) (s : Bluepad32) : Bridge × Bluepad32 :=
  if (bridge.controllers i).dataUpdated then
    (bridge.setSeat i { bridge.controllers i with dataUpdated := false },
      s.setController i
        { s.controllers i with data := (bridge.controllers i).data, hasData := true })
  else (bridge, s.setController i { s.controllers i with hasData := false })

/-- `Controller::onConnected`. -/
def onConnected (i : ControllerIdx) (bridge : Bridge) (s : Bluepad32) : Bluepad32 :=
  let properties := if (bridge.controllers i).taken then (bridge.controllers i).properties
    else (s.controllers i).properties
  s.setController i { s.controllers i with connected := true, properties := properties }

/-- `Controller::onDisconnected`. -/
def onDisconnected (i : ControllerIdx) (s : Bluepad32) : Bluepad32 :=
  s.setController i { s.controllers i with connected := false }

end Bluepad32

end RcController
