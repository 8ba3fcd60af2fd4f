import RcController.Model.Bluepad

/-!
# The main loop

`loop()` with the Bluetooth side running beside it. The state is `Runtime`: the bridge,
the object `BP32`, the globals of the sketch, the storage, the clock, and where `loop()`
is (`LoopPc`). `loop()` advances by small steps (`cpu`), each with at most one access to
the bridge (`Controller::onConnected` checks the seat and copies its properties in one);
a run interleaves them with the events of the Bluetooth side and with time passing in
any order. An event of the Bluetooth side is one step as well, also where a callback writes to a
seat without the mutex (`Bluepad` says where): what holds of every run here holds of the runs
in which no access of `loop()` falls between two such writes.

One pass polls the four seats, compares what it found with the pass before and makes the
callbacks, then runs the scan scheduler, one request and the control tick.

Left out of `loop()`: the DNS server, the traces on the console, and the delay at the end,
which is time passing like any other.
-/

namespace RcController

open DeviceProg

/-- Where `loop()` is. `conn` are the seats that the pass has found taken. -/
inductive LoopPc where
  -- the seats still to be polled
  | poll (rest : List ControllerIdx) (conn : ControllerIdx → Bool)
  -- the index of seat `i` was valid, its data is read next
  | fetch (i : ControllerIdx) (rest : List ControllerIdx) (conn : ControllerIdx → Bool)
  -- the seats still to be compared with the pass before
  | notify (rest : List ControllerIdx) (conn : ControllerIdx → Bool)
  | scheduler
  | serve
  | tick

/-- The start of a pass. -/
def LoopPc.start : LoopPc := .poll (List.finRange 4) fun _ => false

/-- A request that `handleClient` finds, with the NVS faults it meets. -/
structure Incoming where
  request : Request
  plan : Prog.Plan nvsInterface
  restartPlan : Prog.Plan nvsInterface

/-- Both cores. -/
structure Runtime where
  bridge : Bridge
  bluepad : Bluepad32
  sketch : Sketch
  millis : UInt32
  nvs : NvsStore
  pc : LoopPc

/-- What happens next: a step of the Bluetooth side, time passing, or a step of
`loop()`. -/
inductive RuntimeEvent where
  | bt (e : BtEvent)
  | elapse (ms : UInt32)
  | cpu (incoming : Option Incoming)

namespace Runtime

/-- The device as the sketch sees it. -/
def system (s : Runtime) : System where
  sketch := s.sketch
  connected i := (s.bluepad.controllers i).connected
  millis := s.millis
  nvs := s.nvs

/-- The device after `setup()`, nothing connected yet. -/
def boot (b : Board) (nvs : NvsStore) (plan : Prog.Plan nvsInterface) (millis : UInt32) : Runtime :=
  let sys := System.boot b nvs plan millis
  { bridge := .initial, bluepad := {}, sketch := sys.sketch, millis := sys.millis, nvs := sys.nvs
    pc := .start }

/-- The packet a control tick finds: the data of the gamepad, when the last poll
brought any. -/
def packet (s : Runtime) : Option Snapshot :=
  match s.sketch.gamepad with
  | none => none
  | some g =>
    let c := s.bluepad.controllers g
    if c.hasData then some c.data.reading else none

/-- One seat of the comparison in `Bluepad32::update`. -/
def notifySeat (i : ControllerIdx) (conn : ControllerIdx → Bool) (s : Runtime) : Runtime :=
  if conn i = s.bluepad.prevConnectedControllers i then s
  else if conn i then
    let bluepad := s.bluepad.onConnected i s.bridge
    { s with
      bluepad := bluepad
      sketch := onConnectedController s.millis (fun j => (bluepad.controllers j).connected) i
        (bluepad.controllers i).kind s.sketch }
  else
    { s with
      sketch := onDisconnectedController i s.sketch
      bluepad := s.bluepad.onDisconnected i }

/-- The request of `handleClient`. One that restarts the device restarts both
cores. -/
def serveRequest (b : Board) (incoming : Option Incoming) (s : Runtime) : Runtime :=
  match incoming with
  | none => { s with pc := .tick }
  | some r =>
    let res := (handleRequest b s.millis r.request s.sketch).run nvsDevice r.plan s.nvs
    if r.request.endpoint = .apConfigApplyReboot ∧ res.1.2.ok = true then
      boot b res.2 r.restartPlan 0
    else { s with sketch := res.1.1, nvs := res.2, pc := .tick }

/-- One step of `loop()`. -/
def cpu (b : Board) (incoming : Option Incoming) (s : Runtime) : Runtime :=
  match s.pc with
  | .poll [] conn =>
    -- no seat has changed: no callbacks
    if conn = s.bluepad.prevConnectedControllers then { s with pc := .scheduler }
    else { s with pc := .notify (List.finRange 4) conn }
  | .poll (i :: rest) conn =>
    if (s.bridge.controllers i).taken then { s with pc := .fetch i rest conn }
    else { s with pc := .poll rest conn }
  | .fetch i rest conn =>
    let (bridge, bluepad) := s.bluepad.fetch i s.bridge
    { s with bridge := bridge, bluepad := bluepad, pc := .poll rest (Function.update conn i true) }
  | .notify (i :: rest) conn => { s.notifySeat i conn with pc := .notify rest conn }
  | .notify [] conn =>
    { s with bluepad := { s.bluepad with prevConnectedControllers := conn }, pc := .scheduler }
  | .scheduler =>
    { s with
      sketch := updateBtScanScheduler s.millis s.system.gamepadConnected s.sketch
      pc := .serve }
  | .serve => s.serveRequest b incoming
  | .tick =>
    { s with
      sketch := processControlTick b s.millis s.system.gamepadConnected s.packet s.sketch
      pc := .start }

def step (b : Board) (s : Runtime) : RuntimeEvent → Runtime
  | .bt e => { s with bridge := s.bridge.step e }
  | .elapse ms => { s with millis := s.millis + ms }
  | .cpu incoming => s.cpu b incoming

end Runtime

end RcController
