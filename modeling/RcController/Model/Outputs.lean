import RcController.Lib.Pass
import RcController.Model.Signals
import Mathlib.Data.List.FinRange
import Mathlib.Data.Fintype.Fin

/-!
# Output hardware

The half of `rc_model.cpp` that owns the outputs: the channel table `g_outputs`, the
`Servo` object and the attached flag of every channel, and the pins. The functions
are translated one by one; each takes the bank of outputs and returns the next one.

Three pieces of state describe one servo channel and are kept apart, as in the source:
the record (`outputs i`), the servo object (`pwmOutputs i`, attached to a pin or not)
and the flag (`pwmAttached i`). What a servo or a pin was last driven with is part of
the state (`Servo.pulse`, `gpio`), so that it can be compared with the failsafe.

What the board decides is a parameter (`Board`): which pins can carry a servo, and
whether an attach finds a free channel. `Servo::attach` refuses a pin without PWM by
itself. `pinMode` leaves nothing behind that the firmware reads, and is not modelled.
-/

namespace RcController

/-- A target board: the pins with PWM, whether a servo finds a free channel, and
the `powf` of its C library. -/
structure Board where
  hasPwm : Pin → Bool
  attachOk : (servos : OutputIdx → Option Pin) → OutputIdx → Pin → Bool
  powf : ℚ → ℚ → ℚ

/-- Attaching a servo to a PWM-capable pin always succeeds. -/
def Board.Reliable (b : Board) : Prop :=
  ∀ servos i p, b.hasPwm p = true → b.attachOk servos i p = true

/-- A `Servo` object: the pin it is attached to, and the last pulse written
since then. -/
structure Servo where
  pin : Option Pin := none
  pulse : Option ℤ := none
  deriving DecidableEq

/-- The output side of `rc_model.cpp`. The level of a pin is the last one
written to it. -/
structure OutputBank where
  outputs : OutputIdx → OutputChannelConfig := fun _ => {}
  outputRuntime : OutputIdx → ℚ := fun _ => 0
  pwmOutputs : OutputIdx → Servo := fun _ => {}
  pwmAttached : OutputIdx → Bool := fun _ => false
  gpio : Pin → Option Bool := fun _ => none

namespace OutputBank

/-! ### Servos and pins -/

/-- `Servo::attached`. -/
def attached (s : OutputBank) (i : OutputIdx) : Bool := (s.pwmOutputs i).pin.isSome

/-- `Servo::attach`. -/
def attachServo (b : Board) (i : OutputIdx) (pin : Pin) (s : OutputBank) : OutputBank :=
  if b.hasPwm pin && b.attachOk (fun j => (s.pwmOutputs j).pin) i pin then
    { s with pwmOutputs := Function.update s.pwmOutputs i ⟨some pin, none⟩ }
  else s

/-- `Servo::detach`. -/
def detachServo (i : OutputIdx) (s : OutputBank) : OutputBank :=
  { s with pwmOutputs := Function.update s.pwmOutputs i ⟨none, none⟩ }

/-- `Servo::writeMicroseconds`, within the bounds given to `attach`. -/
def writeMicroseconds (i : OutputIdx) (us : ℤ) (s : OutputBank) : OutputBank :=
  if s.attached i then
    let servo : Servo := ⟨(s.pwmOutputs i).pin, some (constrain us kPwmMinUs kPwmMaxUs)⟩
    { s with pwmOutputs := Function.update s.pwmOutputs i servo }
  else s

/-- `Servo::setPeriodHertz`. An attached servo is detached and attached
again. -/
def setPeriodHertz (b : Board) (i : OutputIdx) (s : OutputBank) : OutputBank :=
  match (s.pwmOutputs i).pin with
  | some pin => attachServo b i pin (detachServo i s)
  | none => s

def digitalWrite (pin : Pin) (level : Bool) (s : OutputBank) : OutputBank :=
  { s with gpio := Function.update s.gpio pin (some level) }

def setAttached (i : OutputIdx) (flag : Bool) (s : OutputBank) : OutputBank :=
  { s with pwmAttached := Function.update s.pwmAttached i flag }

def setOutput (i : OutputIdx) (c : OutputChannelConfig) (s : OutputBank) : OutputBank :=
  { s with outputs := Function.update s.outputs i c }

def setRuntime (i : OutputIdx) (v : ℚ) (s : OutputBank) : OutputBank :=
  { s with outputRuntime := Function.update s.outputRuntime i v }

/-! ### Pin allocation -/

/-- `outputPinAlreadyUsed`. -/
def outputPinAlreadyUsed (pin : Pin) (ignoreIndex : OutputIdx) (s : OutputBank) : Bool :=
  decide (∃ i, i ≠ ignoreIndex ∧ (s.outputs i).used = true ∧ (s.outputs i).pin = pin)

/-- The pins of the loops `for (int pin = 0; pin <= 48; ++pin)`. -/
def scanPins : List Pin := (List.range 49).map UInt8.ofNat

/-- `firstAvailablePwmPin`. -/
def firstAvailablePwmPin (b : Board) (ignoreIndex : OutputIdx) (s : OutputBank) : Option Pin :=
  scanPins.find? fun pin => b.hasPwm pin && !outputPinAlreadyUsed pin ignoreIndex s

def firstFreeOutputIndex (s : OutputBank) : Option OutputIdx :=
  (List.finRange kMaxOutputChannels).find? fun i => !(s.outputs i).used

/-! ### Failsafe -/

/-- `writeFailsafeForOutput`. -/
def writeFailsafeForOutput (i : OutputIdx) (s : OutputBank) : OutputBank :=
  if !(s.outputs i).used then s
  else match (s.outputs i).type with
    | .pwm =>
      let us := pwmFailsafeUs (s.outputs i).pwmFailsafeMode
      let s := if s.pwmAttached i then writeMicroseconds i us s else s
      setRuntime i (if us ≤ kPwmMinUs then -1 else if kPwmMaxUs ≤ us then 1 else 0) s
    | .switch => setRuntime i 0 (digitalWrite (s.outputs i).pin false s)

def applyFailsafeAllOutputs (s : OutputBank) : OutputBank :=
  (List.finRange kMaxOutputChannels).foldl (fun s i => writeFailsafeForOutput i s) s

/-! ### Hardware lifecycle -/

def releaseOutputHardware (i : OutputIdx) (s : OutputBank) : OutputBank :=
  if s.pwmAttached i then setAttached i false (detachServo i s) else s

/-- The lambda `tryAttachOnPin` of `setupOutputHardware`. -/
def tryAttachOnPin (b : Board) (i : OutputIdx) (pin : Pin) (s : OutputBank) :
    OutputBank × Bool :=
  if !b.hasPwm pin then (s, false)
  else if outputPinAlreadyUsed pin i s then (s, false)
  else
    let s := if s.attached i then detachServo i s else s
    let s := attachServo b i pin s
    if !s.attached i then (s, false)
    else (setAttached i true (setOutput i { s.outputs i with pin := pin } s), true)

/-- The loop of `setupOutputHardware` over alternative pins. -/
def scanAttach (b : Board) (i : OutputIdx) (requestedPin : Pin) : List Pin → OutputBank → OutputBank
  | [], s => s
  | pin :: pins, s =>
    if pin = requestedPin then scanAttach b i requestedPin pins s
    else
      let (s', ok) := tryAttachOnPin b i pin s
      if ok then s' else scanAttach b i requestedPin pins s'

/-- `setupOutputHardware`. -/
def setupOutputHardware (b : Board) (i : OutputIdx) (s : OutputBank) :
    OutputBank × Except String Unit :=
  match (s.outputs i).type with
  | .pwm =>
    let s := setPeriodHertz b i s
    let requestedPin := (s.outputs i).pin
    let (s, ok) := tryAttachOnPin b i requestedPin s
    let s := if ok then s else scanAttach b i requestedPin scanPins s
    -- the source tests the flag only after a failed first try; a successful try sets it
    if !s.pwmAttached i then
      (s, .error ("PWM attach failed on GPIO " ++ toString requestedPin))
    else (writeFailsafeForOutput i s, .ok ())
  | .switch =>
    if outputPinAlreadyUsed (s.outputs i).pin i s then (s, .error "Pin already used")
    else (writeFailsafeForOutput i (digitalWrite (s.outputs i).pin false s), .ok ())

/-- The body of the first loop of `rebuildOutputHardware`. -/
def releaseIfUsed (i : OutputIdx) (s : OutputBank) : OutputBank :=
  if (s.outputs i).used then releaseOutputHardware i s else s

/-- The first loop of `rebuildOutputHardware`. -/
def releaseAll (s : OutputBank) : OutputBank :=
  (List.finRange kMaxOutputChannels).foldl (fun s i => releaseIfUsed i s) s

/-- The body of the second loop of `rebuildOutputHardware`. -/
def setupIfUsed (b : Board) (i : OutputIdx) (s : OutputBank) : OutputBank × Except String Unit :=
  if !(s.outputs i).used then (s, .ok ()) else setupOutputHardware b i s

/-- `rebuildOutputHardware`. -/
def rebuildOutputHardware (b : Board) (s : OutputBank) : OutputBank × Except String Unit :=
  Pass.run (setupIfUsed b) (List.finRange kMaxOutputChannels) s.releaseAll

/-! ### Driving the outputs -/

/-- One iteration of the loop of `processGamepadToOutputs`. -/
def driveOutput (runtime : InputIdx → ℚ) (i : OutputIdx) (s : OutputBank) : OutputBank :=
  let c := s.outputs i
  if !c.used then setRuntime i 0 s
  else
    let s := setRuntime i (evaluateOutputSignal runtime c) s
    match c.type with
    | .pwm => if s.pwmAttached i then writeMicroseconds i (pwmFromOutput runtime c) s else s
    | .switch => digitalWrite c.pin (switchFromOutput runtime c) s

/-- `processGamepadToOutputs` after `evaluateVirtualRuntime`. -/
def driveOutputs (runtime : InputIdx → ℚ) (s : OutputBank) : OutputBank :=
  (List.finRange kMaxOutputChannels).foldl (fun s i => driveOutput runtime i s) s

end OutputBank

end RcController
