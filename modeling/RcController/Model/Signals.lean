import RcController.Model.Config
import Mathlib.Data.Rat.Floor

/-!
# From gamepad to signals

`control_inputs.cpp` and the evaluation half of `rc_model.cpp`: a controller
snapshot is normalised input by input, combined into the sixteen virtual inputs,
and mixed into one signal per output channel.

Arithmetic is exact: a C `float` is a rational here. The one operation that leaves
the rationals, `powf`, is a parameter. A controller pointer that is null or not
connected is `none`; every function below that tests one tests the other too.

The parallel arrays `g_virtualRuntime`, `g_togglePosition` and so on are kept as one
record for each slot (`InputMemory`). No iteration of the loop of `evaluateVirtualRuntime`
reads the memory of another slot, so the loop is a pointwise map. The rumble command
goes to the gamepad and is not part of the state; what the firmware remembers of it is
`lastRumbleMs`.
-/

namespace RcController

/-! ### The gamepad -/

/-- What the firmware reads from a connected controller. -/
structure Snapshot where
  axisX : ℤ := 0
  axisY : ℤ := 0
  axisRX : ℤ := 0
  axisRY : ℤ := 0
  throttle : ℤ := 0
  brake : ℤ := 0
  dpad : UInt8 := 0
  a : Bool := false
  b : Bool := false
  x : Bool := false
  y : Bool := false
  l1 : Bool := false
  r1 : Bool := false
  l2 : Bool := false
  r2 : Bool := false
  miscStart : Bool := false
  miscSelect : Bool := false
  deriving DecidableEq

/-- `InputDefinition`. -/
structure InputDefinition where
  id : InputId
  label : String
  kind : InputKind

def kInputs : List InputDefinition :=
  [⟨.axisX, "Axis X (left stick LR)", .centered⟩,
   ⟨.axisY, "Axis Y (left stick UD)", .centered⟩,
   ⟨.axisRX, "Axis RX (right stick LR)", .centered⟩,
   ⟨.axisRY, "Axis RY (right stick UD)", .centered⟩,
   ⟨.throttle, "RT trigger", .positive⟩,
   ⟨.brake, "LT trigger", .positive⟩,
   ⟨.buttonA, "Button A", .digital⟩,
   ⟨.buttonB, "Button B", .digital⟩,
   ⟨.buttonX, "Button X", .digital⟩,
   ⟨.buttonY, "Button Y", .digital⟩,
   ⟨.buttonL1, "Button LB", .digital⟩,
   ⟨.buttonR1, "Button RB", .digital⟩,
   ⟨.buttonL2, "Button L2", .digital⟩,
   ⟨.buttonR2, "Button R2", .digital⟩,
   ⟨.buttonStart, "Button Start", .digital⟩,
   ⟨.buttonSelect, "Button Select", .digital⟩,
   ⟨.dpadUp, "D-pad Up", .digital⟩,
   ⟨.dpadDown, "D-pad Down", .digital⟩,
   ⟨.dpadLeft, "D-pad Left", .digital⟩,
   ⟨.dpadRight, "D-pad Right", .digital⟩]

def getInputDefinition (id : InputId) : Option InputDefinition :=
  kInputs.find? fun d => d.id = id

/-- The centred axes: a reading over `kAxisMax`, clamped to `[-1, 1]`. -/
def axisValue (v : ℤ) : ℚ := constrain ((v : ℚ) / 512) (-1) 1

/-- The triggers: a reading over `kTriggerMax`, clamped to `[0, 1]`. -/
def triggerValue (v : ℤ) : ℚ := constrain ((v : ℚ) / 1023) 0 1

def digitalValue (pressed : Bool) : ℚ := if pressed then 1 else 0

def dpadValue (c : Snapshot) (bit : UInt8) : ℚ := digitalValue (c.dpad &&& bit ≠ 0)

/-- `normalizedForInput` on a controller that is there. -/
def normalizedForInput (id : InputId) (c : Snapshot) : ℚ :=
  if id = .axisX then axisValue c.axisX
  else if id = .axisY then axisValue c.axisY
  else if id = .axisRX then axisValue c.axisRX
  else if id = .axisRY then axisValue c.axisRY
  else if id = .throttle then triggerValue c.throttle
  else if id = .brake then triggerValue c.brake
  else if id = .buttonA then digitalValue c.a
  else if id = .buttonB then digitalValue c.b
  else if id = .buttonX then digitalValue c.x
  else if id = .buttonY then digitalValue c.y
  else if id = .buttonL1 then digitalValue c.l1
  else if id = .buttonR1 then digitalValue c.r1
  else if id = .buttonL2 then digitalValue c.l2
  else if id = .buttonR2 then digitalValue c.r2
  else if id = .buttonStart then digitalValue c.miscStart
  else if id = .buttonSelect then digitalValue c.miscSelect
  else if id = .dpadUp then dpadValue c 0x01
  else if id = .dpadDown then dpadValue c 0x02
  else if id = .dpadLeft then dpadValue c 0x08
  else if id = .dpadRight then dpadValue c 0x04
  else 0

def isInputActive (id : InputId) (c : Snapshot) : Bool :=
  if id = .none then false
  else match getInputDefinition id with
    | none => false
    | some d =>
      let n := normalizedForInput id c
      match d.kind with
      | .digital => decide (1 / 2 ≤ n)
      | .centered => decide (1 / 2 ≤ |n|)
      | .positive => decide (1 / 2 ≤ n)

/-! ### Virtual inputs -/

/-- What the firmware remembers of one virtual input between two ticks. -/
structure InputMemory where
  runtime : ℚ := 0
  togglePosition : ℤ := 0
  togglePrimaryPressedPrev : Bool := false
  toggleSecondaryPressedPrev : Bool := false
  toggleModifierPressedPrev : Bool := false
  toggle3Direction : ℤ := 0
  directPrimaryPressedPrev : Bool := false
  lastRumbleMs : UInt32 := 0
  deriving DecidableEq

/-- `playInputRumble`: at most one command every 80 ms for each input. -/
def playInputRumble (now : UInt32) (m : InputMemory) : InputMemory :=
  if now - m.lastRumbleMs < 80 then m else { m with lastRumbleMs := now }

def applyDeadzoneSigned (v : ℚ) (deadzonePercent : ℤ) : ℚ :=
  let dz : ℚ := (constrain deadzonePercent 0 95 : ℤ) / 100
  let a := |v|
  if a ≤ dz then 0
  else
    let scaled := (a - dz) / (1 - dz)
    if v < 0 then -scaled else scaled

def applyExpoSigned (powf : ℚ → ℚ → ℚ) (v : ℚ) (expoPercent : ℤ) : ℚ :=
  let e : ℚ := (constrain expoPercent 0 100 : ℤ) / 100
  if e ≤ 0 then constrain v (-1) 1
  else
    let power := 1 + e * 2
    let a := powf |v| power
    let out := if v < 0 then -a else a
    constrain out (-1) 1

def isInputEnabledByModifier (inp : VirtualInputConfig) (modifierPressed : Bool) : Bool :=
  if inp.modifier = .none then true
  else match inp.modifierFunction with
    | .activate => modifierPressed
    | .desactivate => !modifierPressed
    | _ => true

/-- The modifier is configured and held. -/
def modifierPressed (inp : VirtualInputConfig) (c : Snapshot) : Bool :=
  if inp.modifier ≠ .none then isInputActive inp.modifier c else false

/-- `evaluateVirtualInput`. -/
def evaluateVirtualInput (powf : ℚ → ℚ → ℚ) (inp : VirtualInputConfig) (c : Snapshot) : ℚ :=
  if !inp.used || inp.primary = .none then 0
  else
    let v := normalizedForInput inp.primary c
    let v := if inp.secondary ≠ .none then v - normalizedForInput inp.secondary c else v
    let v := constrain v (-1) 1
    let v := if inp.modifierFunction = .reverse && modifierPressed inp c then -v else v
    if !isInputEnabledByModifier inp (modifierPressed inp c) then 0
    else
      let v := applyDeadzoneSigned v inp.deadzonePercent
      let v := applyExpoSigned powf v inp.expoPercent
      constrain v (-1) 1

/-- The value of a toggle at a position. -/
def toggleValue (range : ToggleRangeMode) (positions : ℕ) (position : ℤ) : ℚ :=
  match range with
  | .bipolar =>
    if positions = 2 then (if position ≠ 0 then 1 else -1) else ((position - 1 : ℤ) : ℚ)
  | .unipolar =>
    if positions = 2 then (if position ≠ 0 then 1 else 0) else (position : ℚ) / 2

/-- `evaluateToggleVirtualInput` on a connected controller: the value, and the
memory with the edge detectors, the position and the direction moved. -/
def evaluateToggleVirtualInput (inp : VirtualInputConfig) (m : InputMemory) (c : Snapshot)
    (positions : ℕ) : ℚ × InputMemory :=
  let primaryPressed := isInputActive inp.primary c
  let primaryRise := primaryPressed && !m.togglePrimaryPressedPrev
  let secondaryPressed := if inp.secondary ≠ .none then isInputActive inp.secondary c else false
  let secondaryRise := secondaryPressed && !m.toggleSecondaryPressedPrev
  let modPressed := modifierPressed inp c
  let modifierRise := modPressed && !m.toggleModifierPressedPrev
  let m := { m with
    togglePrimaryPressedPrev := primaryPressed
    toggleSecondaryPressedPrev := secondaryPressed
    toggleModifierPressedPrev := modPressed }
  -- a gated toggle has seen the buttons but does not move
  if !isInputEnabledByModifier inp modPressed then (0, m)
  else
    let m :=
      if modifierRise && positions = 3 && inp.modifierFunction = .center then
        { m with togglePosition := 1, toggle3Direction := 1 }
      else if positions = 2 && primaryRise then
        { m with togglePosition := if m.togglePosition = 0 then 1 else 0 }
      else if positions = 3 && inp.secondary ≠ .none then
        -- dedicated buttons for the two ends
        if primaryRise && !secondaryRise then { m with togglePosition := 2 }
        else if secondaryRise && !primaryRise then { m with togglePosition := 0 }
        else m
      else if primaryRise then
        if positions = 2 then
          { m with togglePosition := if m.togglePosition = 0 then 1 else 0 }
        else
          -- one button: the position runs up and down between the ends
          let dir :=
            if m.togglePosition ≤ 0 then 1
            else if m.togglePosition ≥ 2 then -1
            else m.toggle3Direction
          { m with
            toggle3Direction := dir
            togglePosition := constrain (m.togglePosition + dir) 0 2 }
      else m
    (toggleValue inp.toggleRange positions m.togglePosition, m)

/-- One iteration of the loop of `evaluateVirtualRuntime`. -/
def evaluateVirtualSlot (powf : ℚ → ℚ → ℚ) (now : UInt32) (inp : VirtualInputConfig)
    (m : InputMemory) : Option Snapshot → InputMemory
  -- without a gamepad a toggle forgets what is held, not its position
  | none =>
    { m with
      togglePrimaryPressedPrev := false
      toggleSecondaryPressedPrev := false
      toggleModifierPressedPrev := false
      directPrimaryPressedPrev := false
      runtime := 0 }
  | some c =>
    let toggle (positions : ℕ) : InputMemory :=
      let (v, m') := evaluateToggleVirtualInput inp m c positions
      let m' := { m' with runtime := v }
      if inp.rumbleEnabled && m.togglePosition ≠ m'.togglePosition then playInputRumble now m'
      else m'
    match inp.inputType with
    | .toggle2Pos => toggle 2
    | .toggle3Pos => toggle 3
    | .direct =>
      let primaryPressed := isInputActive inp.primary c
      let primaryRise := primaryPressed && !m.directPrimaryPressedPrev
      -- the position of an earlier toggle in the slot stays
      let m' := { m with
        directPrimaryPressedPrev := primaryPressed
        togglePrimaryPressedPrev := false
        toggleSecondaryPressedPrev := false
        toggleModifierPressedPrev := false
        toggle3Direction := 1
        runtime := evaluateVirtualInput powf inp c }
      let digitalPrimary := match getInputDefinition inp.primary with
        | some d => decide (d.kind = .digital)
        | none => false
      if inp.rumbleEnabled && digitalPrimary && primaryRise then playInputRumble now m' else m'

/-- `evaluateVirtualRuntime`. -/
def evaluateVirtualRuntime (powf : ℚ → ℚ → ℚ) (now : UInt32)
    (virtualInputs : InputIdx → VirtualInputConfig) (memory : InputIdx → InputMemory)
    (ctl : Option Snapshot) : InputIdx → InputMemory :=
  fun i => evaluateVirtualSlot powf now (virtualInputs i) (memory i) ctl

/-! ### Output signals -/

def sourceValueByIndex (runtime : InputIdx → ℚ) (idx : Int8) : ℚ :=
  if h : 0 ≤ idx.toInt ∧ idx.toInt < kMaxVirtualInputs then
    runtime ⟨idx.toInt.toNat, by omega⟩
  else 0

/-- One term of the mixer: source times weight plus offset, both in percent. -/
def mixTerm (runtime : InputIdx → ℚ) (source weight offset : Int8) : ℚ :=
  sourceValueByIndex runtime source * ((weight.toInt : ℚ) / 100) + (offset.toInt : ℚ) / 100

/-- `evaluateOutputSignal`. -/
def evaluateOutputSignal (runtime : InputIdx → ℚ) (out : OutputChannelConfig) : ℚ :=
  if !out.used then 0
  else
    let tA := mixTerm runtime out.sourceA out.weightA out.offsetA
    let tB := mixTerm runtime out.sourceB out.weightB out.offsetB
    let tC := mixTerm runtime out.sourceC out.weightC out.offsetC
    let v := match out.mixMode with
      | .multiply =>
        let takesPart (source offset : Int8) : Bool := 0 ≤ source.toInt || offset ≠ 0
        let hasTerm := takesPart out.sourceA out.offsetA || takesPart out.sourceB out.offsetB ||
          takesPart out.sourceC out.offsetC
        let p := (if takesPart out.sourceA out.offsetA then tA else 1) *
          (if takesPart out.sourceB out.offsetB then tB else 1) *
          (if takesPart out.sourceC out.offsetC then tC else 1)
        if hasTerm then p else 0
      | .add => tA + tB + tC
    let v := constrain v (-1) 1
    if out.inverted then -v else v

/-- `lroundf`: to the nearest integer, halves away from zero. -/
def lround (q : ℚ) : ℤ := if 0 ≤ q then ⌊q + 1 / 2⌋ else ⌈q - 1 / 2⌉

/-! ### Pulses and levels -/

def kPwmMinUs : ℤ := 1000
def kPwmNeutralUs : ℤ := 1500
def kPwmMaxUs : ℤ := 2000

def clampPwmUs (us : ℤ) : ℤ := constrain us kPwmMinUs kPwmMaxUs

def applyPwmInvert (us : ℤ) (inverted : Bool) : ℤ :=
  if !inverted then us else clampPwmUs (kPwmMinUs + kPwmMaxUs - us)

/-- `pwmFromOutput`. -/
def pwmFromOutput (runtime : InputIdx → ℚ) (out : OutputChannelConfig) : ℤ :=
  let n := evaluateOutputSignal runtime out
  let us := lround (kPwmNeutralUs + n * ((kPwmMaxUs - kPwmNeutralUs : ℤ) : ℚ))
  applyPwmInvert (clampPwmUs us) false

/-- `pwmUsFromSignal` of `sketch.cpp`: the pulse the I/O trace prints for a
signal. -/
def pwmUsFromSignal (signal : ℚ) : ℤ := lround (1500 + constrain signal (-1) 1 * 500)

/-- `switchFromOutput`; `true` is `HIGH`. -/
def switchFromOutput (runtime : InputIdx → ℚ) (out : OutputChannelConfig) : Bool :=
  let n := evaluateOutputSignal runtime out
  let analog01 := constrain |n| 0 1
  let threshold : ℚ := (constrain out.thresholdPercent 0 100 : ℤ) / 100
  decide (threshold ≤ analog01)

def pwmFailsafeUs : PwmFailsafeMode → ℤ
  | .min => kPwmMinUs
  | .max => kPwmMaxUs
  | .center => kPwmNeutralUs

end RcController
