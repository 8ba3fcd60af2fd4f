import RcController.Model.Codec

/-!
# Request arguments

The parsing half of the API handlers in `sketch.cpp`. `WebServer::arg` answers with
the first value of a parameter, so a request is a partial map from parameters to
strings (`Args`).

`parseVirtualFromRequest` and `parseOutputFromRequest` overwrite a draft record field
by field; a parameter that is absent, or blank, falls back to what the draft holds.
-/

namespace RcController

/-- The parameters the handlers read. -/
inductive Param where
  | index
  | name
  | input
  | inputSecondary
  | inputType
  | rangeMode
  | rumble
  | inputModifier
  | modifierFunction
  | deadzone
  | expo
  | type
  | pin
  | inverted
  | threshold
  | sourceA
  | sourceB
  | sourceC
  | mixMode
  | pwmFailsafe
  | weightA
  | weightB
  | weightC
  | offsetA
  | offsetB
  | offsetC
  | allowRewire
  | fromCurrent
  | base
  | ssid
  | password
  deriving DecidableEq

/-- The arguments of a request. -/
abbrev Args := Param → Option Str

namespace Args

def hasArg (args : Args) (p : Param) : Bool := (args p).isSome

def arg (args : Args) (p : Param) : Str := (args p).getD []

def parseIntArg (args : Args) (p : Param) (fallback : ℤ) : ℤ :=
  if !args.hasArg p then fallback
  else
    let v := (args.arg p).trim
    if v = [] then fallback else v.toInt

def parseBoolArg (args : Args) (p : Param) (fallback : Bool) : Bool :=
  if !args.hasArg p then fallback
  else
    let v := args.arg p
    v.equalsCStr "1" || v.equalsCStr "true" || v.equalsCStr "on"

/-- The name at the end of both parsers: the parameter, or a text made from the
slot. -/
def parseName (args : Args) (text : String) (existingIndex : ℕ) (buf : CharBuf) : CharBuf :=
  let name := (if args.hasArg .name then args.arg .name else lit text).trim
  let name := if name = [] then lit text ++ lit " " ++ Str.ofNat existingIndex else name
  toCharArray (name.substring 23) buf

/-- `parseVirtualFromRequest`. -/
def parseVirtualFromRequest (args : Args) (out : VirtualInputConfig) (existingIndex : InputIdx) :
    VirtualInputConfig where
  used := out.used
  primary :=
    -- a new input reads the left stick unless the request says otherwise
    let fallback := if out.primary ≠ .none then out.primary else .axisX
    UInt8.ofInt (args.parseIntArg .input fallback.toNat)
  secondary := UInt8.ofInt (args.parseIntArg .inputSecondary out.secondary.toNat)
  inputType :=
    let type := args.parseIntArg .inputType out.inputType.toByte.toNat
    if type = 1 then .toggle2Pos else if type = 2 then .toggle3Pos else .direct
  toggleRange :=
    if args.parseIntArg .rangeMode out.toggleRange.toByte.toNat = 1 then .bipolar else .unipolar
  rumbleEnabled := args.parseBoolArg .rumble out.rumbleEnabled
  modifier := UInt8.ofInt (args.parseIntArg .inputModifier out.modifier.toNat)
  modifierFunction :=
    let fn := args.parseIntArg .modifierFunction out.modifierFunction.toByte.toNat
    if fn = 1 then .reverse
    else if fn = 2 then .center
    else if fn = 3 then .activate
    else if fn = 4 then .desactivate
    else .none
  deadzonePercent := constrain (args.parseIntArg .deadzone out.deadzonePercent) 0 95
  expoPercent := constrain (args.parseIntArg .expo out.expoPercent) 0 100
  name := args.parseName "Input" existingIndex out.name

/-- A source index parsed from a request. -/
def parseSource (args : Args) (p : Param) (fallback : Int8) : Int8 :=
  Int8.ofInt (constrain (args.parseIntArg p fallback.toInt) (-1) (kMaxVirtualInputs - 1))

/-- A weight or an offset parsed from a request. -/
def parsePercent (args : Args) (p : Param) (fallback : Int8) : Int8 :=
  Int8.ofInt (constrain (args.parseIntArg p fallback.toInt) (-100) 100)

/-- The pin parsed from a request. -/
def parsePin (args : Args) (fallback : Pin) : Pin :=
  UInt8.ofInt (constrain (args.parseIntArg .pin fallback.toNat) 0 48)

/-- `parseOutputFromRequest`. -/
def parseOutputFromRequest (args : Args) (out : OutputChannelConfig) (existingIndex : OutputIdx) :
    OutputChannelConfig where
  used := out.used
  type :=
    if args.parseIntArg .type out.type.toByte.toNat = ChannelType.switch.toByte.toNat then .switch
    else .pwm
  pin := args.parsePin out.pin
  inverted := args.parseBoolArg .inverted out.inverted
  thresholdPercent := constrain (args.parseIntArg .threshold out.thresholdPercent) 0 100
  sourceA := args.parseSource .sourceA out.sourceA
  sourceB := args.parseSource .sourceB out.sourceB
  sourceC := args.parseSource .sourceC out.sourceC
  mixMode :=
    if args.parseIntArg .mixMode out.mixMode.toByte.toNat = 1 then .multiply else .add
  pwmFailsafeMode :=
    let mode := constrain (args.parseIntArg .pwmFailsafe out.pwmFailsafeMode.toByte.toNat) 0 2
    if mode = 0 then .min else if mode = 2 then .max else .center
  weightA := args.parsePercent .weightA out.weightA
  weightB := args.parsePercent .weightB out.weightB
  weightC := args.parsePercent .weightC out.weightC
  offsetA := args.parsePercent .offsetA out.offsetA
  offsetB := args.parsePercent .offsetB out.offsetB
  offsetC := args.parsePercent .offsetC out.offsetC
  name := args.parseName "Output" existingIndex out.name

end Args

end RcController
