import RcController.Device.Ranges
import RcController.Wiring.Tweak

/-!
# Updates are partial, but for three fields

`virtual_update` and `output_update` read every field from its parameter, and where the parameter
is absent from a fallback. For all fields but three the fallback is what the record holds, and
the clamp that follows keeps it, because the tables never leave their ranges. The three are

* the name, whose fallback is the text `Input` or `Output`;
* the primary source of an input, where none falls back to the left stick;
* the pin of an output, which is clamped to 48 also when it was in a blob.

So an update keeps every field that it does not mention exactly when these are at their fallbacks,
or mentioned (`updates_partial_iff`).
-/

namespace RcController

open DeviceProg OutputBank Runs

/-! ### Absent parameters -/

section Absent

variable {args : Args} {p : Param}

/-- A number that is absent falls back, and so does a truth value. -/
theorem parseIntArg_of_none (h : args p = none) (fallback : ℤ) :
    args.parseIntArg p fallback = fallback := by
  unfold Args.parseIntArg Args.hasArg
  rw [h]
  rfl

theorem parseBoolArg_of_none (h : args p = none) (fallback : Bool) :
    args.parseBoolArg p fallback = fallback := by
  unfold Args.parseBoolArg Args.hasArg
  rw [h]
  rfl

/-- An integer clamped to a range it is in already. -/
theorem constrain_parseIntArg_of_none (h : args p = none) {v lo hi : ℤ} (hv : lo ≤ v ∧ v ≤ hi) :
    constrain (args.parseIntArg p v) lo hi = v := by
  rw [parseIntArg_of_none h, constrain_eq_self hv.1 hv.2]

/-- A byte survives the way through the integers. -/
theorem ofInt_toNat (v : UInt8) : UInt8.ofInt v.toNat = v := by
  have hmod : ((v.toNat : ℤ) % 2 ^ 8).toNat = v.toNat := by
    have hlt := v.toNat_lt
    omega
  unfold UInt8.ofInt
  rw [hmod, UInt8.ofNat_toNat]

/-- A byte that may be anything. -/
theorem byte_parseIntArg_of_none (h : args p = none) (v : UInt8) :
    UInt8.ofInt (args.parseIntArg p v.toNat) = v := by
  rw [parseIntArg_of_none h, ofInt_toNat]

/-- A source that is absent falls back to the one of the record, which is valid
and so passes the clamp. -/
theorem parseSource_of_none (h : args p = none) {v : Int8} (hv : sourceValid v = true) :
    args.parseSource p v = v := by
  have hrange : -1 ≤ v.toInt ∧ v.toInt ≤ (kMaxVirtualInputs : ℤ) - 1 := by
    unfold sourceValid at hv
    simp only [Bool.and_eq_true, decide_eq_true_eq] at hv
    exact ⟨hv.1, by omega⟩
  unfold Args.parseSource
  rw [constrain_parseIntArg_of_none h hrange, Int8.ofInt_toInt]

/-- So does a percentage. -/
theorem parsePercent_of_none (h : args p = none) {v : Int8}
    (hv : -100 ≤ v.toInt ∧ v.toInt ≤ 100) : args.parsePercent p v = v := by
  unfold Args.parsePercent
  rw [constrain_parseIntArg_of_none h hv, Int8.ofInt_toInt]

/-- **The pin** is kept when it is one of the pins a request can name. The
fallback is clamped to these too, so a pin from 49 on, which a blob can have,
does not survive. -/
theorem parsePin_of_none_iff (h : args .pin = none) (pin : Pin) :
    args.parsePin pin = pin ↔ pin.toNat ≤ 48 := by
  unfold Args.parsePin
  rw [parseIntArg_of_none h]
  constructor
  · intro hpin
    obtain ⟨hlo, hhi⟩ := constrain_mem (pin.toNat : ℤ) (show (0 : ℤ) ≤ 48 by norm_num)
    have hback := congrArg (fun x : UInt8 => (x.toNat : ℤ)) hpin
    rw [← constrain_eq_self hlo hhi] at hback
    have hsame := toNat_ofInt_constrain hlo hhi (by norm_num)
    omega
  · intro hle
    rw [constrain_eq_self (by omega) (by omega), ofInt_toNat]

/-- **The name** is kept when it is the text of the parser. An absent name is
not the name of the record but a text of its own, without the number that a
blank name gets. -/
theorem parseName_of_none_iff (h : args .name = none) {text : String} (i : ℕ) (buf : CharBuf)
    (hlen : (lit text).length ≤ 23) (htrim : (lit text).trim = lit text) (hne : lit text ≠ [])
    (hnul : ∀ c ∈ lit text, c ≠ 0) :
    cstr (args.parseName text i buf) = cstr buf ↔ cstr buf = lit text := by
  have hname : args.parseName text i buf = toCharArray (lit text) buf := by
    unfold Args.parseName Args.hasArg
    simp only [h, Option.isSome_none, Bool.false_eq_true, if_false, htrim, if_neg hne]
    rw [Str.substring, List.take_of_length_le hlen]
  rw [hname, cstr_toCharArray buf hlen hnul]
  exact eq_comm

end Absent

/-! ### Inputs -/

/-- The fields an update of an input must not touch: those whose parameter is
absent. Of the name the C string counts, not the bytes behind it. -/
structure InputKept (args : Args) (c c' : VirtualInputConfig) : Prop where
  used : c'.used = c.used
  primary : args .input = none → c'.primary = c.primary
  secondary : args .inputSecondary = none → c'.secondary = c.secondary
  inputType : args .inputType = none → c'.inputType = c.inputType
  toggleRange : args .rangeMode = none → c'.toggleRange = c.toggleRange
  rumbleEnabled : args .rumble = none → c'.rumbleEnabled = c.rumbleEnabled
  modifier : args .inputModifier = none → c'.modifier = c.modifier
  modifierFunction : args .modifierFunction = none → c'.modifierFunction = c.modifierFunction
  deadzonePercent : args .deadzone = none → c'.deadzonePercent = c.deadzonePercent
  expoPercent : args .expo = none → c'.expoPercent = c.expoPercent
  name : args .name = none → cstr c'.name = cstr c.name

/-- The two fields of an input with a fallback of their own are at it, or
mentioned. -/
def InputAtFallbacks (args : Args) (c : VirtualInputConfig) : Prop :=
  (args .input = none → c.primary ≠ InputId.none) ∧
    (args .name = none → cstr c.name = lit "Input")

/-- An absent primary input falls back to the one of the record, but none falls
back to the stick. -/
theorem primary_iff {args : Args} (h : args .input = none) (c : VirtualInputConfig)
    (i : InputIdx) :
    (args.parseVirtualFromRequest c i).primary = c.primary ↔ c.primary ≠ InputId.none := by
  change UInt8.ofInt (args.parseIntArg .input
    ((if c.primary ≠ InputId.none then c.primary else InputId.axisX).toNat : ℕ)) = _ ↔ _
  rw [byte_parseIntArg_of_none h]
  by_cases hnone : c.primary = InputId.none
  · rw [hnone]
    decide
  · rw [if_pos hnone]
    exact iff_of_true rfl hnone

/-- An absent name of an input becomes `Input`, and one of an output
`Output`. -/
theorem inputName_iff {args : Args} (h : args .name = none) (c : VirtualInputConfig)
    (i : InputIdx) :
    cstr (args.parseVirtualFromRequest c i).name = cstr c.name ↔ cstr c.name = lit "Input" :=
  parseName_of_none_iff h i.val c.name (by decide +kernel) (by decide +kernel) (by decide +kernel)
    (by decide +kernel)

/-- **What the parser keeps of an input.** All fields but two fall back to the
record. A record of the live tables is in its range, so that no clamp changes
it. -/
theorem inputKept_iff (args : Args) {c : VirtualInputConfig} (h : c.InRange) (i : InputIdx) :
    InputKept args c (args.parseVirtualFromRequest c i) ↔ InputAtFallbacks args c := by
  constructor
  · intro hkept
    -- the two fields with a fallback of their own are among those that are kept
    exact ⟨fun habsent => (primary_iff habsent c i).mp (hkept.primary habsent),
      fun habsent => (inputName_iff habsent c i).mp (hkept.name habsent)⟩
  rintro ⟨hprimary, hname⟩
  -- the rest falls back to the record, and an enumeration survives its byte
  refine
    { used := rfl
      primary := fun habsent => (primary_iff habsent c i).mpr (hprimary habsent)
      secondary := fun habsent => byte_parseIntArg_of_none habsent c.secondary
      inputType := fun habsent => ?_
      toggleRange := fun habsent => ?_
      rumbleEnabled := fun habsent => parseBoolArg_of_none habsent c.rumbleEnabled
      modifier := fun habsent => byte_parseIntArg_of_none habsent c.modifier
      modifierFunction := fun habsent => ?_
      deadzonePercent := fun habsent => constrain_parseIntArg_of_none habsent h.deadzone
      expoPercent := fun habsent => constrain_parseIntArg_of_none habsent h.expo
      name := fun habsent => (inputName_iff habsent c i).mpr (hname habsent) }
  · simp only [Args.parseVirtualFromRequest, parseIntArg_of_none habsent]
    cases c.inputType <;> decide
  · simp only [Args.parseVirtualFromRequest, parseIntArg_of_none habsent]
    cases c.toggleRange <;> decide
  · simp only [Args.parseVirtualFromRequest, parseIntArg_of_none habsent]
    cases c.modifierFunction <;> decide

/-! ### Outputs -/

/-- The fields an update of an output must not touch, in the same way. -/
structure OutputKept (args : Args) (c c' : OutputChannelConfig) : Prop where
  used : c'.used = c.used
  type : args .type = none → c'.type = c.type
  pin : args .pin = none → c'.pin = c.pin
  inverted : args .inverted = none → c'.inverted = c.inverted
  thresholdPercent : args .threshold = none → c'.thresholdPercent = c.thresholdPercent
  pwmFailsafeMode : args .pwmFailsafe = none → c'.pwmFailsafeMode = c.pwmFailsafeMode
  sourceA : args .sourceA = none → c'.sourceA = c.sourceA
  sourceB : args .sourceB = none → c'.sourceB = c.sourceB
  sourceC : args .sourceC = none → c'.sourceC = c.sourceC
  mixMode : args .mixMode = none → c'.mixMode = c.mixMode
  weightA : args .weightA = none → c'.weightA = c.weightA
  weightB : args .weightB = none → c'.weightB = c.weightB
  weightC : args .weightC = none → c'.weightC = c.weightC
  offsetA : args .offsetA = none → c'.offsetA = c.offsetA
  offsetB : args .offsetB = none → c'.offsetB = c.offsetB
  offsetC : args .offsetC = none → c'.offsetC = c.offsetC
  name : args .name = none → cstr c'.name = cstr c.name

/-- The two fields of an output with a fallback of their own are at it, or
mentioned. -/
def OutputAtFallbacks (args : Args) (c : OutputChannelConfig) : Prop :=
  (args .pin = none → c.pin.toNat ≤ 48) ∧ (args .name = none → cstr c.name = lit "Output")

theorem outputName_iff {args : Args} (h : args .name = none) (c : OutputChannelConfig)
    (i : OutputIdx) :
    cstr (args.parseOutputFromRequest c i).name = cstr c.name ↔ cstr c.name = lit "Output" :=
  parseName_of_none_iff h i.val c.name (by decide +kernel) (by decide +kernel) (by decide +kernel)
    (by decide +kernel)

/-- **What the parser keeps of an output.** -/
theorem outputKept_iff (args : Args) {c : OutputChannelConfig} (h : c.InRange) (i : OutputIdx) :
    OutputKept args c (args.parseOutputFromRequest c i) ↔ OutputAtFallbacks args c := by
  constructor
  · intro hkept
    exact ⟨fun habsent => (parsePin_of_none_iff habsent c.pin).mp (hkept.pin habsent),
      fun habsent => (outputName_iff habsent c i).mp (hkept.name habsent)⟩
  rintro ⟨hpin, hname⟩
  -- the clamps keep what is in range, and the tables never leave their ranges
  refine
    { used := rfl
      type := fun habsent => ?_
      pin := fun habsent => (parsePin_of_none_iff habsent c.pin).mpr (hpin habsent)
      inverted := fun habsent => parseBoolArg_of_none habsent c.inverted
      thresholdPercent := fun habsent => constrain_parseIntArg_of_none habsent h.threshold
      pwmFailsafeMode := fun habsent => ?_
      sourceA := fun habsent => parseSource_of_none habsent h.sourceA
      sourceB := fun habsent => parseSource_of_none habsent h.sourceB
      sourceC := fun habsent => parseSource_of_none habsent h.sourceC
      mixMode := fun habsent => ?_
      weightA := fun habsent => parsePercent_of_none habsent h.weightA
      weightB := fun habsent => parsePercent_of_none habsent h.weightB
      weightC := fun habsent => parsePercent_of_none habsent h.weightC
      offsetA := fun habsent => parsePercent_of_none habsent h.offsetA
      offsetB := fun habsent => parsePercent_of_none habsent h.offsetB
      offsetC := fun habsent => parsePercent_of_none habsent h.offsetC
      name := fun habsent => (outputName_iff habsent c i).mpr (hname habsent) }
  · simp only [Args.parseOutputFromRequest, parseIntArg_of_none habsent]
    cases c.type <;> decide
  · simp only [Args.parseOutputFromRequest, parseIntArg_of_none habsent]
    cases c.pwmFailsafeMode <;> decide
  · simp only [Args.parseOutputFromRequest, parseIntArg_of_none habsent]
    cases c.mixMode <;> decide

/-! ### Requests -/

/-- What an update of input `i` keeps: the rest of the table, the outputs, and
what the arguments do not mention. -/
structure InputUpdated (args : Args) (i : InputIdx) (rc rc' : RcModel) : Prop where
  kept : InputKept args (rc.virtualInputs i) (rc'.virtualInputs i)
  others : ∀ j, j ≠ i → rc'.virtualInputs j = rc.virtualInputs j
  outputs : rc'.bank.outputs = rc.bank.outputs

/-- What an update of output `i` keeps: its fields, the other outputs and the
inputs. -/
structure OutputUpdated (args : Args) (i : OutputIdx) (rc rc' : RcModel) : Prop where
  kept : OutputKept args (rc.bank.outputs i) (rc'.bank.outputs i)
  others : ∀ j, j ≠ i → rc'.bank.outputs j = rc.bank.outputs j
  inputs : rc'.virtualInputs = rc.virtualInputs

/-- The outputs as `output_update` hands them to the rebuild. -/
def updatedBank (args : Args) (i : OutputIdx) (bank : OutputBank) : OutputBank :=
  bank.setOutput i (updatedOutput args (bank.outputs i) i)

section Updates

variable {b : Board} {s : Sketch} {r : Request}

/-- `virtual_update` writes what the parser makes of the record, at once and
nothing else. -/
theorem virtualUpdate_eq (b : Board) (millis : UInt32) (hend : r.endpoint = .virtualUpdate)
    {i : InputIdx} (hindex : parseIndex r.args kMaxVirtualInputs = some i)
    (hused : (s.rc.virtualInputs i).used = true) :
    ∃ x, handleRequest b millis r s = .pure x ∧
      x.1.rc.virtualInputs = Function.update s.rc.virtualInputs i
        (r.args.parseVirtualFromRequest (s.rc.virtualInputs i) i) ∧
      x.1.rc.bank.outputs = s.rc.bank.outputs := by
  -- the handler marks the record as used, which it is
  have hrecord : { r.args.parseVirtualFromRequest (s.rc.virtualInputs i) i with used := true }
      = r.args.parseVirtualFromRequest (s.rc.virtualInputs i) i := by
    conv_rhs => unfold Args.parseVirtualFromRequest
    rw [hused]
    rfl
  refine ⟨handleApiVirtualUpdate r.args s, ?_, ?_⟩
  · unfold handleRequest
    rw [hend]
    rfl
  · unfold handleApiVirtualUpdate
    rw [hindex, ← hrecord]
    dsimp only
    rw [hused]
    exact ⟨rfl, rfl⟩

/-- **An update of an input** keeps what it should exactly when the parser
does. -/
theorem inputUpdated_iff (hok : TablesOk s.rc) {args : Args} {i : InputIdx} {rc : RcModel}
    (hused : (s.rc.virtualInputs i).used = true)
    (hinputs : rc.virtualInputs = Function.update s.rc.virtualInputs i
      (args.parseVirtualFromRequest (s.rc.virtualInputs i) i))
    (houtputs : rc.bank.outputs = s.rc.bank.outputs) :
    InputUpdated args i s.rc rc ↔ InputAtFallbacks args (s.rc.virtualInputs i) := by
  rw [← inputKept_iff args (hok.inputs.inRange i hused) i]
  constructor
  · intro h
    have hkept := h.kept
    rwa [hinputs, Function.update_self] at hkept
  · intro h
    -- only the record at `i` is written
    refine ⟨?_, fun j hj => ?_, houtputs⟩
    · rwa [hinputs, Function.update_self]
    · rw [hinputs, Function.update_of_ne hj]

/-- `output_update` that may rewire, and finds the pins free, writes what the
parser makes of the record: the rebuild changes nothing. -/
theorem outputUpdate_eq (millis : UInt32) (hend : r.endpoint = .outputUpdate)
    {i : OutputIdx} (hindex : parseIndex r.args kMaxOutputChannels = some i)
    (hused : (s.rc.bank.outputs i).used = true)
    (hrewire : r.args.parseBoolArg .allowRewire false = true)
    (hwired : WiringOk b (updatedBank r.args i s.rc.bank).outputs)
    (hattach : OwnPinsAttach b (updatedBank r.args i s.rc.bank)) :
    ∃ x, handleRequest b millis r s = .pure x ∧ x.1.rc.virtualInputs = s.rc.virtualInputs ∧
      x.1.rc.bank.outputs = Function.update s.rc.bank.outputs i
        (r.args.parseOutputFromRequest (s.rc.bank.outputs i) i) := by
  -- with `allow_rewire` the handler does not put the type and the pin back
  have hrecord : updatedOutput r.args (s.rc.bank.outputs i) i
      = r.args.parseOutputFromRequest (s.rc.bank.outputs i) i := by
    unfold updatedOutput
    dsimp only
    rw [hrewire]
    conv_rhs => unfold Args.parseOutputFromRequest
    rw [hused]
    rfl
  refine ⟨editOutput b i (updatedOutput r.args (s.rc.bank.outputs i) i) "Output updated" s, ?_, ?_⟩
  · unfold handleRequest
    rw [hend]
    dsimp only [handleApiOutputUpdate]
    rw [hindex]
    dsimp only
    rw [hused]
    rfl
  -- every channel settles on its own pin, so the rebuild leaves the records alone
  obtain ⟨hbuilt, hsame⟩ := rebuild_in_place hwired hattach
  rcases editOutput_cases b i (updatedOutput r.args (s.rc.bank.outputs i) i) "Output updated" s
    with ⟨-, -, hrc⟩ | ⟨msg, herr, -⟩
  · rw [hrc]
    refine ⟨rfl, hsame.trans ?_⟩
    rw [← hrecord]
    rfl
  -- the rebuild does not fail
  · change (rebuildOutputHardware b (updatedBank r.args i s.rc.bank)).2 = _ at herr
    rw [hbuilt] at herr
    cases herr

/-- **An update of an output** keeps what it should exactly when the parser
does. -/
theorem outputUpdated_iff (hok : TablesOk s.rc) {args : Args} {i : OutputIdx} {rc : RcModel}
    (hused : (s.rc.bank.outputs i).used = true)
    (hinputs : rc.virtualInputs = s.rc.virtualInputs)
    (houtputs : rc.bank.outputs = Function.update s.rc.bank.outputs i
      (args.parseOutputFromRequest (s.rc.bank.outputs i) i)) :
    OutputUpdated args i s.rc rc ↔ OutputAtFallbacks args (s.rc.bank.outputs i) := by
  rw [← outputKept_iff args (hok.outputs.inRange i hused) i]
  constructor
  · intro h
    have hkept := h.kept
    rwa [houtputs, Function.update_self] at hkept
  · intro h
    refine ⟨?_, fun j hj => ?_, hinputs⟩
    · rwa [houtputs, Function.update_self]
    · rw [houtputs, Function.update_of_ne hj]

end Updates

/-- The tables after a request that the handler answers at once. -/
theorem rc_step_of_pure {b : Board} {s : System} {r : Request}
    (hend : r.endpoint ≠ .apConfigApplyReboot) {x : Sketch × Reply}
    (hrun : handleRequest b s.millis r s.sketch = .pure x)
    (plan restartPlan : Prog.Plan nvsInterface) :
    (s.step b (.request r plan restartPlan)).sketch.rc = x.1.rc := by
  change (s.request b r plan restartPlan).sketch.rc = _
  rw [request_eq hend, hrun]
  rfl

/-- **When updates are partial.** Whatever a device went through, take an update
of an index in use. An update of an input leaves every field that it does not
mention as it was exactly when the name and the primary source are mentioned, or
are the text `Input` and not none. An update of an output that may rewire, and
whose servos can be attached without a conflict of pins, does so exactly when
the name and the pin are mentioned, or are the text `Output` and at most 48. -/
theorem updates_partial_iff (b : Board) (nvs : NvsStore) (bootPlan : Prog.Plan nvsInterface)
    (millis : UInt32) (es : List ConfigEvent) (r : Request)
    (plan restartPlan : Prog.Plan nvsInterface) :
    let s := run (System.configStep b) (System.boot b nvs bootPlan millis) es
    let s' := s.step b (.request r plan restartPlan)
    (∀ i : InputIdx, r.endpoint = .virtualUpdate →
      parseIndex r.args kMaxVirtualInputs = some i →
      (s.sketch.rc.virtualInputs i).used = true →
        (InputUpdated r.args i s.sketch.rc s'.sketch.rc ↔
          InputAtFallbacks r.args (s.sketch.rc.virtualInputs i))) ∧
    (∀ i : OutputIdx, r.endpoint = .outputUpdate →
      parseIndex r.args kMaxOutputChannels = some i →
      (s.sketch.rc.bank.outputs i).used = true →
      r.args.parseBoolArg .allowRewire false = true →
      WiringOk b (updatedBank r.args i s.sketch.rc.bank).outputs →
      OwnPinsAttach b (updatedBank r.args i s.sketch.rc.bank) →
        (OutputUpdated r.args i s.sketch.rc s'.sketch.rc ↔
          OutputAtFallbacks r.args (s.sketch.rc.bank.outputs i))) := by
  intro s s'
  -- any state that is reached has its tables within their ranges
  have hok : TablesOk s.sketch.rc := tablesOk_run b nvs bootPlan millis es
  constructor
  · intro i hend hindex hused
    -- the handler changes one record, in a way that is known
    obtain ⟨x, hrun, hinputs, houtputs⟩ :=
      virtualUpdate_eq b s.millis hend hindex hused
    have hreboot : r.endpoint ≠ .apConfigApplyReboot := by
      rw [hend]
      exact Endpoint.noConfusion
    rw [show s'.sketch.rc = _ from rc_step_of_pure hreboot hrun plan restartPlan]
    exact inputUpdated_iff hok hused hinputs houtputs
  · intro i hend hindex hused hrewire hwired hattach
    obtain ⟨x, hrun, hinputs, houtputs⟩ :=
      outputUpdate_eq s.millis hend hindex hused hrewire hwired hattach
    have hreboot : r.endpoint ≠ .apConfigApplyReboot := by
      rw [hend]
      exact Endpoint.noConfusion
    rw [show s'.sketch.rc = _ from rc_step_of_pure hreboot hrun plan restartPlan]
    exact outputUpdated_iff hok hused hinputs houtputs

/-- `virtual_update` of the first input that mentions the deadzone only. -/
def setDeadzone : Request where
  endpoint := .virtualUpdate
  args p := match p with
    | .index => some (lit "0")
    | .deadzone => some (lit "20")
    | _ => none

/-- `output_update` of the second output that turns its direction. -/
def invertOutput : Request where
  endpoint := .outputUpdate
  args p := match p with
    | .index => some (lit "1")
    | .inverted => some (lit "1")
    | .allowRewire => some (lit "1")
    | _ => none

/-- An update of the steering of the car, and one of its second servo. -/
theorem updates_partial_iff_car :
    let s := run (System.configStep smallBoard)
      (System.boot smallBoard {} (fun _ _ => false) 0) []
    let tuned := s.step smallBoard (.request setDeadzone (fun _ _ => false) fun _ _ => false)
    let inverted := s.step smallBoard (.request invertOutput (fun _ _ => false) fun _ _ => false)
    (InputUpdated setDeadzone.args 0 s.sketch.rc tuned.sketch.rc ↔
      InputAtFallbacks setDeadzone.args (s.sketch.rc.virtualInputs 0)) ∧
    (OutputUpdated invertOutput.args 1 s.sketch.rc inverted.sketch.rc ↔
      OutputAtFallbacks invertOutput.args (s.sketch.rc.bank.outputs 1)) := by
  have hwired : WiringOk smallBoard (updatedBank invertOutput.args 1
      (run (System.configStep smallBoard)
        (System.boot smallBoard {} (fun _ _ => false) 0) []).sketch.rc.bank).outputs :=
    ⟨by decide +kernel, by unfold OutputChannelConfig.UsedPwm; decide +kernel⟩
  exact ⟨(updates_partial_iff smallBoard {} (fun _ _ => false) 0 [] setDeadzone (fun _ _ => false)
      fun _ _ => false).1 0 rfl (by decide +kernel) (by decide +kernel),
    (updates_partial_iff smallBoard {} (fun _ _ => false) 0 [] invertOutput (fun _ _ => false)
      fun _ _ => false).2 1 rfl (by decide +kernel) (by decide +kernel) (by decide +kernel) hwired
      (ownPinsAttach_of_reliable smallBoard_reliable hwired)⟩

/-- After boot the first input of the car is the steering. -/
def carDevice : System := System.boot smallBoard {} (fun _ _ => false) 0

/-- A new deadzone takes the name of the steering away. -/
theorem deadzone_update_renames :
    let s' := carDevice.step smallBoard (.request setDeadzone (fun _ _ => false) fun _ _ => false)
    parseIndex setDeadzone.args kMaxVirtualInputs = some 0 ∧
      (carDevice.sketch.rc.virtualInputs 0).used = true ∧
      setDeadzone.args .name = none ∧
      cstr (carDevice.sketch.rc.virtualInputs 0).name = lit "Steering" ∧
      cstr (s'.sketch.rc.virtualInputs 0).name = lit "Input" ∧
      ¬ InputUpdated setDeadzone.args 0 carDevice.sketch.rc s'.sketch.rc := by
  intro s'
  have hbefore : cstr (carDevice.sketch.rc.virtualInputs 0).name = lit "Steering" := by
    decide +kernel
  have hafter : cstr (s'.sketch.rc.virtualInputs 0).name = lit "Input" := by decide +kernel
  refine ⟨by decide +kernel, by decide +kernel, rfl, hbefore, hafter, fun h => ?_⟩
  -- no name was sent, so the old one would have to be kept
  have hname := h.kept.name rfl
  rw [hbefore, hafter] at hname
  exact absurd hname (by decide +kernel)

end RcController
