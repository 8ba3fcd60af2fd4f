import RcController.Device.Ranges
import RcController.Signals.Toggle
import RcController.Wiring.Setup

/-!
# Fresh toggles

An input becomes a toggle in three ways: an applied preset decodes it, `virtual_add`
creates it, `virtual_update` changes its type. Only the first one sets the toggle up
(`initialMemory`). The two requests write the record and leave the memory of the slot, so
the new toggle starts where the slot was left, and starts right exactly when that is its
own start (`toggles_start_fresh_iff`).

Where a slot is left is a matter of its history. As long as it holds no toggle and no preset
is applied, its position does not move (`Idle`, `idle_run`): it is still the position of the
last toggle the slot held, and 0 when there was none since boot. The direction is set by the
first tick that reads a gamepad. So of the toggles put into a slot that was never used
(`idle_slot_atStart_iff`), those with two positions start right, a unipolar one with three
positions does once the slot has a direction, and a bipolar one with three positions never
does: its start is the middle, position 1.
-/

namespace RcController

open DeviceProg Runs

/-! ### Where a toggle starts -/

/-- The position an applied preset starts a toggle at. -/
def startPosition (inp : VirtualInputConfig) : ℤ :=
  if inp.inputType = .toggle3Pos ∧ inp.toggleRange = .bipolar then 1 else 0

/-- The value of a toggle before any press: the middle, or the low end when
there is none. -/
def startValue (inp : VirtualInputConfig) : ℚ :=
  if inp.inputType = .toggle2Pos ∧ inp.toggleRange = .bipolar then -1 else 0

theorem initialMemory_togglePosition (inp : VirtualInputConfig) (m : InputMemory) :
    (initialMemory inp m).togglePosition = startPosition inp := by
  unfold initialMemory startPosition
  cases inp.inputType <;> cases inp.toggleRange <;> rfl

/-- An applied preset leaves the direction of a 2-position toggle as it was. -/
theorem initialMemory_toggle3Direction (inp : VirtualInputConfig) (m : InputMemory) :
    (initialMemory inp m).toggle3Direction =
      if inp.inputType = .toggle2Pos then m.toggle3Direction else 1 := by
  unfold initialMemory
  cases inp.inputType <;> rfl

theorem toggleValue_startPosition {inp : VirtualInputConfig} (htoggle : inp.inputType ≠ .direct) :
    toggleValue inp.toggleRange (toggleSize inp.inputType) (startPosition inp)
      = startValue inp := by
  unfold startPosition startValue
  cases htype : inp.inputType with
  | direct => exact absurd htype htoggle
  | toggle2Pos => cases inp.toggleRange <;> rfl
  | toggle3Pos => cases inp.toggleRange <;> simp [toggleSize, toggleValue]

/-- No button of a toggle is pressed in a list of snapshots; `h` is what was
down before it. -/
def Quiet (inp : VirtualInputConfig) : Held → List Snapshot → Prop
  | _, [] => True
  | h, c :: cs =>
    (primaryPress inp h c = false ∧ secondaryPress inp h c = false ∧
      centerPress inp h c = false) ∧ Quiet inp (held inp c) cs

/-- Without a press a toggle stays where it is. -/
theorem Toggle.position_of_quiet {inp : VirtualInputConfig} {positions : ℕ} {t : Toggle}
    {cs : List Snapshot} (h : Quiet inp t.held cs) :
    (t.after inp positions cs).position = t.position := by
  induction cs generalizing t with
  | nil => rfl
  | cons c cs ih =>
    obtain ⟨⟨hprimary, hsecondary, hcenter⟩, hrest⟩ := h
    have hmoved : t.moved inp positions c = t := by
      rw [Toggle.moved, hprimary, hsecondary, hcenter, Toggle.press_none]
    rw [Toggle.after_cons, ih hrest, Toggle.position_tick, hmoved]

/-- The toggle in slot `i` starts as an applied preset would start it. -/
structure StartsFresh (powf : ℚ → ℚ → ℚ) (rc : RcModel) (i : InputIdx) : Prop where
  position : (rc.memory i).togglePosition =
    (initialMemory (rc.virtualInputs i) (rc.memory i)).togglePosition
  direction : (rc.memory i).toggle3Direction =
    (initialMemory (rc.virtualInputs i) (rc.memory i)).toggle3Direction
  -- so every tick before the first press that is not gated shows the start value
  value : ∀ ticks now c,
    Quiet (rc.virtualInputs i) (toggleOf (rc.memory i)).held (ticks.map Prod.snd ++ [c]) →
    enabledAt (rc.virtualInputs i) c = true →
    (afterSnapshots powf rc.virtualInputs rc.memory (ticks ++ [(now, c)]) i).runtime =
      startValue (rc.virtualInputs i)

/-- The memory of a slot is where a toggle with the given record starts. -/
def AtStart (inp : VirtualInputConfig) (m : InputMemory) : Prop :=
  m.togglePosition = startPosition inp ∧ (inp.inputType = .toggle3Pos → m.toggle3Direction = 1)

theorem startsFresh_iff {powf : ℚ → ℚ → ℚ} {rc : RcModel} {i : InputIdx}
    (htoggle : (rc.virtualInputs i).inputType ≠ .direct) :
    StartsFresh powf rc i ↔ AtStart (rc.virtualInputs i) (rc.memory i) := by
  constructor
  · intro h
    have hdirection := h.direction
    rw [initialMemory_toggle3Direction] at hdirection
    refine ⟨h.position.trans (initialMemory_togglePosition _ _), fun htype => ?_⟩
    rw [hdirection, htype, if_neg (by decide)]
  · rintro ⟨hposition, hdirection⟩
    constructor
    case position => exact hposition.trans (initialMemory_togglePosition _ _).symm
    case direction =>
      rw [initialMemory_toggle3Direction]
      cases htype : (rc.virtualInputs i).inputType with
      | direct => exact absurd htype htoggle
      | toggle2Pos => rfl
      | toggle3Pos => exact hdirection htype
    case value =>
      intro ticks now c hquiet henabled
      have hmachine := @toggleOf_afterSnapshots powf _ _ htoggle rc.memory (ticks ++ [(now, c)])
      rw [List.map_append] at hmachine
      have hstays := @Toggle.position_of_quiet _ (toggleSize (rc.virtualInputs i).inputType) _ _
        hquiet
      rw [Toggle.after_concat] at hstays
      -- the value of the last tick is the value of its position
      have hvalue := congrArg Toggle.value hmachine
      rw [List.map_singleton, Toggle.after_concat, Toggle.value_tick, if_pos henabled, hstays]
        at hvalue
      rw [← toggleValue_startPosition htoggle, ← hposition]
      exact hvalue

/-! ### Requests that make a toggle -/

/-- The slot and the record of a request that gives a slot an input of a new
type: an input added, or one whose type an update changes. -/
def Request.newInput (r : Request) (s : Sketch) : Option (InputIdx × VirtualInputConfig) :=
  match r.endpoint with
  | .virtualAdd =>
    (firstFreeVirtualIndex s.rc.virtualInputs).map fun i =>
      (i, r.args.parseVirtualFromRequest { used := true } i)
  | .virtualUpdate =>
    match parseIndex r.args kMaxVirtualInputs with
    | some i =>
      let record := { r.args.parseVirtualFromRequest (s.rc.virtualInputs i) i with used := true }
      if (s.rc.virtualInputs i).used ∧ record.inputType ≠ (s.rc.virtualInputs i).inputType then
        some (i, record)
      else none
    | none => none
  | _ => none

/-- The handlers write the record and nothing else of the model. -/
theorem handleRequest_newInput {b : Board} {millis : UInt32} {r : Request} {s : Sketch}
    {i : InputIdx} {record : VirtualInputConfig} (h : r.newInput s = some (i, record)) :
    ∃ msg, handleRequest b millis r s = .pure
      ({ s with
          rc := { s.rc with virtualInputs := Function.update s.rc.virtualInputs i record }
          modelDirty := true }, .json true msg) := by
  unfold Request.newInput at h
  unfold handleRequest
  cases hend : r.endpoint <;> rw [hend] at h
  -- an add takes the first free slot, an update the slot it names
  case virtualAdd =>
    obtain ⟨j, hfree, heq⟩ := Option.map_eq_some_iff.mp h
    obtain ⟨rfl, rfl⟩ := Prod.mk.inj heq
    refine ⟨"Input added", ?_⟩
    show Prog.pure (handleApiVirtualAdd r.args s) = _
    unfold handleApiVirtualAdd
    rw [hfree]
    rfl
  case virtualUpdate =>
    cases hindex : parseIndex r.args kMaxVirtualInputs with
    | none =>
      rw [hindex] at h
      cases h
    | some j =>
      rw [hindex] at h
      dsimp only at h
      split_ifs at h with hnew
      obtain ⟨rfl, rfl⟩ := Prod.mk.inj (Option.some.inj h)
      refine ⟨"Input updated", ?_⟩
      show Prog.pure (handleApiVirtualUpdate r.args s) = _
      unfold handleApiVirtualUpdate
      rw [hindex]
      dsimp only
      rw [if_neg (by simp [hnew.1])]
      rfl
  -- no other endpoint makes an input
  all_goals cases h

theorem request_newInput {b : Board} {s : System} {r : Request} {i : InputIdx}
    {record : VirtualInputConfig} (h : r.newInput s.sketch = some (i, record))
    (plan restartPlan : Prog.Plan nvsInterface) :
    (s.request b r plan restartPlan).sketch.rc =
      { s.sketch.rc with
        virtualInputs := Function.update s.sketch.rc.virtualInputs i record } := by
  have hend : r.endpoint ≠ .apConfigApplyReboot := by
    intro hend
    unfold Request.newInput at h
    rw [hend] at h
    cases h
  obtain ⟨msg, hrun⟩ := @handleRequest_newInput b s.millis r s.sketch i record h
  rw [request_eq hend, hrun]
  rfl

/-- After a request that makes a toggle, the toggle starts as an applied preset
would start it. -/
def TogglesStartFresh (b : Board) (s : System) : Event → Prop
  | .request r plan restartPlan =>
    ∀ i record, r.newInput s.sketch = some (i, record) → record.inputType ≠ .direct →
      StartsFresh b.powf (s.request b r plan restartPlan).sketch.rc i
  | _ => True

/-- A request that makes a toggle finds the slot where the toggle starts. -/
def FindsSlotAtStart (s : System) : Event → Prop
  | .request r _ _ =>
    ∀ i record, r.newInput s.sketch = some (i, record) → record.inputType ≠ .direct →
      AtStart record (s.sketch.rc.memory i)
  | _ => True

theorem togglesStartFresh_iff (b : Board) (s : System) (e : Event) :
    TogglesStartFresh b s e ↔ FindsSlotAtStart s e := by
  cases e with
  | request r plan restartPlan =>
    have hslot : ∀ i record, r.newInput s.sketch = some (i, record) →
        record.inputType ≠ .direct →
        (StartsFresh b.powf (s.request b r plan restartPlan).sketch.rc i ↔
          AtStart record (s.sketch.rc.memory i)) := by
      intro i record hnew htoggle
      -- the request writes the record and leaves the memory of the slot as it was
      have hrecord : (s.request b r plan restartPlan).sketch.rc.virtualInputs i = record := by
        rw [request_newInput hnew]
        exact Function.update_self ..
      have hmemory : (s.request b r plan restartPlan).sketch.rc.memory = s.sketch.rc.memory := by
        rw [request_newInput hnew]
      rw [startsFresh_iff (by rw [hrecord]; exact htoggle), hrecord, hmemory]
    constructor
    · intro h i record hnew htoggle
      exact (hslot i record hnew htoggle).mp (h i record hnew htoggle)
    · intro h i record hnew htoggle
      exact (hslot i record hnew htoggle).mpr (h i record hnew htoggle)
  | tick _ => exact Iff.rfl
  | schedulerTick => exact Iff.rfl
  | connect _ _ => exact Iff.rfl
  | disconnect _ => exact Iff.rfl
  | elapse _ => exact Iff.rfl

/-- **Fresh toggles.** Along a run from boot every new toggle starts as an
applied preset would start it, exactly when every request that makes one finds
the slot at that start. -/
theorem toggles_start_fresh_iff (b : Board) (nvs : NvsStore) (plan : Prog.Plan nvsInterface)
    (millis : UInt32) (es : List Event) :
    StepsMeet (System.step b) (TogglesStartFresh b) (System.boot b nvs plan millis) es ↔
      StepsMeet (System.step b) FindsSlotAtStart (System.boot b nvs plan millis) es :=
  stepsMeet_congr (togglesStartFresh_iff b) _ _

/-- `virtual_add` of a bipolar toggle with three positions, on button A. -/
def addToggle : Request where
  endpoint := .virtualAdd
  args p :=
    if p = .input then some (lit "7")
    else if p = .inputType then some (lit "2")
    else if p = .rangeMode then some (lit "1")
    else none

/-- Added to the car after boot, with no button down, the toggle stands at its
low end. -/
theorem added_toggle_deflects :
    let booted := System.boot smallBoard {} (fun _ _ => false) 0
    let added := booted.step smallBoard (.request addToggle (fun _ _ => false) fun _ _ => false)
    let ticked := (added.step smallBoard (.connect 0 .gamepad)).step smallBoard (.tick (some {}))
    ¬ TogglesStartFresh smallBoard booted
        (.request addToggle (fun _ _ => false) fun _ _ => false) ∧
      (added.sketch.rc.virtualInputs 3).inputType = .toggle3Pos ∧
      (added.sketch.rc.memory 3).togglePosition = 0 ∧
      (initialMemory (added.sketch.rc.virtualInputs 3) (added.sketch.rc.memory 3)).togglePosition
        = 1 ∧
      (ticked.sketch.rc.memory 3).runtime = -1 := by
  refine ⟨?_, by decide +kernel, by decide +kernel, by decide +kernel, by decide +kernel⟩
  rw [togglesStartFresh_iff]
  intro h
  -- slot 3 is the first free one of the car, and its position is still the 0 of the boot
  have hnew : ∃ record, addToggle.newInput
      (System.boot smallBoard {} (fun _ _ => false) 0).sketch = some (3, record) ∧
      record.inputType ≠ .direct ∧ startPosition record = 1 := by
    refine ⟨addToggle.args.parseVirtualFromRequest { used := true } 3, ?_, ?_, ?_⟩ <;>
      decide +kernel
  obtain ⟨record, hrecord, htoggle, hstart⟩ := hnew
  have hposition := (h 3 record hrecord htoggle).1
  rw [hstart] at hposition
  exact absurd hposition (by decide +kernel)

/-! ### Where a slot is left -/

/-- Nothing moves the toggle of slot `i` in this step: the slot holds none, and
a request, if the step is one, is about inputs, outputs or pairing. The other
requests may apply a preset, which decodes the memory of the slot anew, or
restart the device. -/
def Idle (i : InputIdx) (s : System) (e : Event) : Prop :=
  (s.sketch.rc.virtualInputs i).inputType = .direct ∧
    ∀ r plan restartPlan, e = .request r plan restartPlan → r.endpoint.Immediate

/-- The handlers that do not look at the storage leave the memory of every slot
as it is: they write records, and only the control tick and the decoder write
the memory. -/
theorem memory_handleRequest (b : Board) (millis : UInt32) {r : Request}
    (himmediate : r.endpoint.Immediate) (s : Sketch) :
    (handleRequest b millis r s).Always fun x => x.1.rc.memory = s.rc.memory := by
  rcases Endpoint.immediate_iff.mp himmediate with hinput | houtput | hon | hoff
  · obtain ⟨s', reply, hrun, hedit⟩ := handleRequest_input b millis hinput s
    rw [hrun]
    cases hedit with
    | refused => exact rfl
    | written _ _ => exact rfl
    | deleted _ => exact rfl
  · rcases handleRequest_edit b millis houtput s with ⟨msg, -, hrun⟩ | ⟨e, record, msg, -, hrun⟩
    · rw [hrun]
      exact rfl
    · rw [hrun]
      exact memory_editOutput b e record msg s
  -- pairing is not about the tables
  · unfold handleRequest
    rw [hon]
    exact rfl
  · unfold handleRequest
    rw [hoff]
    exact rfl

theorem memory_request {b : Board} {s : System} {r : Request}
    (himmediate : r.endpoint.Immediate) (plan restartPlan : Prog.Plan nvsInterface) :
    (s.request b r plan restartPlan).sketch.rc.memory = s.sketch.rc.memory := by
  have hend : r.endpoint ≠ .apConfigApplyReboot := by
    intro hend
    rw [hend] at himmediate
    exact himmediate
  rw [request_eq hend]
  exact (memory_handleRequest b s.millis himmediate s.sketch).run nvsDevice plan s.nvs

/-- The control tick on a slot without a toggle. The position of an earlier
toggle is kept, with a gamepad and without one; the direction is set to 1 when a
gamepad is read. -/
theorem evaluateVirtualSlot_direct {inp : VirtualInputConfig} (hdirect : inp.inputType = .direct)
    (powf : ℚ → ℚ → ℚ) (now : UInt32) (m : InputMemory) (ctl : Option Snapshot) :
    (evaluateVirtualSlot powf now inp m ctl).togglePosition = m.togglePosition ∧
      (evaluateVirtualSlot powf now inp m ctl).toggle3Direction =
        if ctl.isSome then 1 else m.toggle3Direction := by
  -- a press of the input may rumble, which is neither
  have hset : ∀ (p : Prop) [Decidable p] (m' : InputMemory),
      m'.togglePosition = m.togglePosition → m'.toggle3Direction = 1 →
      (if p then playInputRumble now m' else m').togglePosition = m.togglePosition ∧
        (if p then playInputRumble now m' else m').toggle3Direction = 1 := by
    intro p _ m' hposition hdirection
    unfold playInputRumble
    split
    · split <;> exact ⟨hposition, hdirection⟩
    · exact ⟨hposition, hdirection⟩
  cases ctl with
  | none => exact ⟨rfl, rfl⟩
  | some c =>
    unfold evaluateVirtualSlot
    rw [hdirect]
    exact hset _ _ rfl rfl

/-- **One idle step** keeps the position of the slot. The direction stays too,
or is set to 1. -/
theorem idle_step (b : Board) {i : InputIdx} {s : System} {e : Event} (h : Idle i s e) :
    ((s.step b e).sketch.rc.memory i).togglePosition = (s.sketch.rc.memory i).togglePosition ∧
      (((s.step b e).sketch.rc.memory i).toggle3Direction =
          (s.sketch.rc.memory i).toggle3Direction ∨
        ((s.step b e).sketch.rc.memory i).toggle3Direction = 1) := by
  by_cases hrequest : ∃ r plan restartPlan, e = .request r plan restartPlan
  · obtain ⟨r, plan, restartPlan, rfl⟩ := hrequest
    have hmemory : (s.step b (.request r plan restartPlan)).sketch.rc.memory =
        s.sketch.rc.memory := memory_request (h.2 r plan restartPlan rfl) plan restartPlan
    rw [hmemory]
    exact ⟨rfl, .inl rfl⟩
  · push Not at hrequest
    rcases (evaluated_step b s hrequest).memory with hsame | ⟨now, ctl, hevaluated⟩
    · rw [hsame]
      exact ⟨rfl, .inl rfl⟩
    · obtain ⟨hposition, hdirection⟩ :=
        evaluateVirtualSlot_direct h.1 b.powf now (s.sketch.rc.memory i) ctl
      rw [hevaluated]
      refine ⟨hposition, ?_⟩
      -- only a tick that reads a gamepad sets the direction
      cases ctl with
      | none => exact .inl hdirection
      | some c => exact .inr hdirection

/-- **A slot without a toggle keeps the position its last toggle was left at**,
over any run, and a direction once it has one. -/
theorem idle_run (b : Board) {i : InputIdx} {s : System} {es : List Event}
    (h : StepsMeet (System.step b) (Idle i) s es) :
    ((run (System.step b) s es).sketch.rc.memory i).togglePosition =
        (s.sketch.rc.memory i).togglePosition ∧
      ((s.sketch.rc.memory i).toggle3Direction = 1 →
        ((run (System.step b) s es).sketch.rc.memory i).toggle3Direction = 1) := by
  refine run_invariant (C := Idle i)
    (I := fun t : System =>
      (t.sketch.rc.memory i).togglePosition = (s.sketch.rc.memory i).togglePosition ∧
        ((s.sketch.rc.memory i).toggle3Direction = 1 →
          (t.sketch.rc.memory i).toggle3Direction = 1))
    (fun t e ht hidle => ?_) ⟨rfl, id⟩ h
  obtain ⟨hposition, hdirection⟩ := idle_step b hidle
  refine ⟨hposition.trans ht.1, fun hone => ?_⟩
  rcases hdirection with hkept | hset
  · rw [hkept]
    exact ht.2 hone
  · exact hset

/-- A boot preset without a toggle in a slot leaves the slot at position 0: it
sets the slot up as a direct input, or leaves it as it was initialised. It does
so even when it cannot be laid out. -/
theorem togglePosition_boot (b : Board) (nvs : NvsStore) (plan : Prog.Plan nvsInterface)
    (millis : UInt32) {i : InputIdx}
    (hdirect : (decodeVirtualInputs (startup.run nvsDevice plan nvs).1.config i).inputType
      = .direct) :
    ((System.boot b nvs plan millis).sketch.rc.memory i).togglePosition = 0 := by
  have hmemory : (System.boot b nvs plan millis).sketch.rc.memory =
      decodeMemory (startup.run nvsDevice plan nvs).1.config ({} : RcModel).memory := by
    rw [sketch_boot]
    change (applyTables b (startup.run nvsDevice plan nvs).1.config {}).1.memory = _
    rw [memory_applyTables, if_pos (startup_always.run nvsDevice plan nvs)]
  rw [hmemory]
  unfold decodeVirtualInputs at hdirect
  unfold decodeMemory
  -- a slot that the blob uses is set up by the decoder, any other one by the initialiser
  split
  · next hused =>
    rw [if_pos hused] at hdirect
    rw [initialMemory_togglePosition, startPosition, hdirect]
    rfl
  · exact rfl

/-- **Which toggles start right in a slot that held none.** The slot is where
the boot left it, so a toggle put there is at its start when it starts at
position 0 and, if it has three positions, the slot has been given a
direction. -/
theorem idle_slot_atStart_iff (b : Board) (nvs : NvsStore) (plan : Prog.Plan nvsInterface)
    (millis : UInt32) {i : InputIdx} {es : List Event}
    (hdirect : (decodeVirtualInputs (startup.run nvsDevice plan nvs).1.config i).inputType
      = .direct)
    (hidle : StepsMeet (System.step b) (Idle i) (System.boot b nvs plan millis) es)
    (record : VirtualInputConfig) :
    let memory := (run (System.step b) (System.boot b nvs plan millis) es).sketch.rc.memory
    AtStart record (memory i) ↔ startPosition record = 0 ∧
      (record.inputType = .toggle3Pos → (memory i).toggle3Direction = 1) := by
  intro memory
  have hposition : (memory i).togglePosition = 0 :=
    (idle_run b hidle).1.trans (togglePosition_boot b nvs plan millis hdirect)
  rw [AtStart, hposition, eq_comm]

/-- A tick that reads a gamepad gives a direction to every slot without a
toggle. From then on the slot keeps it (`idle_run`). -/
theorem direction_tick (b : Board) {s : System} {i : InputIdx}
    (hconnected : s.gamepadConnected = true)
    (hdirect : (s.sketch.rc.virtualInputs i).inputType = .direct) (c : Snapshot) :
    ((s.step b (.tick (some c))).sketch.rc.memory i).toggle3Direction = 1 := by
  change ((processControlTick b s.millis s.gamepadConnected (some c) s.sketch).rc.memory
    i).toggle3Direction = 1
  rw [hconnected]
  exact (evaluateVirtualSlot_direct hdirect b.powf s.millis _ (some c)).2

end RcController
