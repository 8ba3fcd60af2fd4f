import RcController.Device.Boot
import RcController.Device.Failsafe
import RcController.Wiring.Ranges

/-!
# The configuration stays within its ranges

Values get into the configuration from request arguments, from blobs and from the copies a
rollback keeps. Whatever the device is sent, and whatever fails, the two tables stay within
their ranges (`tablesOk_step`). So an export stores every input as it is, and applying it
gives the same inputs back (`virtualInputs_round_trip`).

The toggles are another matter. Their direction is set up by the decoder for the inputs it
decodes, and for all others by an initialiser that reaches the first slot only. The first
state after boot is the one to look at: every later step keeps what holds there
(`configInRange_iff`).
-/

namespace RcController

open DeviceProg OutputBank Runs

/-! ### Toggles -/

/-- What the evaluation remembers of an input: a position of the toggle, and a
direction in which a toggle of three positions moves next. -/
structure InputMemory.InRange (m : InputMemory) : Prop where
  position : 0 ≤ m.togglePosition ∧ m.togglePosition ≤ 2
  direction : m.toggle3Direction = 1 ∨ m.toggle3Direction = -1

/-- Only the position and the direction count. The rest of the memory is the
runtime value and the two button states, which any value suits. -/
theorem InputMemory.InRange.of_eq {m m' : InputMemory} (h : m.InRange)
    (hposition : m'.togglePosition = m.togglePosition)
    (hdirection : m'.toggle3Direction = m.toggle3Direction) : m'.InRange where
  position := by
    rw [hposition]
    exact h.position
  direction := by
    rw [hdirection]
    exact h.direction

/-- Either branch of a test, when both are within their ranges. -/
theorem InputMemory.InRange.ite {c : Prop} [Decidable c] {m m' : InputMemory} (h : m.InRange)
    (h' : m'.InRange) : (if c then m else m').InRange := by
  split
  · exact h
  · exact h'

/-- A rumble is not about the toggles. -/
theorem playInputRumble_inRange {m : InputMemory} (h : m.InRange) (now : UInt32) :
    (playInputRumble now m).InRange := by
  unfold playInputRumble
  split
  · exact h
  · exact h.of_eq rfl rfl

/-- Every branch of the toggle leaves a position from 0 to 2. With two positions
it swaps 0 and 1; with three it steps in the direction it remembers, which turns
at the ends. -/
theorem evaluateToggle_inRange {m : InputMemory} (h : m.InRange) (inp : VirtualInputConfig)
    (c : Snapshot) (positions : ℕ) :
    (evaluateToggleVirtualInput inp m c positions).2.InRange := by
  have hswap : ∀ p : ℤ,
      0 ≤ (if p = 0 then (1 : ℤ) else 0) ∧ (if p = 0 then (1 : ℤ) else 0) ≤ 2 := by
    intro p
    split <;> exact ⟨by norm_num, by norm_num⟩
  unfold evaluateToggleVirtualInput
  dsimp only
  split
  · exact h.of_eq rfl rfl
  -- centre, two positions, buttons for the two ends, one button, no button
  refine .ite ⟨⟨by norm_num, by norm_num⟩, .inl rfl⟩ ?_
  refine .ite ⟨hswap _, h.direction⟩ ?_
  refine .ite ?_ (.ite (.ite ⟨hswap _, h.direction⟩ ?_) (h.of_eq rfl rfl))
  · exact .ite ⟨⟨by norm_num, by norm_num⟩, h.direction⟩
      (.ite ⟨⟨by norm_num, by norm_num⟩, h.direction⟩ (h.of_eq rfl rfl))
  · -- the direction turns at the ends, and the position is clamped
    refine ⟨constrain_mem _ (by norm_num), ?_⟩
    dsimp only
    split
    · exact .inl rfl
    · split
      · exact .inr rfl
      · exact h.direction

/-- **The control tick keeps the toggles within their ranges.** A direct input
does not toggle and has its position kept; its direction is set to 1 on the
way. -/
theorem evaluateVirtualSlot_inRange {m : InputMemory} (h : m.InRange) (powf : ℚ → ℚ → ℚ)
    (now : UInt32) (inp : VirtualInputConfig) (ctl : Option Snapshot) :
    (evaluateVirtualSlot powf now inp m ctl).InRange := by
  cases ctl with
  | none => exact h.of_eq rfl rfl
  | some c =>
    have htoggle : ∀ positions : ℕ,
        (let m' := { (evaluateToggleVirtualInput inp m c positions).2 with
            runtime := (evaluateToggleVirtualInput inp m c positions).1 }
         if inp.rumbleEnabled && m.togglePosition ≠ m'.togglePosition then playInputRumble now m'
         else m').InRange := by
      intro positions
      have hmoved : InputMemory.InRange { (evaluateToggleVirtualInput inp m c positions).2 with
          runtime := (evaluateToggleVirtualInput inp m c positions).1 } :=
        (evaluateToggle_inRange h inp c positions).of_eq rfl rfl
      dsimp only
      split
      · exact playInputRumble_inRange hmoved now
      · exact hmoved
    unfold evaluateVirtualSlot
    cases inp.inputType with
    | toggle2Pos => exact htoggle 2
    | toggle3Pos => exact htoggle 3
    | direct =>
      -- a direct input sets its direction, which is how an unused slot gets one
      refine .ite (playInputRumble_inRange ?_ now) ?_ <;> exact ⟨h.position, .inl rfl⟩

/-- Neither does the decoder lead out of them: it sets the position, and leaves
the direction as it is for two positions only. -/
theorem initialMemory_inRange {m : InputMemory} (h : m.InRange) (inp : VirtualInputConfig) :
    (initialMemory inp m).InRange := by
  unfold initialMemory
  cases inp.inputType with
  | toggle2Pos => exact ⟨⟨by norm_num, by norm_num⟩, h.direction⟩
  | toggle3Pos =>
    refine ⟨?_, .inl rfl⟩
    dsimp only
    split <;> exact ⟨by norm_num, by norm_num⟩
  | direct => exact ⟨⟨by norm_num, by norm_num⟩, .inl rfl⟩

/-- The memory of every input, used or not. -/
def TogglesOk (memory : InputIdx → InputMemory) : Prop := ∀ i, (memory i).InRange

/-- A blob is decoded slot by slot, and the slots it does not use are kept. -/
theorem togglesOk_decode {memory : InputIdx → InputMemory} (h : TogglesOk memory)
    (cfg : PersistedConfig) : TogglesOk (decodeMemory cfg memory) := by
  intro i
  unfold decodeMemory
  split
  · exact initialMemory_inRange (h i) _
  · exact h i

/-! ### Requests -/

section Requests

variable {b : Board} {s : Sketch}

/-- What a request writes into the tables was clamped on the way in, or is the
default record. This lemma and the next three say so of the requests one by one. -/
theorem tablesOk_virtualAdd (h : TablesOk s.rc) (args : Args) :
    TablesOk (handleApiVirtualAdd args s).1.rc := by
  unfold handleApiVirtualAdd
  split
  · exact h
  · next index _ =>
    have hdraft := parseVirtual_inRange args (c := { used := true }) index (by decide)
    exact ⟨h.inputs.update (fun _ => hdraft) fun hunused => (by cases hunused), h.outputs⟩

/-- Changing an input writes clamped values, with the old ones as fallbacks. -/
theorem tablesOk_virtualUpdate (h : TablesOk s.rc) (args : Args) :
    TablesOk (handleApiVirtualUpdate args s).1.rc := by
  unfold handleApiVirtualUpdate
  split
  · exact h
  · next index _ =>
    split
    · exact h
    · next hused =>
      have hold := h.inputs.inRange index (by simpa using hused)
      obtain ⟨hdeadzone, hexpo, hname⟩ := parseVirtual_inRange args index hold.name
      refine ⟨h.inputs.update (fun _ => ⟨hdeadzone, hexpo, hname⟩) fun hunused => ?_, h.outputs⟩
      cases hunused

/-- Deleting an input also clears the references to it in the outputs. -/
theorem tablesOk_virtualDelete (h : TablesOk s.rc) (args : Args) :
    TablesOk (handleApiVirtualDelete args s).1.rc := by
  unfold handleApiVirtualDelete
  split
  · exact h
  · next index _ =>
    split
    · exact h
    · refine ⟨h.inputs.update (fun hused => ?_) fun _ => rfl, outputsOk_iff.mpr fun i => ?_⟩
      · cases hused
      · exact clearSource_ok (outputsOk_iff.mp h.outputs i) index

/-- A rebuild may follow an edit of the outputs. It moves outputs to other pins,
and pins are not among the ranges. -/
theorem tablesOk_outputAdd (h : TablesOk s.rc) (args : Args) :
    TablesOk (handleApiOutputAdd b args s).1.rc := by
  unfold handleApiOutputAdd
  split
  · exact h
  · next index _ =>
    have hdraft := parseOutput_inRange args (c := { used := true }) index (by decide)
    exact h.editOutput b index ⟨fun _ => hdraft, fun hunused => by cases hunused⟩ _

theorem tablesOk_outputUpdate (h : TablesOk s.rc) (args : Args) :
    TablesOk (handleApiOutputUpdate b args s).1.rc := by
  unfold handleApiOutputUpdate
  split
  · exact h
  · next index _ =>
    split
    · exact h
    · next hused =>
      have hold := h.outputs.inRange index (by simpa using hused)
      refine h.editOutput b index ⟨fun _ => updatedOutput_inRange args hold index,
        fun hunused => ?_⟩ _
      rw [updatedOutput_used] at hunused
      cases hunused

theorem tablesOk_outputDelete (h : TablesOk s.rc) (args : Args) :
    TablesOk (handleApiOutputDelete b args s).1.rc := by
  unfold handleApiOutputDelete
  split
  · exact h
  · split
    · exact h
    · exact h.editOutput b _ ok_reset _

/-- **No request takes the tables out of their ranges**, whatever the storage
answers. The requests that edit are one handler each; the others apply a blob at
most, and a blob is decoded into records within their ranges. -/
theorem tablesOk_request (h : TablesOk s.rc) (millis : UInt32) (r : Request) :
    (handleRequest b millis r s).Always fun x => TablesOk x.1.rc := by
  by_cases hend : r.endpoint.Immediate
  swap
  · -- the requests about models apply a blob at most
    refine (handleRequest_modelEdit b millis r s hend).mono fun x hx => ?_
    rcases hx.rc with hrc | ⟨cfg, hrc⟩
    · rw [hrc]
      exact h
    · rw [hrc]
      exact h.applyTables b cfg
  -- the requests that edit a table, and the two that do not
  unfold handleRequest
  cases hendpoint : r.endpoint with
  | virtualAdd => exact tablesOk_virtualAdd h r.args
  | virtualUpdate => exact tablesOk_virtualUpdate h r.args
  | virtualDelete => exact tablesOk_virtualDelete h r.args
  | outputAdd => exact tablesOk_outputAdd h r.args
  | outputUpdate => exact tablesOk_outputUpdate h r.args
  | outputDelete => exact tablesOk_outputDelete h r.args
  | pairingOn => exact h
  | pairingOff => exact h
  | _ => rw [hendpoint] at hend; exact hend.elim

/-- An apply sets up the memory of the inputs it decodes. When it fails after
that, the outputs are rolled back and the memory is not. -/
theorem memory_applyTables (b : Board) (cfg : PersistedConfig) (rc : RcModel) :
    (applyTables b cfg rc).1.memory
      = if cfg.HeaderOk then decodeMemory cfg rc.memory else rc.memory := by
  by_cases hheader : cfg.HeaderOk
  · rw [if_pos hheader]
    cases hplace : (rc.bank.teardown.placeChannels b cfg).2 with
    | ok _ => rw [applyTables_ok hheader hplace]
    | error e => rw [applyTables_error hheader hplace]
  · rw [if_neg hheader, applyTables_badHeader hheader]

/-- So an apply, too, keeps the toggles within their ranges. -/
theorem togglesOk_applyTables {rc : RcModel} (h : TogglesOk rc.memory) (b : Board)
    (cfg : PersistedConfig) : TogglesOk (applyTables b cfg rc).1.memory := by
  rw [memory_applyTables]
  split
  · exact togglesOk_decode h cfg
  · exact h

/-- Editing an output is not about the toggles: a rollback restores the outputs
alone. -/
theorem memory_editOutput (b : Board) (e : OutputIdx) (record : OutputChannelConfig)
    (message : String) (s : Sketch) :
    (editOutput b e record message s).1.rc.memory = s.rc.memory := by
  unfold editOutput
  dsimp only
  split <;> rfl

/-- A request moves a toggle only by applying a blob. -/
theorem togglesOk_effect {rc : RcModel} (heffect : Effect b s rc) (h : TogglesOk s.rc.memory) :
    TogglesOk rc.memory := by
  cases heffect with
  | same => exact h
  | inputs _ => exact h
  | sources _ _ => exact h
  | edited e record message =>
    rw [memory_editOutput]
    exact h
  | applied cfg => exact togglesOk_applyTables h b cfg

end Requests

/-! ### Everything else that happens -/

/-- Driving the outputs writes pulses and levels, not the table. -/
theorem outputs_driveOutputs (runtime : InputIdx → ℚ) (s : OutputBank) :
    (s.driveOutputs runtime).outputs = s.outputs := by
  refine Pass.foldl_keeps (fun t : OutputBank => t.outputs = s.outputs) (fun i t ht => ?_) _ rfl
  obtain ⟨pulse, hslot⟩ := slot_driveOutput runtime i t
  rw [outputs_eq_of_slot hslot]
  dsimp only
  rw [← ht]
  exact Function.update_eq_self i t.outputs

/-- What may have become of the model when no request was served: the same
tables, and a memory that is the old one or the result of one evaluation of
it. -/
structure Evaluated (b : Board) (rc rc' : RcModel) : Prop where
  inputs : rc'.virtualInputs = rc.virtualInputs
  outputs : rc'.bank.outputs = rc.bank.outputs
  memory : rc'.memory = rc.memory ∨ ∃ now ctl,
    rc'.memory = evaluateVirtualRuntime b.powf now rc.virtualInputs rc.memory ctl

/-- Nothing at all, and the failsafe on top of anything, which drives the
outputs only. -/
theorem Evaluated.refl (b : Board) (rc : RcModel) : Evaluated b rc rc := ⟨rfl, rfl, .inl rfl⟩

theorem Evaluated.failsafe {b : Board} {rc rc' : RcModel} (h : Evaluated b rc rc') :
    Evaluated b rc { rc' with bank := rc'.bank.applyFailsafeAllOutputs } :=
  ⟨h.inputs, (outputs_applyFailsafeAllOutputs _).trans h.outputs, h.memory⟩

/-- The control tick evaluates the inputs and drives the outputs, or applies the
failsafe, or does neither; without a gamepad it evaluates and applies the
failsafe. -/
theorem evaluated_tick (b : Board) (now : UInt32) (connected : Bool) (packet : Option Snapshot)
    (s : Sketch) : Evaluated b s.rc (processControlTick b now connected packet s).rc := by
  have hevaluated : ∀ ctl, Evaluated b s.rc (evaluateInputs b now ctl s.rc) :=
    fun ctl => ⟨rfl, rfl, .inr ⟨now, ctl, rfl⟩⟩
  unfold processControlTick
  split
  · cases packet with
    | some c => exact ⟨rfl, outputs_driveOutputs _ _, (hevaluated (some c)).memory⟩
    | none =>
      dsimp only
      split
      · exact (Evaluated.refl b s.rc).failsafe
      · exact .refl b s.rc
  · exact (hevaluated none).failsafe

/-- A controller that connects changes the scan and the gamepad, and not the
model. -/
theorem evaluated_connect (b : Board) (now : UInt32) (connected : ControllerIdx → Bool)
    (ctl : ControllerIdx) (kind : ControllerKind) (s : Sketch) :
    Evaluated b s.rc (onConnectedController now connected ctl kind s).rc := by
  rw [rc_onConnected]
  exact .refl b s.rc

/-- One that leaves brings the failsafe. -/
theorem evaluated_disconnect (b : Board) (ctl : ControllerIdx) (s : Sketch) :
    Evaluated b s.rc (onDisconnectedController ctl s).rc := by
  unfold onDisconnectedController
  split
  · exact (Evaluated.refl b s.rc).failsafe
  · exact .refl b s.rc

/-- Such a step keeps the tables. -/
theorem Evaluated.tablesOk {b : Board} {rc rc' : RcModel} (h : Evaluated b rc rc')
    (hok : TablesOk rc) : TablesOk rc' := by
  obtain ⟨hinputs, houtputs⟩ := hok
  rw [← h.inputs] at hinputs
  rw [← h.outputs] at houtputs
  exact ⟨hinputs, houtputs⟩

/-- It keeps the toggles too. -/
theorem Evaluated.togglesOk {b : Board} {rc rc' : RcModel} (h : Evaluated b rc rc')
    (hok : TogglesOk rc.memory) : TogglesOk rc'.memory := by
  rcases h.memory with hsame | ⟨now, ctl, hevaluated⟩
  · rw [hsame]
    exact hok
  · rw [hevaluated]
    exact fun i => evaluateVirtualSlot_inRange (hok i) b.powf now _ ctl

/-! ### Startup -/

/-- Each preset that can be booted was loaded with its header checked, or is
built in. -/
theorem bootChoice_always : bootChoice.Always fun x => x.2.HeaderOk := by
  refine Prog.always_bind_of_forall _ fun boot => ?_
  refine (loadAnyPreset_always boot).bind fun loaded hloaded => ?_
  cases loaded with
  | ok cfg => exact hloaded cfg rfl
  -- the car is built in
  | error e => exact ⟨rfl, rfl⟩

/-- The preset a device boots with has the current format. -/
theorem startup_always : startup.Always fun x => x.config.HeaderOk := by
  refine Prog.always_bind_of_forall _ fun ssid => ?_
  refine Prog.always_bind_of_forall _ fun pass => ?_
  exact bootChoice_always.bind fun x hx => hx

/-- The tables start empty, and the boot preset is applied to them. -/
theorem tablesOk_boot (b : Board) (nvs : NvsStore) (plan : Prog.Plan nvsInterface)
    (millis : UInt32) : TablesOk (System.boot b nvs plan millis).sketch.rc := by
  rw [sketch_boot]
  have happlied := tablesOk_blank.applyTables b (startup.run nvsDevice plan nvs).1.config
  refine ⟨happlied.inputs, ?_⟩
  change OutputsOk (OutputBank.applyFailsafeAllOutputs _).outputs
  rw [outputs_applyFailsafeAllOutputs]
  exact happlied.outputs

/-- What a boot preset must do for the toggles: every slot but the first is
used, and for something other than a toggle of two positions. The initialiser
gives a direction to the first slot, and the decoder leaves the others at zero
in just these two cases. -/
def SetsDirections (cfg : PersistedConfig) : Prop :=
  ∀ i : InputIdx, i ≠ 0 → (cfg.virtualInputs i).used ≠ 0 ∧
    (decodeVirtualInput (cfg.virtualInputs i)).inputType ≠ .toggle2Pos

/-- The condition is exact, slot by slot. It is about the memory as it comes up
from a reset, with a direction in the first slot alone. -/
theorem togglesOk_blank_iff (cfg : PersistedConfig) :
    TogglesOk (decodeMemory cfg ({} : RcModel).memory) ↔ SetsDirections cfg := by
  have hslot : ∀ i : InputIdx, (decodeMemory cfg ({} : RcModel).memory i).InRange ↔
      (i ≠ 0 → (cfg.virtualInputs i).used ≠ 0 ∧
        (decodeVirtualInput (cfg.virtualInputs i)).inputType ≠ .toggle2Pos) := by
    intro i
    by_cases hi : i = 0
    · -- the initialiser reaches the first slot
      have hfirst : ((({} : RcModel).memory) i).InRange := by
        rw [hi]
        exact ⟨⟨le_refl _, by norm_num⟩, .inl rfl⟩
      refine ⟨fun _ hne => absurd hi hne, fun _ => ?_⟩
      unfold decodeMemory
      split
      · exact initialMemory_inRange hfirst _
      · exact hfirst
    -- any other slot comes up without a direction, and needs the decoder to set one
    have hzero : (({} : RcModel).memory i).toggle3Direction = 0 := if_neg hi
    have hnone : ∀ m : InputMemory, m.toggle3Direction = 0 → ¬ m.InRange := by
      intro m hm h
      rcases h.direction with h | h <;> omega
    unfold decodeMemory
    by_cases hused : (cfg.virtualInputs i).used ≠ 0
    · rw [if_pos hused]
      unfold initialMemory
      cases htype : (decodeVirtualInput (cfg.virtualInputs i)).inputType with
      | direct =>
        exact ⟨fun _ _ => ⟨hused, by simp⟩, fun _ => ⟨⟨le_refl _, by norm_num⟩, .inl rfl⟩⟩
      -- the one type whose direction the decoder leaves alone
      | toggle2Pos =>
        refine ⟨fun h => absurd h (hnone _ hzero), fun h => ?_⟩
        exact absurd rfl (h hi).2
      | toggle3Pos =>
        refine ⟨fun _ _ => ⟨hused, by simp⟩, fun _ => ⟨?_, .inl rfl⟩⟩
        dsimp only
        split <;> exact ⟨by norm_num, by norm_num⟩
    · rw [if_neg hused]
      exact ⟨fun h => absurd h (hnone _ hzero), fun h => absurd (h hi).1 hused⟩
  exact forall_congr' hslot

/-- **The toggles after boot** have a direction when the boot preset gives them
one. If its apply fails the memory was decoded all the same. -/
theorem togglesOk_boot_iff (b : Board) (nvs : NvsStore) (plan : Prog.Plan nvsInterface)
    (millis : UInt32) : TogglesOk (System.boot b nvs plan millis).sketch.rc.memory ↔
      SetsDirections (startup.run nvsDevice plan nvs).1.config := by
  have hboot : (System.boot b nvs plan millis).sketch
      = (startup.run nvsDevice plan nvs).1.booted b millis := run_setup b millis plan nvs
  rw [hboot, ← togglesOk_blank_iff]
  change TogglesOk (applyTables b (startup.run nvsDevice plan nvs).1.config {}).1.memory ↔ _
  rw [memory_applyTables, if_pos (startup_always.run nvsDevice plan nvs)]

/-! ### Runs -/

/-- Besides what happens to a device, any blob may be applied, whether or not it
came from an export. -/
inductive ConfigEvent where
  | device (event : Event)
  | apply (cfg : PersistedConfig) (plan : Prog.Plan nvsInterface)

/-- One step of the configuration. -/
def System.configStep (b : Board) (s : System) : ConfigEvent → System
  | .device event => s.step b event
  | .apply cfg plan =>
    let res := (applyToSketch b cfg s.sketch).run nvsDevice plan s.nvs
    { s with sketch := res.1.1, nvs := res.2 }

/-- What is asked of an event: if it restarts the device, the preset that boots
sets up the directions. -/
def RestartSetsDirections (b : Board) (s : System) : ConfigEvent → Prop
  | .device (.request r plan restartPlan) =>
    let res := (handleRequest b s.millis r s.sketch).run nvsDevice plan s.nvs
    r.endpoint = .apConfigApplyReboot → res.1.2.ok = true →
      SetsDirections (startup.run nvsDevice restartPlan res.2).1.config
  | _ => True

section Step

variable {b : Board} {s : System}

/-- What an event other than a request does. -/
theorem evaluated_step (b : Board) (s : System) {event : Event}
    (h : ∀ r plan restartPlan, event ≠ .request r plan restartPlan) :
    Evaluated b s.sketch.rc (s.step b event).sketch.rc := by
  cases event with
  | request r plan restartPlan => exact absurd rfl (h r plan restartPlan)
  | tick packet => exact evaluated_tick b s.millis _ packet s.sketch
  | schedulerTick =>
    have hrc : (s.step b .schedulerTick).sketch.rc = s.sketch.rc := (scheduler_session s).1
    rw [hrc]
    exact .refl b _
  | connect ctl kind => exact evaluated_connect b s.millis _ ctl kind s.sketch
  | disconnect ctl => exact evaluated_disconnect b ctl s.sketch
  | elapse ms => exact .refl b _

/-- An event is a request, perhaps with a restart, or one of these. -/
theorem tablesOk_event (h : TablesOk s.sketch.rc) (event : Event) :
    TablesOk (s.step b event).sketch.rc := by
  by_cases hrequest : ∃ r plan restartPlan, event = .request r plan restartPlan
  · obtain ⟨r, plan, restartPlan, rfl⟩ := hrequest
    change TablesOk (s.request b r plan restartPlan).sketch.rc
    unfold System.request
    dsimp only
    split
    · exact tablesOk_boot b _ restartPlan 0
    · exact (tablesOk_request h s.millis r).run nvsDevice plan s.nvs
  · push Not at hrequest
    exact (evaluated_step b s hrequest).tablesOk h

/-- **No step takes the tables out of their ranges.** -/
theorem tablesOk_step (h : TablesOk s.sketch.rc) (e : ConfigEvent) :
    TablesOk (s.configStep b e).sketch.rc := by
  cases e with
  | device event => exact tablesOk_event h event
  | apply cfg plan =>
    have happly := (applyToSketch_always b cfg s.sketch).run nvsDevice plan s.nvs
    change TablesOk ((applyToSketch b cfg s.sketch).run nvsDevice plan s.nvs).1.1.rc
    rw [happly]
    exact h.applyTables b cfg

/-- Whatever a device went through since it booted, its tables are within their
ranges. No assumption is made on the storage it booted from. -/
theorem tablesOk_run (b : Board) (nvs : NvsStore) (plan : Prog.Plan nvsInterface)
    (millis : UInt32) (es : List ConfigEvent) :
    TablesOk (run (System.configStep b) (System.boot b nvs plan millis) es).sketch.rc :=
  run_invariant_of_step (I := fun s : System => TablesOk s.sketch.rc)
    (fun _ e h => tablesOk_step h e) (tablesOk_boot b nvs plan millis) es

/-- The toggles stay within their ranges as long as no restart puts them back to
zero. -/
theorem togglesOk_event (h : TogglesOk s.sketch.rc.memory) {event : Event}
    (hrestart : RestartSetsDirections b s (.device event)) :
    TogglesOk (s.step b event).sketch.rc.memory := by
  by_cases hrequest : ∃ r plan restartPlan, event = .request r plan restartPlan
  · obtain ⟨r, plan, restartPlan, rfl⟩ := hrequest
    have hhandled := (handleRequest_always b s.millis r s.sketch).run nvsDevice plan s.nvs
    change TogglesOk (s.request b r plan restartPlan).sketch.rc.memory
    unfold System.request
    dsimp only
    split
    · next hboot => exact (togglesOk_boot_iff b _ restartPlan 0).mpr (hrestart hboot.1 hboot.2)
    · exact togglesOk_effect hhandled.effect h
  · push Not at hrequest
    exact (evaluated_step b s hrequest).togglesOk h

/-- A step keeps the toggles within their ranges, unless it is a restart with a
preset that does not set them up. -/
theorem togglesOk_step (h : TogglesOk s.sketch.rc.memory) {e : ConfigEvent}
    (hrestart : RestartSetsDirections b s e) : TogglesOk (s.configStep b e).sketch.rc.memory := by
  cases e with
  | device event => exact togglesOk_event h hrestart
  | apply cfg plan =>
    have happly := (applyToSketch_always b cfg s.sketch).run nvsDevice plan s.nvs
    change TogglesOk ((applyToSketch b cfg s.sketch).run nvsDevice plan s.nvs).1.1.rc.memory
    rw [happly]
    exact togglesOk_applyTables h b cfg

/-- The toggles after a restart show which preset was booted. This is the other
direction: a state within its ranges cannot come from a restart that broke
them. -/
theorem restartSetsDirections_of_togglesOk {e : ConfigEvent}
    (h : TogglesOk (s.configStep b e).sketch.rc.memory) : RestartSetsDirections b s e := by
  rcases e with (⟨r, plan, restartPlan⟩ | packet | _ | ⟨ctl, kind⟩ | ctl | ms) | ⟨cfg, plan⟩
  case device.request =>
    intro hend hok
    change TogglesOk (s.request b r plan restartPlan).sketch.rc.memory at h
    unfold System.request at h
    dsimp only at h
    rw [if_pos ⟨hend, hok⟩] at h
    exact (togglesOk_boot_iff b _ restartPlan 0).mp h
  all_goals trivial

end Step

/-! ### The input round trip -/

/-- Exporting the inputs and decoding the blob gives the same records. -/
def InputsRoundTrip (rc : RcModel) : Prop :=
  ∀ (b : Board) (rc' : RcModel) (plan : Prog.Plan nvsInterface) (n : NvsStore),
    let r := ((applyPersistedConfig b (exportCurrentConfig rc) rc').run nvsDevice plan n).1
    r.2 = .ok () → r.1.virtualInputs = rc.virtualInputs

/-- Inputs within their ranges have one encoding, and it is decoded to them. An
unused slot is the default record, which the blob leaves out. -/
theorem InputsOk.roundTrip {rc : RcModel} (h : InputsOk rc.virtualInputs) : InputsRoundTrip rc := by
  intro b rc' plan n r hok
  have happly : r = applyTables b (exportCurrentConfig rc) rc' :=
    (applyPersistedConfig_always b (exportCurrentConfig rc) rc').run nvsDevice plan n
  rw [happly] at hok ⊢
  obtain ⟨hheader, hplace⟩ := place_of_applyTables hok
  rw [applyTables_ok hheader hplace]
  exact decodeVirtualInputs_export h

/-- **The input codec round trip.** Every table of inputs that a device reaches,
and every table that a successful apply decodes, comes back from an export. Both
are tables within their ranges, which is all the codec needs. -/
theorem virtualInputs_round_trip :
    (∀ (b : Board) (nvs : NvsStore) (plan : Prog.Plan nvsInterface) (millis : UInt32)
      (es : List ConfigEvent),
      InputsRoundTrip (run (System.configStep b) (System.boot b nvs plan millis) es).sketch.rc) ∧
    ∀ (b : Board) (cfg : PersistedConfig) (rc : RcModel) (plan : Prog.Plan nvsInterface)
      (n : NvsStore),
      ((applyPersistedConfig b cfg rc).run nvsDevice plan n).1.2 = .ok () →
        InputsRoundTrip ((applyPersistedConfig b cfg rc).run nvsDevice plan n).1.1 := by
  refine ⟨fun b nvs plan millis es => ?_, fun b cfg rc plan n hok => ?_⟩
  · exact (tablesOk_run b nvs plan millis es).inputs.roundTrip
  · have happly := (applyPersistedConfig_always b cfg rc).run nvsDevice plan n
    rw [happly] at hok ⊢
    obtain ⟨hheader, hplace⟩ := place_of_applyTables hok
    rw [applyTables_ok hheader hplace]
    exact (inputsOk_decode cfg).roundTrip

/-- The car preset on a board with two PWM pins. -/
theorem virtualInputs_round_trip_car :
    InputsRoundTrip ((applyPersistedConfig smallBoard builtinPresetRcCar {}).run nvsDevice
      (fun _ _ => false) {}).1.1 :=
  virtualInputs_round_trip.2 smallBoard builtinPresetRcCar {} (fun _ _ => false) {}
    (by decide +kernel)

/-! ### The ranges -/

/-- All the ranges at once. An unused slot is reset and stays neutral, whatever
a controller sends. -/
structure ConfigInRange (rc : RcModel) : Prop where
  inputs : ∀ i, (rc.virtualInputs i).InRange
  outputs : ∀ i, (rc.bank.outputs i).InRange
  -- an unused slot is reset, and evaluates to zero
  unusedInputs : ∀ i, (rc.virtualInputs i).used = false → rc.virtualInputs i = {} ∧
    ∀ powf now m ctl, (evaluateVirtualSlot powf now (rc.virtualInputs i) m ctl).runtime = 0
  unusedOutputs : ∀ i, (rc.bank.outputs i).used = false → rc.bank.outputs i = {} ∧
    ∀ runtime, evaluateOutputSignal runtime (rc.bank.outputs i) = 0
  toggles : TogglesOk rc.memory

/-- The default record evaluates to zero. -/
theorem evaluateVirtualSlot_reset (powf : ℚ → ℚ → ℚ) (now : UInt32) (m : InputMemory)
    (ctl : Option Snapshot) : (evaluateVirtualSlot powf now {} m ctl).runtime = 0 := by
  cases ctl <;> rfl

/-- With the tables within their ranges, the toggles are what is left. -/
theorem TablesOk.inRange_iff_toggles {rc : RcModel} (h : TablesOk rc) :
    ConfigInRange rc ↔ TogglesOk rc.memory := by
  -- the default records are within their ranges
  have hinput : VirtualInputConfig.InRange {} :=
    ⟨by decide, by decide, by decide⟩
  have houtput : OutputChannelConfig.InRange {} := by
    constructor <;> decide
  refine ⟨fun hrange => hrange.toggles, fun htoggles => ⟨fun i => ?_, fun i => ?_, fun i hi => ?_,
    fun i hi => ?_, htoggles⟩⟩
  · cases hused : (rc.virtualInputs i).used with
    | true => exact h.inputs.inRange i hused
    | false =>
      rw [h.inputs.unused i hused]
      exact hinput
  · cases hused : (rc.bank.outputs i).used with
    | true => exact h.outputs.inRange i hused
    | false =>
      rw [h.outputs.unused i hused]
      exact houtput
  · rw [h.inputs.unused i hi]
    exact ⟨rfl, fun powf now m ctl => evaluateVirtualSlot_reset powf now m ctl⟩
  · rw [h.outputs.unused i hi]
    exact ⟨rfl, fun _ => rfl⟩

/-- **The ranges are an invariant** of exactly the runs in which every boot
finds a preset that sets up the direction of each toggle the initialiser leaves
out. -/
theorem configInRange_iff (b : Board) (nvs : NvsStore) (plan : Prog.Plan nvsInterface)
    (millis : UInt32) (es : List ConfigEvent) :
    StatesMeet (System.configStep b) (fun s => ConfigInRange s.sketch.rc)
        (System.boot b nvs plan millis) es ↔
      SetsDirections (startup.run nvsDevice plan nvs).1.config ∧
        StepsMeet (System.configStep b) (RestartSetsDirections b) (System.boot b nvs plan millis)
          es := by
  have hboot := tablesOk_boot b nvs plan millis
  rw [← togglesOk_boot_iff b nvs plan millis]
  by_cases htoggles : TogglesOk (System.boot b nvs plan millis).sketch.rc.memory
  · rw [and_iff_right htoggles]
    -- the exact invariant rule: a restart without directions breaks the ranges at once
    refine statesMeet_iff_stepsMeet
      (I := fun s : System => TablesOk s.sketch.rc ∧ TogglesOk s.sketch.rc.memory)
      (A := fun _ _ => True) (fun s hs => hs.1.inRange_iff_toggles.mpr hs.2) (fun s e hs _ hC => ?_)
      (fun s e hs _ hP => ?_) ⟨hboot, htoggles⟩ (stepsMeet_of_forall (fun _ _ => trivial) _ _)
    · exact ⟨tablesOk_step hs.1 e, togglesOk_step hs.2 hC⟩
    · exact restartSetsDirections_of_togglesOk hP.toggles
  · -- the first state of the run already misses the range
    refine ⟨fun h => ?_, fun h => absurd h.1 htoggles⟩
    have hfirst : ConfigInRange (System.boot b nvs plan millis).sketch.rc :=
      statesMeet_iff.mp h [] List.nil_prefix
    exact absurd hfirst.toggles htoggles

/-- The car uses three inputs. After boot the fourth has no direction: no blob
decoded it, and the initialiser stops at the first. -/
theorem toggle_without_direction :
    ((System.boot smallBoard {} (fun _ _ => false) 0).sketch.rc.memory 3).toggle3Direction = 0 ∧
      ¬ ConfigInRange (System.boot smallBoard {} (fun _ _ => false) 0).sketch.rc := by
  have hzero :
      ((System.boot smallBoard {} (fun _ _ => false) 0).sketch.rc.memory 3).toggle3Direction
      = 0 := by decide +kernel
  refine ⟨hzero, fun h => ?_⟩
  rcases (h.toggles 3).direction with hup | hdown
  · rw [hzero] at hup
    cases hup
  · rw [hzero] at hdown
    cases hdown

end RcController
