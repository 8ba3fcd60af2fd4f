import RcController.Device.Handlers
import RcController.Store.Load

/-!
# Startup

`setup()` reads what it needs from the storage (`startup`), and then applies the preset
it has chosen to a blank device (`Startup.booted`). The first part does not depend on the
board, and the second not on the storage, so that a property of the device after boot is a
property of the preset that was chosen.

The preset is the one of the stored boot name, or the car when that cannot be loaded. That
it can be loaded does not mean that it can be applied: the header of a blob is checked when
it is loaded, its channels when it is applied, and the result of the apply is ignored.
`boot_names_preset_iff` says when the device nevertheless runs the preset it
names.
-/

namespace RcController

open DeviceProg

/-! ### The two halves of `setup()` -/

/-- The preset `setup()` chooses, with its name. The last branch is there
because the source has it: the car is built in, so that it always loads. -/
def bootChoice : NvsM (Str × PersistedConfig) := do
  let boot ← loadBootModelName
  match ← loadAnyPreset boot with
  | .ok cfg => return (boot, cfg)
  | .error _ =>
    match ← loadAnyPreset kPresetRcCar with
    | .ok cfg => return (kPresetRcCar, cfg)
    | .error _ => return (kPresetRcCar, {})

/-- What `setup()` reads from the storage. -/
structure Startup where
  ssid : Str
  pass : Str
  model : Str
  config : PersistedConfig

/-- The reads of `setup()`, in its order. -/
def startup : NvsM Startup := do
  let ssid ← loadApSsid
  let pass ← loadApPassword
  let (model, cfg) ← bootChoice
  return ⟨ssid, pass, model, cfg⟩

/-- The globals before the apply. -/
def Startup.sketch (x : Startup) (now : UInt32) : Sketch where
  apSsid := x.ssid
  apPassword := x.pass
  btScanToggleAtMs := now + 5000
  bootModelName := x.model
  currentModelName := x.model

/-- The globals after `setup()`: the chosen preset applied to a blank device,
and the failsafe of all outputs. -/
def Startup.booted (b : Board) (now : UInt32) (x : Startup) : Sketch :=
  { x.sketch now with
    rc := { (applyTables b x.config {}).1 with
      bank := (applyTables b x.config {}).1.bank.applyFailsafeAllOutputs } }

/-- Loading the boot preset is the choice and two assignments. -/
theorem loadBootPreset_eq (s : Sketch) : loadBootPreset s = bootChoice.bind fun x =>
    .pure ({ s with bootModelName := x.1, currentModelName := x.1 }, x.2) := by
  unfold loadBootPreset bootChoice
  simp only [Prog.bind_eq, Prog.bind_assoc]
  refine congrArg (Prog.bind loadBootModelName) (funext fun boot => ?_)
  refine congrArg (Prog.bind (loadAnyPreset boot)) (funext fun loaded => ?_)
  cases loaded with
  | ok cfg => rfl
  | error e => rfl

/-- **`setup()` in two halves.** The reads come first, and the apply only needs
what they have found. -/
theorem setup_eq (b : Board) (now : UInt32) : setup b now = startup.bind fun x =>
    (applyToSketch b x.config (x.sketch now)).bind fun r =>
      .pure ({ r.1 with modelDirty := false }.setBank r.1.rc.bank.applyFailsafeAllOutputs) := by
  unfold setup startup
  simp only [Prog.bind_eq, Prog.bind_assoc, loadBootPreset_eq]
  rfl

/-- **The device after boot**, whatever fails: the chosen preset was applied to
a blank device. -/
theorem run_setup (b : Board) (now : UInt32) (plan : Prog.Plan nvsInterface) (n : NvsStore) :
    ((setup b now).run nvsDevice plan n).1 = (startup.run nvsDevice plan n).1.booted b now := by
  rw [setup_eq]
  obtain ⟨plan', hrun⟩ := Prog.run_bind nvsDevice plan startup (fun x =>
    (applyToSketch b x.config (x.sketch now)).bind fun r =>
      .pure ({ r.1 with modelDirty := false }.setBank r.1.rc.bank.applyFailsafeAllOutputs)) n
  rw [hrun]
  -- what the apply returns does not depend on the storage
  have happly : ((applyToSketch b (startup.run nvsDevice plan n).1.config
      ((startup.run nvsDevice plan n).1.sketch now)).bind fun r => .pure
        ({ r.1 with modelDirty := false }.setBank r.1.rc.bank.applyFailsafeAllOutputs)).Always
      fun s => s = (startup.run nvsDevice plan n).1.booted b now := applyToSketch_bind rfl
  exact happly.run nvsDevice plan' _

/-- The sketch after a boot, as the rest of the development uses it. -/
theorem sketch_boot (b : Board) (nvs : NvsStore) (plan : Prog.Plan nvsInterface) (millis : UInt32) :
    (System.boot b nvs plan millis).sketch = (startup.run nvsDevice plan nvs).1.booted b millis :=
  run_setup b millis plan nvs

/-- The device after a request that does not restart it. -/
theorem request_eq {b : Board} {s : System} {r : Request}
    (h : r.endpoint ≠ .apConfigApplyReboot) (plan restartPlan : Prog.Plan nvsInterface) :
    s.request b r plan restartPlan =
      { s with
        sketch := ((handleRequest b s.millis r s.sketch).run nvsDevice plan s.nvs).1.1
        nvs := ((handleRequest b s.millis r s.sketch).run nvsDevice plan s.nvs).2 } := by
  unfold System.request
  dsimp only
  rw [if_neg fun hboth => h hboth.1]

/-! ### The preset that is chosen -/

/-- The name `setup()` reads from the storage. -/
def NvsStore.bootName (n : NvsStore) : Str := (loadBootModelName.eval nvsDevice n).1

/-- Reading the boot name leaves the storage alone. -/
theorem eval_loadBootModelName (n : NvsStore) :
    loadBootModelName.eval nvsDevice n = (n.bootName, n) :=
  Prod.ext rfl (reads_eval reads_loadBootModelName n)

/-- The preset a device boots with: the car when the stored one cannot be
loaded. -/
def NvsStore.bootPreset (n : NvsStore) : Str × PersistedConfig :=
  match n.load n.bootName with
  | .ok cfg => (n.bootName, cfg)
  | .error _ => (kPresetRcCar, builtinPresetRcCar)

/-- Without faults the choice is the one of `NvsStore.bootPreset`. -/
theorem eval_bootChoice (n : NvsStore) : bootChoice.eval nvsDevice n = (n.bootPreset, n) := by
  unfold bootChoice NvsStore.bootPreset
  rw [Prog.bind_eq, Prog.eval_bind, eval_loadBootModelName]
  dsimp only
  rw [Prog.bind_eq, Prog.eval_bind, eval_load]
  cases n.load n.bootName with
  | ok cfg => rfl
  | error e => rfl

/-- The chosen preset can be loaded under its name. -/
theorem load_bootPreset (n : NvsStore) : n.load n.bootPreset.1 = .ok n.bootPreset.2 := by
  unfold NvsStore.bootPreset
  cases hload : n.load n.bootName with
  | ok cfg => exact hload
  | error e => rfl

/-- What is read without faults. -/
theorem eval_startup (n : NvsStore) : startup.eval nvsDevice n =
    (⟨(loadApSsid.eval nvsDevice n).1, (loadApPassword.eval nvsDevice n).1, n.bootPreset.1,
      n.bootPreset.2⟩, n) := by
  unfold startup
  rw [Prog.bind_eq, Prog.eval_bind, reads_eval reads_loadApSsid, Prog.bind_eq, Prog.eval_bind,
    reads_eval reads_loadApPassword, Prog.bind_eq, Prog.eval_bind, eval_bootChoice]
  rfl

/-- An apply writes the running configuration, which no preset is kept in. So
what could be loaded before can be loaded afterwards. -/
theorem load_applyToSketch {b : Board} {cfg cfg' : PersistedConfig} {s : Sketch} {n : NvsStore}
    {name : Str} (h : n.load name = .ok cfg') :
    ((applyToSketch b cfg s).eval nvsDevice n).2.load name = .ok cfg' := by
  unfold applyToSketch applyPersistedConfig
  rcases applyTables b cfg s.rc with ⟨rc, e | _⟩
  · exact h
  · refine load_of_get h (fun _ => rfl) ?_ fun i => ?_
    · exact NvsStore.get_set_of_ne _ (by simp) _
    · exact NvsStore.get_set_of_ne _ (by simp) _

/-- What is kept of the boot preset after `setup()`. -/
theorem load_setup (b : Board) (now : UInt32) (n : NvsStore) :
    ((setup b now).eval nvsDevice n).2.load n.bootPreset.1 = .ok n.bootPreset.2 := by
  rw [setup_eq, Prog.eval_bind, eval_startup]
  dsimp only
  rw [Prog.eval_bind]
  exact load_applyToSketch (load_bootPreset n)

/-- **`setup()` without storage faults.** -/
theorem eval_setup (b : Board) (now : UInt32) (n : NvsStore) :
    ((setup b now).eval nvsDevice n).1 = (startup.eval nvsDevice n).1.booted b now := by
  have hrun := run_setup b now (fun _ _ => false) n
  rwa [Prog.run_of_noFault nvsDevice fun _ _ => rfl, Prog.run_of_noFault nvsDevice fun _ _ => rfl]
    at hrun

/-! ### The tables after boot -/

/-- Every channel of the configuration can be placed on a board without
outputs. -/
def PlacesOn (b : Board) (cfg : PersistedConfig) : Prop :=
  (({} : OutputBank).placeChannels b cfg).2 = .ok ()

/-- There is nothing to tear down on a blank device. -/
theorem teardown_blank : ({} : OutputBank).teardown = {} := by
  have hslot : ∀ i, OutputBank.teardownSlot i {} = {} := fun i =>
    congrArg (fun outputs => ({ outputs := outputs } : OutputBank))
      (Function.update_eq_self i fun _ => ({} : OutputChannelConfig))
  exact List.foldl_fixed' hslot _

/-- A configuration of the current format is applied to a blank device when its
channels can be placed. -/
theorem applyTables_blank_iff {b : Board} {cfg : PersistedConfig} (h : cfg.HeaderOk) :
    (applyTables b cfg {}).2 = .ok () ↔ PlacesOn b cfg := by
  unfold PlacesOn
  constructor
  · intro hok
    have hplace := (place_of_applyTables hok).2
    rwa [teardown_blank] at hplace
  · intro hplace
    rw [applyTables_ok h (by rw [teardown_blank]; exact hplace)]

/-- The live inputs and outputs are those that the preset named by
`g_currentModelName` decodes to. The preset is loaded anew here, from the
storage as `setup()` leaves it. -/
def RunsNamedPreset (b : Board) (n : NvsStore) (s : Sketch) : Prop :=
  ∃ cfg, ((loadAnyPreset s.currentModelName).eval nvsDevice n).1 = .ok cfg ∧
    (applyTables b cfg {}).2 = .ok () ∧
    s.rc.virtualInputs = (applyTables b cfg {}).1.virtualInputs ∧
    s.rc.bank.outputs = (applyTables b cfg {}).1.bank.outputs

/-- The device runs the stored boot preset, or fell back to the car. -/
def NamesBootPreset (n : NvsStore) (s : Sketch) : Prop :=
  s.bootModelName = s.currentModelName ∧
    (s.currentModelName = n.bootName ∨ s.currentModelName = kPresetRcCar)

/-- **The preset named after boot.** On a board where the car applies, the
device runs the preset it names exactly when the stored boot preset cannot be
loaded or all its channels can be placed. -/
theorem boot_names_preset_iff {b : Board} (hcar : (applyTables b builtinPresetRcCar {}).2 = .ok ())
    (n : NvsStore) (now : UInt32) :
    RunsNamedPreset b ((setup b now).eval nvsDevice n).2 ((setup b now).eval nvsDevice n).1 ∧
        NamesBootPreset n ((setup b now).eval nvsDevice n).1 ↔
      ∀ cfg, n.load n.bootName = .ok cfg → PlacesOn b cfg := by
  have hkept := load_setup b now n
  rw [eval_setup, eval_startup]
  generalize ((setup b now).eval nvsDevice n).2 = n' at hkept
  -- the names are those of the chosen preset, whatever the apply does
  have hnames : NamesBootPreset n (Startup.booted b now ⟨(loadApSsid.eval nvsDevice n).1,
      (loadApPassword.eval nvsDevice n).1, n.bootPreset.1, n.bootPreset.2⟩) := by
    refine ⟨rfl, ?_⟩
    change n.bootPreset.1 = n.bootName ∨ n.bootPreset.1 = kPresetRcCar
    unfold NvsStore.bootPreset
    cases n.load n.bootName with
    | ok cfg => exact .inl rfl
    | error e => exact .inr rfl
  -- the tables are the named preset's when that was applied
  have hruns : RunsNamedPreset b n' (Startup.booted b now ⟨(loadApSsid.eval nvsDevice n).1,
      (loadApPassword.eval nvsDevice n).1, n.bootPreset.1, n.bootPreset.2⟩) ↔
      (applyTables b n.bootPreset.2 {}).2 = .ok () := by
    constructor
    · rintro ⟨cfg, hload, hok, -, -⟩
      rw [eval_load] at hload
      have hcfg : n.bootPreset.2 = cfg := Except.ok.inj (hkept.symm.trans hload)
      rw [hcfg]
      exact hok
    · intro hok
      refine ⟨n.bootPreset.2, ?_, hok, rfl, OutputBank.outputs_applyFailsafeAllOutputs _⟩
      rw [eval_load]
      exact hkept
  rw [and_iff_left hnames, hruns]
  unfold NvsStore.bootPreset
  cases hload : n.load n.bootName with
  | error e => exact ⟨fun _ cfg h => (by cases h), fun _ => hcar⟩
  | ok cfg =>
    rw [applyTables_blank_iff (load_headerOk hload)]
    refine ⟨fun h cfg' heq => ?_, fun h => h cfg rfl⟩
    obtain rfl := Except.ok.inj heq
    exact h

/-- A preset of the current format whose two switches ask for one pin. -/
def twoSwitches (pin : Pin) : PersistedConfig where
  magic := kConfigMagic
  version := kConfigVersion
  channels i :=
    if i.val < 2 then { used := 1, type := ChannelType.switch.toByte, pin := pin } else {}

/-- A storage that boots the preset `x`, with its blob. -/
def bootsX (cfg : PersistedConfig) : NvsStore where
  created := true
  get
    | .bootModel => some (.str (lit "x"))
    | .presetDir => some (.directory { freshDirectory with
        count := 1
        names := freshDirectory.names.setIfInBounds 0 (toCharArray (lit "x") CharBuf.zero) })
    | .pr 0 => some (.config cfg)
    | _ => none

theorem boot_names_preset_iff_stored_car :
    RunsNamedPreset smallBoard ((setup smallBoard 0).eval nvsDevice (bootsX builtinPresetRcCar)).2
        ((setup smallBoard 0).eval nvsDevice (bootsX builtinPresetRcCar)).1 ∧
      NamesBootPreset (bootsX builtinPresetRcCar)
        ((setup smallBoard 0).eval nvsDevice (bootsX builtinPresetRcCar)).1 ↔
    ∀ cfg, (bootsX builtinPresetRcCar).load (bootsX builtinPresetRcCar).bootName = .ok cfg →
      PlacesOn smallBoard cfg :=
  boot_names_preset_iff (by decide +kernel) _ 0

/-- The preset `x` loads and cannot be applied: the device runs no channel at
all under its name. -/
theorem boot_runs_empty :
    (applyTables smallBoard builtinPresetRcCar {}).2 = .ok () ∧
    let r := (setup smallBoard 0).eval nvsDevice (bootsX (twoSwitches 4))
    r.1.currentModelName = lit "x" ∧ r.1.modelDirty = false ∧
      (∀ i, r.1.rc.bank.outputs i = {}) ∧ ¬ RunsNamedPreset smallBoard r.2 r.1 := by
  have hname : ((setup smallBoard 0).eval nvsDevice (bootsX (twoSwitches 4))).1.currentModelName
      = lit "x" := by decide +kernel
  have hkept := load_setup smallBoard 0 (bootsX (twoSwitches 4))
  have hpreset : (bootsX (twoSwitches 4)).bootPreset = (lit "x", twoSwitches 4) := by
    decide +kernel
  refine ⟨by decide +kernel, hname, by decide +kernel, by decide +kernel, ?_⟩
  -- the preset that is named is the one that was booted, and its apply fails
  rintro ⟨cfg, hload, hok, -, -⟩
  rw [eval_load, hname] at hload
  rw [hpreset] at hkept
  dsimp only at hload hkept
  obtain rfl : twoSwitches 4 = cfg := Except.ok.inj (hkept.symm.trans hload)
  exact absurd hok (by decide +kernel)

end RcController
