import RcController.Device.Names

/-!
# Presets under reserved names

`model_create` saves to the user directory under any sanitized name. Loading compares the
name with four reserved spellings before it looks there, and deleting with three of them.
So a preset that is created under `car`, `excavator` or `skid_steer` is stored, but neither
loaded nor deleted under that name, and one that is created under the old name of the car is
deleted but not loaded, unless it is the car again.

`createdPreset_iff` is exact: from every state that requests without storage faults lead to,
for every name and every configuration.
-/

namespace RcController

open DeviceProg Runs

/-! ### Runs without storage faults -/

/-- No access to the storage fails during the event. A request is followed by a
restart when it asks for one, and that makes accesses of its own. -/
def Faultless : Event → Prop
  | .request _ plan restartPlan => (∀ k o, plan k o = false) ∧ ∀ k o, restartPlan k o = false
  | _ => True

section Keeps

variable {b : Board} {s : System}

/-- **Without storage faults the storage keeps presets**, whatever happens. Only
a request gets at the storage: its handler is a transition of the map of
presets, and the boot after it reads. -/
theorem keeps_step (h : ∃ m, Keeps s.nvs m) {event : Event} (hevent : Faultless event) :
    ∃ m, Keeps (s.step b event).nvs m := by
  obtain ⟨m, hm⟩ := h
  cases event with
  | request r plan restartPlan =>
    obtain ⟨hplan, hrestart⟩ := hevent
    change ∃ m, Keeps (s.request b r plan restartPlan).nvs m
    unfold System.request
    dsimp only
    rw [Prog.run_of_noFault nvsDevice hplan]
    obtain ⟨m', hm', -⟩ := ensures_handleRequest b s.millis r s.sketch m s.nvs hm
    -- either the device restarts with what the handler left, or it goes on
    split
    · exact ⟨m', (booted_boot hm' b hrestart 0).1⟩
    · exact ⟨m', hm'⟩
  -- nothing else gets at the storage
  | tick _ => exact ⟨m, hm⟩
  | schedulerTick => exact ⟨m, hm⟩
  | connect _ _ => exact ⟨m, hm⟩
  | disconnect _ => exact ⟨m, hm⟩
  | elapse _ => exact ⟨m, hm⟩

/-- So it does after any run of them. Which presets are kept depends on the run,
hence the quantifier in the invariant. -/
theorem keeps_run (h : ∃ m, Keeps s.nvs m) {events : List Event}
    (hevents : ∀ e ∈ events, Faultless e) : ∃ m, Keeps (run (System.step b) s events).nvs m :=
  run_invariant (I := fun s : System => ∃ m, Keeps s.nvs m) (fun _ _ h he => keeps_step h he) h
    (stepsMeet_of_mem hevents s)

/-- A name is listed when the map has it. The directory is searched without
regard to case and the map is keyed by the folded name, so one is asked by its
text and the other by its key. -/
theorem listed_iff {n : NvsStore} {m : PresetMap} (h : Keeps n m) {name : Str}
    (hname : SanitizedName name) :
    findPresetSlotByName n.directory name = none ↔ presetKey name ∉ m.entries := by
  obtain ⟨sh, hsh, rfl⟩ := h
  rw [hsh.findSlot hname, Shelf.mem_map, sanitize_of_sanitized hname]
  cases sh.slot name <;> simp

end Keeps

/-! ### Creating and deleting -/

section Requests

variable {b : Board} {s : System} {m : PresetMap} {r : Request}

/-- A `model_create` that replies ok has saved the configuration. The directory
may be full, and then the reply is an error; that it was not is part of the
conclusion. -/
theorem keeps_created (h : Keeps s.nvs m) (hend : r.endpoint = .modelCreate) {cfg : PersistedConfig}
    (hcfg : ((newModelConfig r.args s.sketch).eval nvsDevice s.nvs).1 = .ok cfg)
    (hok : ((handleRequest b s.millis r s.sketch).eval nvsDevice s.nvs).1.2.ok = true) :
    ∃ hfits : m.Fits (presetKey r.modelName),
      Keeps (s.step b (faultless r)).nvs (m.insert (presetKey r.modelName) cfg hfits) := by
  -- what the reply says about the storage
  have hcreate : OnPresets m (handleApiModelCreate b r.args s.sketch) fun x m' => x.2.ok = true →
      ∃ hfits : m.Fits (presetKey r.modelName),
        m' = m.insert (presetKey r.modelName) cfg hfits := by
    obtain ⟨-, -, hcreated, -⟩ := ensures_newModelConfig m r.args s.sketch s.nvs h
    rw [hcfg] at hcreated
    refine (ensures_newModelConfig m r.args s.sketch).bind ?_
    rintro config m' ⟨hconfig, rfl, hheader⟩
    rw [← hcreated] at hconfig
    subst hconfig
    refine (ensures_saveUserPreset m' r.modelName (hheader cfg rfl)).bind ?_
    rintro saved m'' (⟨hfits, rfl, rfl⟩ | ⟨-, ⟨e, rfl⟩, rfl⟩)
    · exact ensures_applied (fun _ => Prog.ensures_pure fun _ => ⟨hfits, rfl⟩) fun _ _ =>
        Prog.ensures_pure fun _ => ⟨hfits, rfl⟩
    · exact Prog.ensures_pure fun hok => (by cases hok)
  have hhandler : handleRequest b s.millis r s.sketch = handleApiModelCreate b r.args s.sketch := by
    unfold handleRequest
    rw [hend]
  have hstep : (s.step b (faultless r)).nvs
      = ((handleRequest b s.millis r s.sketch).eval nvsDevice s.nvs).2 := by
    change (s.request b r _ _).nvs = _
    rw [request_of_noFault (by simp [hend]) fun _ _ => rfl]
  rw [hstep]
  rw [hhandler] at hok ⊢
  -- without faults the run of the handler is its evaluation, to which the fact applies
  obtain ⟨m', hm', hsaved⟩ := hcreate s.nvs h
  obtain ⟨hfits, rfl⟩ := hsaved hok
  exact ⟨hfits, hm'⟩

/-- What a `model_delete` leaves. The name is gone when the handler does not
refuse it, and also when it was never there. The cases are those of the
transition; all but the last two belong to other endpoints. -/
theorem listed_deleted (h : Keeps s.nvs m) (hend : r.endpoint = .modelDelete)
    {plan restartPlan : Prog.Plan nvsInterface} (hplan : ∀ k o, plan k o = false) :
    findPresetSlotByName (s.step b (.request r plan restartPlan)).nvs.directory r.modelName = none ↔
      isReadonlyModel r.modelName = false ∨ presetKey r.modelName ∉ m.entries := by
  have hreboot : r.endpoint ≠ .apConfigApplyReboot := by simp [hend]
  obtain ⟨m', hm', htransition⟩ : ∃ m', Keeps (s.request b r plan restartPlan).nvs m' ∧
      Transition b s.millis r s.sketch m (s.request b r plan restartPlan).sketch m' :=
    transition_request hreboot hplan h
  change findPresetSlotByName (s.request b r plan restartPlan).nvs.directory r.modelName = none ↔ _
  rw [listed_iff hm' (sanitizedName_modelName r)]
  have hother : ∀ {endpoint : Endpoint}, r.endpoint = endpoint → endpoint = .modelDelete :=
    fun h => h.symm.trans hend
  generalize (s.request b r plan restartPlan).sketch = s' at htransition
  cases htransition with
  | same hne _ => exact absurd hend hne
  | edited himmediate _ =>
    rw [hend] at himmediate
    exact himmediate.elim
  | presetApplied hne _ => cases hother hne
  | defaultSet hne _ => cases hother hne
  | created hne _ _ _ => cases hother hne
  | saved hne _ _ => cases hother hne
  | reverted hne _ => cases hother hne
  -- refused for the name, or for want of a preset under it
  | notDeleted _ hrefused =>
    refine ⟨.inr, fun h => h.elim (fun hwrite => ?_) id⟩
    exact hrefused.resolve_left (by simp [hwrite])
  | deleted _ hwrite _ =>
    refine iff_of_true (fun hmem => ?_) (.inl hwrite)
    exact (Finmap.mem_erase.mp hmem).1 rfl

end Requests

/-! ### What a created preset is good for -/

/-- The preset loads as it was stored, and it can be deleted: whatever happens
in between, a later `model_delete` of the name leaves nothing under it. -/
def LoadsAndDeletes (b : Board) (s : System) (name : Str) (cfg : PersistedConfig) : Prop :=
  ((loadAnyPreset name).eval nvsDevice s.nvs).1 = .ok cfg ∧
    ∀ events : List Event, (∀ e ∈ events, Faultless e) →
      ∀ r : Request, r.endpoint = .modelDelete → r.modelName = name →
        findPresetSlotByName
          ((run (System.step b) s events).step b (faultless r)).nvs.directory name = none

/-- A name the delete handler refuses is built in. The handler knows three names
and the load four; the old name of the car is the fourth. -/
theorem builtinPreset_of_readonly {name : Str} (h : isReadonlyModel name = true) :
    name ≠ kPresetRcCarLegacy ∧ (builtinPreset name).isSome = true := by
  simp only [isReadonlyModel, Bool.or_eq_true, decide_eq_true_eq] at h
  rcases h with (rfl | rfl) | rfl <;> decide

/-- The reserved name that may be deleted is the old name of the car, under
which the car itself is loaded. -/
theorem legacy_of_builtin {name : Str} {cfg : PersistedConfig}
    (h : builtinPreset name = some cfg) (hwrite : isReadonlyModel name = false) :
    name = kPresetRcCarLegacy ∧ cfg = builtinPresetRcCar := by
  simp only [isReadonlyModel, Bool.or_eq_false_iff, decide_eq_false_iff_not] at hwrite
  obtain ⟨⟨hcar, hexcavator⟩, hskid⟩ := hwrite
  unfold builtinPreset at h
  split at h
  · next hlegacy => exact ⟨hlegacy, (Option.some.inj h).symm⟩
  · cases h

/-- **When a created preset can be loaded back and deleted.** From a boot on a
storage that keeps presets, after any events without storage faults: a
`model_create` that replies ok leaves a preset that loads as stored and that
every later delete removes, exactly when its name is not reserved, or is the old
name of the car and the preset is the car. -/
theorem createdPreset_iff (b : Board) {nvs : NvsStore} {m : PresetMap} (h : Keeps nvs m)
    {plan : Prog.Plan nvsInterface} (hplan : ∀ k o, plan k o = false) (millis : UInt32)
    {events : List Event} (hevents : ∀ e ∈ events, Faultless e) {r : Request}
    (hend : r.endpoint = .modelCreate) {cfg : PersistedConfig} :
    let s := run (System.step b) (System.boot b nvs plan millis) events
    ((newModelConfig r.args s.sketch).eval nvsDevice s.nvs).1 = .ok cfg →
    ((handleRequest b s.millis r s.sketch).eval nvsDevice s.nvs).1.2.ok = true →
    (LoadsAndDeletes b (s.step b (faultless r)) r.modelName cfg ↔
      builtinPreset r.modelName = none ∨
        r.modelName = kPresetRcCarLegacy ∧ cfg = builtinPresetRcCar) := by
  intro s hcfg hok
  have hstart : ∃ m, Keeps (System.boot b nvs plan millis).nvs m :=
    ⟨m, (booted_boot h b hplan millis).1⟩
  obtain ⟨m₀, hm₀⟩ := keeps_run (b := b) hstart hevents
  obtain ⟨hfits, hcreated⟩ := keeps_created (b := b) hm₀ hend hcfg hok
  have hmem : presetKey r.modelName ∈ (m₀.insert (presetKey r.modelName) cfg hfits).entries :=
    Finmap.mem_insert.mpr (.inl rfl)
  -- loading: a built-in preset is found first
  have hown : PresetMap.load (m₀.insert (presetKey r.modelName) cfg hfits) r.modelName
      = .ok cfg := by
    unfold PresetMap.load
    rw [BoundedMap.lookup_insert, if_pos rfl]
  have hload : ((loadAnyPreset r.modelName).eval nvsDevice (s.step b (faultless r)).nvs).1
      = PresetMap.loadAny (m₀.insert (presetKey r.modelName) cfg hfits) r.modelName := by
    obtain ⟨-, -, heval, -⟩ := ensures_loadAnyPreset _ r.modelName _ hcreated
    exact heval
  -- deleting: the handler refuses three names
  have hdelete : (∀ later : List Event, (∀ e ∈ later, Faultless e) →
      ∀ r' : Request, r'.endpoint = .modelDelete → r'.modelName = r.modelName →
        findPresetSlotByName ((run (System.step b) (s.step b (faultless r)) later).step b
          (faultless r')).nvs.directory r.modelName = none) ↔
      isReadonlyModel r.modelName = false := by
    constructor
    · intro hgone
      -- deleted at once, the preset is still there
      have hnow := hgone [] (by simp) { endpoint := .modelDelete, args := r.args } rfl rfl
      rw [run_nil] at hnow
      refine ((listed_deleted hcreated rfl fun _ _ => rfl).mp hnow).resolve_right ?_
      exact not_not_intro hmem
    · intro hwrite later hlater r' hend' hsame
      obtain ⟨m', hm'⟩ := keeps_run (b := b) ⟨_, hcreated⟩ hlater
      rw [← hsame] at hwrite ⊢
      exact (listed_deleted hm' hend' fun _ _ => rfl).mpr (.inl hwrite)
  unfold LoadsAndDeletes
  rw [hload, hdelete]
  unfold PresetMap.loadAny
  cases hbuiltin : builtinPreset r.modelName with
  | none =>
    refine iff_of_true ⟨hown, ?_⟩ (.inl rfl)
    by_contra hreadonly
    have hsome := (builtinPreset_of_readonly (by simpa using hreadonly)).2
    rw [hbuiltin] at hsome
    cases hsome
  | some builtin =>
    constructor
    · rintro ⟨hsame, hwrite⟩
      obtain ⟨hlegacy, rfl⟩ := legacy_of_builtin hbuiltin hwrite
      exact .inr ⟨hlegacy, (Except.ok.inj hsame).symm⟩
    · rintro (hnone | ⟨hlegacy, rfl⟩)
      · cases hnone
      · have hwrite : isReadonlyModel r.modelName = false := by
          rw [hlegacy]
          decide
        rw [hlegacy] at hbuiltin
        exact ⟨congrArg Except.ok (Option.some.inj hbuiltin).symm, hwrite⟩

/-- The model `Crawler`, created right after boot. -/
theorem createdPreset_iff_crawler :
    LoadsAndDeletes smallBoard
        ((System.boot smallBoard {} (fun _ _ => false) 0).step smallBoard
          (faultless (createModel "Crawler")))
        (createModel "Crawler").modelName { magic := kConfigMagic, version := kConfigVersion } ↔
      builtinPreset (createModel "Crawler").modelName = none ∨
        (createModel "Crawler").modelName = kPresetRcCarLegacy ∧
          { magic := kConfigMagic, version := kConfigVersion } = builtinPresetRcCar :=
  createdPreset_iff smallBoard keeps_empty (fun _ _ => rfl) 0
    (show ∀ e ∈ ([] : List Event), Faultless e by simp) rfl (by decide +kernel) (by decide +kernel)

/-- An empty model is created as `car`. The reply is ok, the name loads the
built-in car, and the preset cannot be deleted. Nothing in `model_create`
compares the name with the reserved ones. -/
theorem create_shadowed_by_car :
    let s := System.boot smallBoard {} (fun _ _ => false) 0
    let s' := s.step smallBoard (faultless (createModel "car"))
    ((handleRequest smallBoard s.millis (createModel "car") s.sketch).eval nvsDevice
        s.nvs).1.2.ok = true ∧
      ((newModelConfig (createModel "car").args s.sketch).eval nvsDevice s.nvs).1
        = .ok { magic := kConfigMagic, version := kConfigVersion } ∧
      findPresetSlotByName s'.nvs.directory (lit "car") = some 0 ∧
      findPresetSlotByName (s'.step smallBoard (faultless (deleteModel "car"))).nvs.directory
        (lit "car") = some 0 ∧
      ¬ LoadsAndDeletes smallBoard s' (lit "car")
        { magic := kConfigMagic, version := kConfigVersion } := by
  refine ⟨by decide +kernel, by decide +kernel, by decide +kernel, by decide +kernel, fun h => ?_⟩
  -- the name loads the built-in preset, which drives, and the new one is empty
  have hcar : (Except.ok builtinPresetRcCar : Except String PersistedConfig)
      = .ok { magic := kConfigMagic, version := kConfigVersion } := h.1
  exact absurd hcar (by decide +kernel)

end RcController
