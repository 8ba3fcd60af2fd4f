import RcController.Device.Created
import RcController.Device.Ranges
import RcController.Wiring.Saved

/-!
# Clean means saved

`g_modelDirty` is cleared by every request that makes the tables those of a stored model,
and by some that do not. `StaysSaved` lists, request by request, what has to hold before
it so that a device that is clean after it would not be changed by `model_revert`.

The live tables, the name and the stored presets are compared through the map of presets
(`ModelSaved`). The only part of the argument that looks at the hardware is what an apply
does to saved tables (`modelSaved_applied_iff`); the requests differ in the preset that is
applied and in what the two names load afterwards.

`cleanIsSaved_iff` is exact: along any run without storage faults, clean means saved in
every state if and only if every request meets its condition.
-/

namespace RcController

open DeviceProg OutputBank Runs

/-- **`model_revert` would change nothing**: the current model can be loaded,
and applying it succeeds and leaves both tables as they are. -/
def RevertIdle (b : Board) (s : System) : Prop :=
  ∃ cfg, ((loadAnyPreset s.sketch.currentModelName).eval nvsDevice s.nvs).1 = .ok cfg ∧
    let r := ((applyPersistedConfig b cfg s.sketch.rc).eval nvsDevice s.nvs).1
    r.2 = .ok () ∧ r.1.virtualInputs = s.sketch.rc.virtualInputs ∧
      r.1.bank.outputs = s.sketch.rc.bank.outputs

/-- **Clean means saved.** About a device that is dirty nothing is said: it does
not claim to be saved. -/
def CleanIsSaved (b : Board) (s : System) : Prop := s.sketch.modelDirty = false → RevertIdle b s

/-- The same over the map of presets, where the condition on the tables does not
mention the storage (`Saved`). -/
def ModelSaved (b : Board) (m : PresetMap) (s : Sketch) : Prop :=
  s.modelDirty = false → ∃ cfg, m.loadAny s.currentModelName = .ok cfg ∧ Saved b cfg s.rc

/-! ### What a name loads -/

/-- The name does not load the preset under the key: it is built in, or has
another key. -/
def Apart (name key : Str) : Prop := (builtinPreset name).isSome = true ∨ presetKey name ≠ key

section Loading

variable {m : PresetMap} {name key : Str} {cfg : PersistedConfig}

/-- What a name loads has the current format. -/
theorem Keeps.loadAny_headerOk {n : NvsStore} (h : Keeps n m) (hload : m.loadAny name = .ok cfg) :
    cfg.HeaderOk := by
  obtain ⟨m', -, heval, -, hheader⟩ := ensures_loadAnyPreset m name n h
  exact hheader cfg (heval.trans hload)

/-- Two maps load the same under a name that is apart from the key they differ
in. -/
theorem loadAny_congr {m' : PresetMap} (h : Apart name key)
    (hlookup : ∀ k, k ≠ key → m'.lookup k = m.lookup k) : m'.loadAny name = m.loadAny name := by
  unfold PresetMap.loadAny
  cases hbuiltin : builtinPreset name with
  | some c => rfl
  | none =>
    have hkey : presetKey name ≠ key := h.resolve_left (by simp [hbuiltin])
    unfold PresetMap.load
    rw [hlookup _ hkey]

/-- A preset saved under another key does not change what a name loads, and
neither does a preset deleted under another key. -/
theorem loadAny_insert_apart (h : Apart name key) (hfits : m.Fits key) :
    PresetMap.loadAny (m.insert key cfg hfits) name = m.loadAny name :=
  loadAny_congr h fun k hk => by rw [BoundedMap.lookup_insert, if_neg hk]

theorem loadAny_erase_apart (h : Apart name key) :
    PresetMap.loadAny (m.erase key) name = m.loadAny name :=
  loadAny_congr h fun k hk => by rw [BoundedMap.lookup_erase, if_neg hk]

/-- A name loads the preset stored under its key, unless it is built in. -/
theorem loadAny_insert_self (cfg : PersistedConfig) (hfits : m.Fits (presetKey name)) :
    PresetMap.loadAny (m.insert (presetKey name) cfg hfits) name
      = .ok ((builtinPreset name).getD cfg) := by
  unfold PresetMap.loadAny
  cases builtinPreset name with
  | some c => rfl
  | none =>
    unfold PresetMap.load
    dsimp only
    rw [BoundedMap.lookup_insert, if_pos rfl]
    rfl

/-- A preset saved under the key of a name is what the name loads from then on. -/
theorem loadAny_insert_shared (h : ¬ Apart name key) (hfits : m.Fits key) :
    PresetMap.loadAny (m.insert key cfg hfits) name = .ok cfg := by
  unfold Apart at h
  push Not at h
  obtain ⟨hbuiltin, rfl⟩ := h
  rw [loadAny_insert_self]
  cases hname : builtinPreset name with
  | some c => simp [hname] at hbuiltin
  | none => rfl

/-- After a delete under its key a name loads nothing. -/
theorem loadAny_erase_shared (h : ¬ Apart name key) (cfg : PersistedConfig) :
    PresetMap.loadAny (m.erase key) name ≠ .ok cfg := by
  unfold Apart at h
  push Not at h
  obtain ⟨hbuiltin, rfl⟩ := h
  unfold PresetMap.loadAny
  cases hname : builtinPreset name with
  | some c => simp [hname] at hbuiltin
  | none =>
    unfold PresetMap.load
    dsimp only
    rw [BoundedMap.lookup_erase, if_pos rfl]
    exact nofun

end Loading

/-- **Clean means saved, over the map of presets.** On a board whose servos
attach, whether an apply changes anything can be told from the preset and the
tables. -/
theorem cleanIsSaved_iff_modelSaved {b : Board} (hb : b.Reliable) {s : System} {m : PresetMap}
    (h : Keeps s.nvs m) : CleanIsSaved b s ↔ ModelSaved b m s.sketch := by
  obtain ⟨-, -, hload, -, -⟩ := ensures_loadAnyPreset m s.sketch.currentModelName s.nvs h
  unfold CleanIsSaved ModelSaved RevertIdle
  refine forall_congr' fun _ => exists_congr fun cfg => ?_
  rw [hload, (applyPersistedConfig_always b cfg s.sketch.rc).eval nvsDevice s.nvs]
  exact and_congr_right fun _ => appliesIdle_iff hb

/-! ### One apply -/

/-- **An apply is safe.** It goes through, and the blob has the tables of `c`,
which is what the new name loads; or it is rejected, and then the device is
dirty, or every servo comes back to its pin and `kept` holds: the old name loads
what it did. -/
def AppliesSafely (b : Board) (cfg c : PersistedConfig) (kept : Prop) (s : Sketch) : Prop :=
  SameTables b cfg c ∨
    Rejects b cfg s.rc.bank ∧ (s.modelDirty = true ∨
      kept ∧ RestoresPins b s.rc.bank (s.rc.bank.teardown.placeChannels b cfg).1.outputs)

section Applied

variable {b : Board} {m m' : PresetMap} {s s' : Sketch} {name : Str} {cfg c : PersistedConfig}

/-- Flag, name and tables are all that counts. -/
theorem ModelSaved.congr (h : ModelSaved b m s)
    (hcurrent : s'.currentModelName = s.currentModelName)
    (hdirty : s'.modelDirty = s.modelDirty) (hinputs : s'.rc.virtualInputs = s.rc.virtualInputs)
    (houtputs : s'.rc.bank.outputs = s.rc.bank.outputs) : ModelSaved b m s' := by
  intro hclean
  obtain ⟨cfg, hload, hsaved⟩ := h (hdirty ▸ hclean)
  exact ⟨cfg, by rwa [hcurrent], hsaved.congr hinputs houtputs⟩

/-- A clean device, whose name loads a known preset. -/
theorem modelSaved_iff_of_clean (hclean : s.modelDirty = false)
    (hload : m.loadAny s.currentModelName = .ok c) : ModelSaved b m s ↔ Saved b c s.rc := by
  constructor
  · intro h
    obtain ⟨cfg, hcfg, hsaved⟩ := h hclean
    obtain rfl := Except.ok.inj (hload.symm.trans hcfg)
    exact hsaved
  · exact fun hsaved _ => ⟨c, hload, hsaved⟩

/-- **What an apply under a name does to saved tables.** The map may have
changed before it: `m'` is what is stored when the apply is made, `c` what the
new name loads from it. When the apply goes through, the tables are those of
`cfg`, and the new name has to load the same. When it is rejected the old name
stays, and a clean device needs it to load what it did (`kept`) and its tables
to have survived the rollback. -/
theorem modelSaved_applied_iff (hb : b.Reliable) (hs : ModelSaved b m s) (hcfg : cfg.HeaderOk)
    (hc : c.HeaderOk) {kept : Prop} (hnew : m'.loadAny name = .ok c)
    (hkept : kept → m'.loadAny s.currentModelName = m.loadAny s.currentModelName)
    (hlost : ¬ kept → m'.loadAny s.currentModelName = .ok cfg) :
    ModelSaved b m' (s.applied b cfg name) ↔ AppliesSafely b cfg c kept s := by
  unfold AppliesSafely
  -- the apply decides which of the two disjuncts can hold
  cases happly : (applyTables b cfg s.rc).2 with
  | ok _ =>
    rw [Sketch.applied_ok happly, or_iff_left fun h => not_rejects_of_applied happly h.1,
      ← saved_applied_iff hb hc happly]
    exact modelSaved_iff_of_clean rfl hnew
  | error e =>
    have hrejects := rejects_of_error hcfg happly
    have hstop : ¬ LaysOut b cfg := fun hlays => hlays.not_rejects hb _ hrejects
    rw [Sketch.applied_error happly, or_iff_right fun h => hstop h.laysOut, and_iff_right hrejects]
    by_cases hclean : s.modelDirty = false
    swap
    · exact iff_of_true (fun h => absurd h hclean) (.inl (by simpa using hclean))
    rw [or_iff_right (by simp [hclean])]
    obtain ⟨old, hold, hsaved⟩ := hs hclean
    by_cases hkeep : kept
    · -- the old name loads what it did, so it depends on where the rollback leaves the pins
      rw [and_iff_right hkeep, ← saved_rejected_iff hb hcfg hsaved hrejects]
      exact modelSaved_iff_of_clean hclean ((hkept hkeep).trans hold)
    · -- the old name now loads the rejected preset
      refine iff_of_false (fun h => ?_) fun h => hkeep h.1
      obtain ⟨c', hload, hsaved'⟩ := h hclean
      obtain rfl := Except.ok.inj ((hlost hkeep).symm.trans hload)
      exact hstop hsaved'.laysOut

end Applied

/-! ### The requests -/

/-- A save is safe when the tables come back from their export. A name that is
built in loads the built-in preset whatever is saved. -/
def SavesSafely (b : Board) (s : Sketch) : Prop :=
  match builtinPreset s.currentModelName with
  | some cfg => Saved b cfg s.rc
  | none => WiringOk b s.rc.bank.outputs ∧
      ∀ i, (s.rc.bank.outputs i).used = true → (s.rc.bank.outputs i).pwmFailsafeMode = .min

/-- A delete is safe when the preset the device falls back to can be laid out;
and when the device does not fall back, if it is dirty or its model was another
one. -/
def DeletesSafely (b : Board) (m : PresetMap) (name : Str) (s : Sketch) : Prop :=
  if s.currentModelName = name then
    LaysOut b (PresetMap.bootModel (m.erase (presetKey name)) (s.bootReset name).bootModelName).2
  else s.modelDirty = true ∨ Apart s.currentModelName (presetKey name)

/-- What `ap_config_apply_reboot` asks of its arguments. The password is
sanitized twice, once by the handler and once by `saveApPassword`. -/
def ApConfigAccepted (args : Args) : Prop :=
  args.hasArg .ssid = true ∧ args.hasArg .password = true ∧
    isValidApPassword (sanitizeApPassword (args.arg .password)) = true ∧
    isValidApPassword (sanitizeApPassword (sanitizeApPassword (args.arg .password))) = true

/-- **What has to hold before a request** so that clean means saved after it.
`m` are the stored presets. The cases are the requests that set the name, clear
the flag or write presets; the others need nothing. -/
def RequestStaysSaved (b : Board) (m : PresetMap) (r : Request) (s : System) : Prop :=
  match r.endpoint with
  | .presetApply =>
    ∀ cfg, m.loadAny r.modelName = .ok cfg → AppliesSafely b cfg cfg True s.sketch
  | .modelRevert =>
    ∀ cfg, m.loadAny s.sketch.currentModelName = .ok cfg → AppliesSafely b cfg cfg True s.sketch
  | .modelCreate =>
    ∀ cfg, createdConfig m r.args s.sketch = .ok cfg → m.Fits (presetKey r.modelName) →
      AppliesSafely b cfg ((builtinPreset r.modelName).getD cfg)
        (Apart s.sketch.currentModelName (presetKey r.modelName)) s.sketch
  | .modelSaveCurrent =>
    isReadonlyModel s.sketch.currentModelName = false →
      m.Fits (presetKey s.sketch.currentModelName) → SavesSafely b s.sketch
  | .modelDelete =>
    isReadonlyModel r.modelName = false → presetKey r.modelName ∈ m.entries →
      DeletesSafely b m r.modelName s.sketch
  | .apConfigApplyReboot =>
    -- the restart boots the stored boot preset; the request has created the namespace by then
    ApConfigAccepted r.args →
      LaysOut b (m.bootModel ({ s.nvs with created := true } : NvsStore).bootName).2
  | _ => True

/-- What has to hold before an event. Only requests can break the property. -/
def StaysSaved (b : Board) (s : System) : Event → Prop
  | .request r _ _ => ∀ m, Keeps s.nvs m → RequestStaysSaved b m r s
  | _ => True

section Requests

variable {b : Board} {m : PresetMap} {r : Request} {s : Sketch}

/-- **`preset_apply`, and `model_revert` under the current name.** -/
theorem modelSaved_named_iff (hb : b.Reliable) (hs : ModelSaved b m s) {name : Str}
    {cfg : PersistedConfig} (hcfg : cfg.HeaderOk) (hload : m.loadAny name = .ok cfg) :
    ModelSaved b m (s.applied b cfg name) ↔ AppliesSafely b cfg cfg True s :=
  modelSaved_applied_iff hb hs hcfg hcfg hload (fun _ => rfl) fun h => absurd trivial h

/-- The condition on a preset that was looked up. -/
theorem forall_loaded_iff {loaded : Except String PersistedConfig} {cfg : PersistedConfig}
    {P : PersistedConfig → Prop} (h : loaded = .ok cfg) :
    (∀ cfg', loaded = .ok cfg' → P cfg') ↔ P cfg := by
  rw [h]
  exact ⟨fun hall => hall cfg rfl, fun hP cfg' heq => Except.ok.inj heq ▸ hP⟩

/-- The condition of both requests that apply what they load. -/
theorem modelSaved_of_appliedNamed (hb : b.Reliable) (hs : ModelSaved b m s) {name : Str}
    {s' : Sketch} {m' : PresetMap} (h : AppliedNamed b s m name s' m') : ModelSaved b m' s' ↔
      ∀ cfg, m.loadAny name = .ok cfg → AppliesSafely b cfg cfg True s := by
  cases h with
  | unknown hload =>
    rw [hload]
    exact iff_of_true hs nofun
  | applied hload hcfg =>
    rw [forall_loaded_iff hload]
    exact modelSaved_named_iff hb hs hcfg hload

/-- `preset_apply` needs a safe apply of what the name of the request loads, and
`model_revert` of what the current name loads. -/
theorem presetApply_saved (hb : b.Reliable) (hs : ModelSaved b m s) :
    OnPresets m (handleApiPresetApply b r.args s) fun x m' => ModelSaved b m' x.1 ↔
      ∀ cfg, m.loadAny r.modelName = .ok cfg → AppliesSafely b cfg cfg True s :=
  appliedNamed_presetApply.mono fun _ _ h => modelSaved_of_appliedNamed hb hs h

theorem modelRevert_saved (hb : b.Reliable) (hs : ModelSaved b m s) :
    OnPresets m (handleApiModelRevert b s) fun x m' => ModelSaved b m' x.1 ↔
      ∀ cfg, m.loadAny s.currentModelName = .ok cfg → AppliesSafely b cfg cfg True s :=
  appliedNamed_modelRevert.mono fun _ _ h => modelSaved_of_appliedNamed hb hs h

/-- The built-in presets have the current format, and so has what replaces
one. -/
theorem builtinPreset_getD_headerOk {cfg : PersistedConfig} (h : cfg.HeaderOk) (name : Str) :
    ((builtinPreset name).getD cfg).HeaderOk := by
  cases hbuiltin : builtinPreset name with
  | some c => exact builtinPreset_headerOk hbuiltin
  | none => exact h

/-- **`model_create`.** The preset is stored before it is applied, and stays
when the apply is rejected. So the new name loads it in both cases, unless it is
built in; and the old name does when it has the same key. -/
theorem modelCreate_saved (hb : b.Reliable) (hs : ModelSaved b m s) :
    OnPresets m (handleApiModelCreate b r.args s) fun x m' => ModelSaved b m' x.1 ↔
      ∀ cfg, createdConfig m r.args s = .ok cfg → m.Fits (presetKey r.modelName) →
        AppliesSafely b cfg ((builtinPreset r.modelName).getD cfg)
          (Apart s.currentModelName (presetKey r.modelName)) s := by
  refine (ensures_newModelConfig m r.args s).bind ?_
  rintro config m' ⟨hconfig, rfl, hheader⟩
  cases config with
  -- no configuration to start from: the reply is an error and nothing has changed
  | error e =>
    rw [← hconfig]
    exact Prog.ensures_pure (iff_of_true hs nofun)
  | ok cfg =>
    have hcfg := hheader cfg rfl
    refine (ensures_saveUserPreset m' r.modelName hcfg).bind ?_
    rintro saved m'' (⟨hfits, rfl, rfl⟩ | ⟨hfull, ⟨e, rfl⟩, rfl⟩)
    · refine (ensures_appliedAs (fun _ => ⟨_, rfl⟩) fun _ _ => ⟨_, rfl⟩).mono ?_
      rintro x m'' ⟨hx, rfl⟩
      rw [hx, forall_loaded_iff hconfig.symm]
      -- saved and applied, the model is compared with what its name loads now
      have hiff := modelSaved_applied_iff hb hs hcfg (builtinPreset_getD_headerOk hcfg r.modelName)
        (loadAny_insert_self cfg hfits) (fun hapart => loadAny_insert_apart hapart hfits)
        fun hshared => loadAny_insert_shared hshared hfits
      exact hiff.trans ⟨fun h _ => h, fun h => h hfits⟩
    · -- the directory is full
      exact Prog.ensures_pure (iff_of_true hs fun _ _ hfits => absurd hfits hfull)

/-- **`model_save_current`.** The flag is cleared, so the tables have to come
back from their export, or from the built-in preset that the name loads
instead. -/
theorem modelSaveCurrent_saved (hs : ModelSaved b m s) (htables : TablesOk s.rc) (millis : UInt32) :
    OnPresets m (handleApiModelSaveCurrent millis s) fun x m' => ModelSaved b m' x.1 ↔
      (isReadonlyModel s.currentModelName = false → m.Fits (presetKey s.currentModelName) →
        SavesSafely b s) := by
  unfold handleApiModelSaveCurrent
  split
  · -- a built-in model is not saved, and a name is suggested
    next hreadonly =>
    refine (ensures_of_reads m (reads_nextAvailableCustomModelName _ _)).bind ?_
    rintro suggested m' rfl
    exact Prog.ensures_pure (iff_of_true hs fun hwrite => (by simp [hwrite] at hreadonly))
  · next hwrite =>
    refine (ensures_saveUserPreset m s.currentModelName ⟨rfl, rfl⟩).bind ?_
    rintro saved m' (⟨hfits, rfl, rfl⟩ | ⟨hfull, ⟨e, rfl⟩, rfl⟩)
    · refine (ensures_saveRuntimeConfigToNvs _ s.rc).bind ?_
      rintro - m' ⟨-, rfl⟩
      refine Prog.ensures_pure ?_
      have hload := loadAny_insert_self (exportCurrentConfig s.rc) hfits
      -- a name that is built in loads the built-in preset, whatever was saved
      have hsafe : SavesSafely b s ↔
          Saved b ((builtinPreset s.currentModelName).getD (exportCurrentConfig s.rc)) s.rc := by
        unfold SavesSafely
        cases builtinPreset s.currentModelName with
        | some c => exact Iff.rfl
        | none => exact (saved_export_iff htables).symm
      have hcond : (isReadonlyModel s.currentModelName = false →
          m.Fits (presetKey s.currentModelName) → SavesSafely b s) ↔ SavesSafely b s :=
        ⟨fun h => h (by simpa using hwrite) hfits, fun h _ _ => h⟩
      rw [hcond, hsafe]
      exact modelSaved_iff_of_clean (s := { s with modelDirty := false }) rfl hload
    · exact Prog.ensures_pure (iff_of_true hs fun _ hfits => absurd hfits hfull)

/-- The fall-back ignores the result of its apply. -/
theorem modelSaved_fallenBack_iff (hb : b.Reliable) {n : NvsStore} (hn : Keeps n m) :
    ModelSaved b m (s.fallenBack b m) ↔ LaysOut b (m.bootModel s.bootModelName).2 := by
  unfold Sketch.fallenBack PresetMap.bootModel
  cases hload : m.loadAny s.bootModelName with
  | ok cfg =>
    rw [modelSaved_iff_of_clean rfl hload]
    exact saved_apply_iff hb (hn.loadAny_headerOk hload)
  | error e =>
    have hcar : m.loadAny kPresetRcCar = .ok builtinPresetRcCar := rfl
    rw [modelSaved_iff_of_clean rfl hcar]
    exact saved_apply_iff hb ⟨rfl, rfl⟩

/-- **`model_delete`.** Of the current model: the device falls back, clears the
flag and ignores whether the apply went through. Of another one: only what the
current name loads can change. -/
theorem modelSaved_afterDelete_iff (hb : b.Reliable) (hs : ModelSaved b m s) {n : NvsStore}
    {name : Str} (hn : Keeps n (m.erase (presetKey name))) :
    ModelSaved b (m.erase (presetKey name)) (s.afterDelete b (m.erase (presetKey name)) name) ↔
      DeletesSafely b m name s := by
  unfold Sketch.afterDelete DeletesSafely
  rw [currentModelName_bootReset]
  split
  · exact modelSaved_fallenBack_iff hb hn
  · -- the tables, the flag and the name are as they were
    have hreset : ModelSaved b (m.erase (presetKey name)) (s.bootReset name) ↔
        ModelSaved b (m.erase (presetKey name)) s := by
      unfold Sketch.bootReset
      split <;> exact Iff.rfl
    rw [hreset]
    by_cases hclean : s.modelDirty = false
    swap
    · exact iff_of_true (fun h => absurd h hclean) (.inl (by simpa using hclean))
    rw [or_iff_right (by simp [hclean])]
    obtain ⟨cfg, hload, hsaved⟩ := hs hclean
    constructor
    · intro h
      by_contra hshared
      -- the current model is gone, so a revert has nothing to load
      obtain ⟨cfg', hload', -⟩ := h hclean
      exact loadAny_erase_shared hshared cfg' hload'
    · exact fun hapart _ => ⟨cfg, (loadAny_erase_apart hapart).trans hload, hsaved⟩

/-- The request has done one of two things, which the cases of `Transition` tell
apart. -/
theorem modelDelete_saved (hb : b.Reliable) (hs : ModelSaved b m s)
    (hend : r.endpoint = .modelDelete) {millis : UInt32} {n : NvsStore} {s' : Sketch}
    {m' : PresetMap} (hn : Keeps n m')
    (h : Transition b millis r s m s' m') : ModelSaved b m' s' ↔
      (isReadonlyModel r.modelName = false → presetKey r.modelName ∈ m.entries →
        DeletesSafely b m r.modelName s) := by
  have hother : ∀ {endpoint : Endpoint}, r.endpoint = endpoint → endpoint = .modelDelete :=
    fun heq => heq.symm.trans hend
  cases h with
  | same hne _ => exact absurd hend hne
  | edited himmediate _ =>
    rw [hend] at himmediate
    exact himmediate.elim
  | presetApplied heq _ => cases hother heq
  | defaultSet heq _ => cases hother heq
  | created heq _ _ _ => cases hother heq
  | saved heq _ _ => cases hother heq
  | reverted heq _ => cases hother heq
  -- the name is read-only or not listed, so the condition is about nothing
  | notDeleted _ hrefused =>
    refine iff_of_true hs fun hwrite hmem => ?_
    rcases hrefused with hreadonly | hnew
    · rw [hwrite] at hreadonly
      cases hreadonly
    · exact absurd hmem hnew
  | deleted _ hwrite hmem =>
    exact (modelSaved_afterDelete_iff hb hs hn).trans ⟨fun h _ _ => h, fun h => h hwrite hmem⟩

/-- An edit sets the flag, or is rejected and leaves the table of a wired
configuration. -/
theorem modelSaved_editOutput (hb : b.Reliable) (hs : ModelSaved b m s) (e : OutputIdx)
    (record : OutputChannelConfig) (message : String) :
    ModelSaved b m (editOutput b e record message s).1 := by
  intro hclean
  -- an edit that is carried out marks the model as modified, so this one was rejected
  have hrejected : (editOutput b e record message s).2.ok = false ∧
      (editOutput b e record message s).1.modelDirty = s.modelDirty ∧
      (editOutput b e record message s).1.currentModelName = s.currentModelName ∧
      (editOutput b e record message s).1.rc.virtualInputs = s.rc.virtualInputs := by
    revert hclean
    unfold editOutput
    dsimp only
    split
    · exact fun _ => ⟨rfl, rfl, rfl, rfl⟩
    · exact fun h => (by cases h)
  obtain ⟨hreply, hdirty, hcurrent, hinputs⟩ := hrejected
  rw [hdirty] at hclean
  obtain ⟨cfg, hload, hsaved⟩ := hs hclean
  -- and a rejected edit of a wired table changes no record
  have houtputs := editOutput_rejected hb hsaved.wiringOk hreply
  exact ⟨cfg, by rwa [hcurrent], hsaved.congr hinputs houtputs⟩

/-- An edit of an input leaves the device alone or makes it dirty, and a dirty
device claims nothing. -/
theorem modelSaved_inputRequest (hs : ModelSaved b m s) {millis : UInt32}
    (hedit : r.endpoint.EditsInput) {s' : Sketch} {reply : Reply}
    (h : handleRequest b millis r s = .pure (s', reply)) : ModelSaved b m s' := by
  obtain ⟨t, reply', hrun, ht⟩ := handleRequest_input b millis hedit s
  rw [h] at hrun
  obtain ⟨rfl, -⟩ := Prod.mk.inj (Prog.pure.inj hrun)
  cases ht with
  | refused => exact hs
  | written _ _ => exact fun hclean => absurd hclean (by simp)
  | deleted _ => exact fun hclean => absurd hclean (by simp)

/-- An edit of an output leaves the device alone or goes through
`editOutput`. -/
theorem modelSaved_outputRequest (hb : b.Reliable) (hs : ModelSaved b m s) {millis : UInt32}
    (hedit : r.endpoint.EditsOutput) {s' : Sketch} {reply : Reply}
    (h : handleRequest b millis r s = .pure (s', reply)) : ModelSaved b m s' := by
  rcases handleRequest_edit b millis hedit s with ⟨msg, -, hrun⟩ | ⟨e, record, msg, -, hrun⟩
  · rw [h] at hrun
    obtain ⟨rfl, -⟩ := Prod.mk.inj (Prog.pure.inj hrun)
    exact hs
  · rw [h] at hrun
    rw [show s' = (editOutput b e record msg s).1 from congrArg Prod.fst (Prog.pure.inj hrun)]
    exact modelSaved_editOutput hb hs e record msg

/-- **The requests that do not look at the storage** keep what is saved. -/
theorem modelSaved_edited (hb : b.Reliable) (hs : ModelSaved b m s) {millis : UInt32}
    (hend : r.endpoint.Immediate) {s' : Sketch} {reply : Reply}
    (h : handleRequest b millis r s = .pure (s', reply)) : ModelSaved b m s' := by
  rcases Endpoint.immediate_iff.mp hend with hinput | houtput | hon | hoff
  · exact modelSaved_inputRequest hs hinput h
  · exact modelSaved_outputRequest hb hs houtput h
  · unfold handleRequest at h
    rw [hon] at h
    rw [← show (handleApiPairingOn millis s).1 = s' from congrArg Prod.fst (Prog.pure.inj h)]
    exact hs.congr rfl rfl rfl rfl
  · unfold handleRequest at h
    rw [hoff] at h
    rw [← show (handleApiPairingOff s).1 = s' from congrArg Prod.fst (Prog.pure.inj h)]
    exact hs.congr rfl rfl rfl rfl

end Requests

/-! ### The device -/

/-- The boot name is read from two things. -/
theorem bootName_congr {n n' : NvsStore} (hcreated : n'.created = n.created)
    (hget : n'.get .bootModel = n.get .bootModel) : n'.bootName = n.bootName := by
  have hstr : n'.getStr .bootModel = n.getStr .bootModel := by
    unfold NvsStore.getStr
    rw [hget]
  unfold NvsStore.bootName loadBootModelName
  simp only [Prog.bind_eq, eval_openReadonly, hcreated]
  cases n.created with
  | false => rfl
  | true =>
    -- the string is asked for twice: its length first, then the string
    simp only [Bool.not_true, Bool.false_eq_true, if_false, eval_getStr, hstr]
    cases n.getStr .bootModel with
    | none => rfl
    | some name =>
      dsimp only
      split
      · rfl
      · simp only [eval_getStr, hstr]
        cases n.getStr .bootModel <;> rfl

theorem bootName_saveString (n : NvsStore) (key : NvsKey) (h : key ≠ .bootModel) (value : Str) :
    ((saveString key value).eval nvsDevice n).1 = true ∧
      ((saveString key value).eval nvsDevice n).2.created = true ∧
      ((saveString key value).eval nvsDevice n).2.get .bootModel = n.get .bootModel :=
  ⟨rfl, rfl, NvsStore.get_set_of_ne _ h.symm _⟩

theorem saveApPassword_valid {raw : Str} (h : isValidApPassword (sanitizeApPassword raw) = true) :
    saveApPassword raw = saveString .apPass (sanitizeApPassword raw) := by
  unfold saveApPassword
  dsimp only
  rw [if_neg (by simpa using h)]

theorem saveApPassword_invalid {raw : Str}
    (h : ¬ isValidApPassword (sanitizeApPassword raw) = true) :
    saveApPassword raw = .pure false := by
  unfold saveApPassword
  dsimp only
  rw [if_pos (by simpa using h)]
  rfl

/-- **`ap_config_apply_reboot` before the restart**: whether it is accepted, and
the boot name then. -/
theorem eval_apConfig (message : String) (args : Args) (s : Sketch) (n : NvsStore) :
    (((handleApConfig message args s).eval nvsDevice n).1.2.ok = true ↔ ApConfigAccepted args) ∧
      (ApConfigAccepted args → ((handleApConfig message args s).eval nvsDevice n).2.bootName
        = ({ n with created := true } : NvsStore).bootName) := by
  -- a request without both fields is refused, and so is one with a password that is not valid
  by_cases hfields : (!args.hasArg .ssid || !args.hasArg .password) = true
  · have hrefused : ¬ ApConfigAccepted args := fun h => by simp [h.1, h.2.1] at hfields
    unfold handleApConfig
    rw [if_pos hfields]
    exact ⟨iff_of_false nofun hrefused, fun h => absurd h hrefused⟩
  by_cases hvalid : isValidApPassword (sanitizeApPassword (args.arg .password)) = true
  swap
  · have hrefused : ¬ ApConfigAccepted args := fun h => hvalid h.2.2.1
    unfold handleApConfig
    rw [if_neg hfields]
    dsimp only
    rw [if_pos (by simpa using hvalid)]
    exact ⟨iff_of_false nofun hrefused, fun h => absurd h hrefused⟩
  unfold handleApConfig
  rw [if_neg hfields]
  dsimp only
  rw [if_neg (by simpa using hvalid), Prog.bind_eq, Prog.eval_bind]
  obtain ⟨hssid, hcreated, hboot⟩ := bootName_saveString n .apSsid (by simp)
    (sanitizeApSsid (sanitizeApSsid (args.arg .ssid)))
  unfold saveApSsid
  rw [hssid, Bool.not_true, if_neg Bool.false_ne_true, Prog.bind_eq, Prog.eval_bind]
  -- the password is saved when it is valid once more
  by_cases hagain :
      isValidApPassword (sanitizeApPassword (sanitizeApPassword (args.arg .password))) = true
  · have haccepted : ApConfigAccepted args := by
      simp only [Bool.not_eq_true, Bool.or_eq_false_iff, Bool.not_eq_false'] at hfields
      exact ⟨hfields.1, hfields.2, hvalid, hagain⟩
    obtain ⟨hpass, hcreated', hboot'⟩ := bootName_saveString
      ((saveString .apSsid (sanitizeApSsid (sanitizeApSsid (args.arg .ssid)))).eval nvsDevice n).2
      .apPass (by simp) (sanitizeApPassword (sanitizeApPassword (args.arg .password)))
    rw [saveApPassword_valid hagain, hpass]
    exact ⟨iff_of_true rfl haccepted, fun _ => bootName_congr hcreated' (hboot'.trans hboot)⟩
  · have hrefused : ¬ ApConfigAccepted args := fun h => hagain h.2.2.2
    rw [saveApPassword_invalid hagain]
    exact ⟨iff_of_false nofun hrefused, fun h => absurd h hrefused⟩

section Step

variable {b : Board} {s : System} {m : PresetMap} {r : Request}

/-- **After a boot** clean means saved exactly when the boot preset can be laid
out. -/
theorem cleanIsSaved_boot_iff (hb : b.Reliable) {nvs : NvsStore} (h : Keeps nvs m)
    {plan : Prog.Plan nvsInterface} (hplan : ∀ k o, plan k o = false) (millis : UInt32) :
    CleanIsSaved b (System.boot b nvs plan millis) ↔ LaysOut b (m.bootModel nvs.bootName).2 := by
  obtain ⟨hkeeps, hbooted⟩ := booted_boot h b hplan millis
  have hload := loadAny_bootModel m nvs.bootName
  have hcfg := h.loadAny_headerOk hload
  rw [← hbooted.current] at hload
  -- `setup()` ends in a failsafe, which changes no record
  rw [cleanIsSaved_iff_modelSaved hb hkeeps, modelSaved_iff_of_clean hbooted.clean hload,
    ← saved_apply_iff hb hcfg (s := {}), hbooted.rc]
  exact ⟨fun hs => hs.congr rfl (outputs_applyFailsafeAllOutputs _).symm,
    fun hs => hs.congr rfl (outputs_applyFailsafeAllOutputs _)⟩

/-- The requests that have no condition. -/
def Endpoint.Unconditional (endpoint : Endpoint) : Prop :=
  endpoint.Immediate ∨ endpoint = .modelSetDefault ∨ endpoint = .apConfigSet ∨
    endpoint = .apConfigApplyReboot

/-- They keep what is saved; of `ap_config_apply_reboot` that is said before it
restarts. -/
theorem modelSaved_unconditional (hb : b.Reliable) {millis : UInt32} {s s' : Sketch}
    {m' : PresetMap} (hs : ModelSaved b m s) (hend : r.endpoint.Unconditional)
    (h : Transition b millis r s m s' m') : m' = m ∧ ModelSaved b m' s' := by
  have hother : ∀ {endpoint : Endpoint}, r.endpoint = endpoint → endpoint.Unconditional :=
    fun heq => heq ▸ hend
  cases h with
  -- the other transitions belong to requests that need a condition
  | same _ hsame =>
    exact ⟨rfl, hs.congr hsame.current hsame.dirty (congrArg RcModel.virtualInputs hsame.rc)
      (congrArg (fun rc => rc.bank.outputs) hsame.rc)⟩
  | edited himmediate hrun => exact ⟨rfl, modelSaved_edited hb hs himmediate hrun⟩
  | defaultSet _ _ => exact ⟨rfl, hs.congr rfl rfl rfl rfl⟩
  | notDeleted _ _ => exact ⟨rfl, hs⟩
  | presetApplied heq _ => simpa [Endpoint.Unconditional, Endpoint.Immediate] using hother heq
  | created heq _ _ _ => simpa [Endpoint.Unconditional, Endpoint.Immediate] using hother heq
  | saved heq _ _ => simpa [Endpoint.Unconditional, Endpoint.Immediate] using hother heq
  | reverted heq _ => simpa [Endpoint.Unconditional, Endpoint.Immediate] using hother heq
  | deleted heq _ _ => simpa [Endpoint.Unconditional, Endpoint.Immediate] using hother heq

/-- **One request** that does not restart the device: it keeps what is saved
exactly when it meets its condition. -/
theorem modelSaved_request_iff (hb : b.Reliable) (hm : Keeps s.nvs m)
    (hs : ModelSaved b m s.sketch) (htables : TablesOk s.sketch.rc)
    (hend : r.endpoint ≠ .apConfigApplyReboot) :
    ∃ m', Keeps ((handleRequest b s.millis r s.sketch).eval nvsDevice s.nvs).2 m' ∧
      (ModelSaved b m' ((handleRequest b s.millis r s.sketch).eval nvsDevice s.nvs).1.1 ↔
        RequestStaysSaved b m r s) := by
  have hfree : r.endpoint.Unconditional → RequestStaysSaved b m r s →
      ∃ m', Keeps ((handleRequest b s.millis r s.sketch).eval nvsDevice s.nvs).2 m' ∧
        (ModelSaved b m' ((handleRequest b s.millis r s.sketch).eval nvsDevice s.nvs).1.1 ↔
          RequestStaysSaved b m r s) := by
    intro hunconditional hstays
    obtain ⟨m', hm', htransition⟩ := ensures_handleRequest b s.millis r s.sketch m s.nvs hm
    exact ⟨m', hm',
      iff_of_true (modelSaved_unconditional hb hs hunconditional htransition).2 hstays⟩
  -- five endpoints have a condition of their own, the rest always keep what is saved
  cases hendpoint : r.endpoint with
  | presetApply =>
    unfold handleRequest RequestStaysSaved
    rw [hendpoint]
    exact presetApply_saved hb hs s.nvs hm
  | modelRevert =>
    unfold handleRequest RequestStaysSaved
    rw [hendpoint]
    exact modelRevert_saved hb hs s.nvs hm
  | modelCreate =>
    unfold handleRequest RequestStaysSaved
    rw [hendpoint]
    exact modelCreate_saved hb hs s.nvs hm
  | modelSaveCurrent =>
    unfold handleRequest RequestStaysSaved
    rw [hendpoint]
    exact modelSaveCurrent_saved hs htables s.millis s.nvs hm
  | modelDelete =>
    obtain ⟨m', hm', htransition⟩ := ensures_handleRequest b s.millis r s.sketch m s.nvs hm
    refine ⟨m', hm', ?_⟩
    unfold RequestStaysSaved
    rw [hendpoint]
    exact modelDelete_saved hb hs hendpoint hm' htransition
  | apConfigApplyReboot => exact absurd hendpoint hend
  | _ =>
    refine hfree ?_ ?_
    · rw [hendpoint]
      simp [Endpoint.Unconditional, Endpoint.Immediate]
    · unfold RequestStaysSaved
      rw [hendpoint]
      trivial

/-- **The restart.** -/
theorem cleanIsSaved_reboot_iff (hb : b.Reliable) (hm : Keeps s.nvs m) (hclean : CleanIsSaved b s)
    (hend : r.endpoint = .apConfigApplyReboot) {plan restartPlan : Prog.Plan nvsInterface}
    (hplan : ∀ k o, plan k o = false) (hrestart : ∀ k o, restartPlan k o = false) :
    CleanIsSaved b (s.request b r plan restartPlan) ↔ RequestStaysSaved b m r s := by
  have hs := (cleanIsSaved_iff_modelSaved hb hm).mp hclean
  obtain ⟨m', hm', htransition⟩ := ensures_handleRequest b s.millis r s.sketch m s.nvs hm
  obtain ⟨rfl, hs'⟩ := modelSaved_unconditional hb hs (.inr (.inr (.inr hend))) htransition
  have hhandler : handleRequest b s.millis r s.sketch
      = handleApConfig "AP config saved. Rebooting now..." r.args s.sketch := by
    unfold handleRequest
    rw [hend]
    rfl
  obtain ⟨haccepted, hname⟩ :=
    eval_apConfig "AP config saved. Rebooting now..." r.args s.sketch s.nvs
  rw [← hhandler] at haccepted hname
  unfold System.request RequestStaysSaved
  rw [hend]
  dsimp only
  rw [Prog.run_of_noFault nvsDevice hplan]
  split
  · next hboot =>
    -- the device restarts only when the credentials were accepted
    have hargs := haccepted.mp hboot.2
    rw [cleanIsSaved_boot_iff hb hm' hrestart, hname hargs]
    exact ⟨fun h _ => h, fun h => h hargs⟩
  · next hstay =>
    -- refused credentials: nothing restarts, and the condition is empty
    refine iff_of_true ((cleanIsSaved_iff_modelSaved hb hm').mpr hs') fun hargs => ?_
    exact absurd ⟨rfl, haccepted.mpr hargs⟩ hstay

/-- **One request.** -/
theorem cleanIsSaved_request_iff (hb : b.Reliable) (hm : Keeps s.nvs m)
    (htables : TablesOk s.sketch.rc) (hclean : CleanIsSaved b s)
    {plan restartPlan : Prog.Plan nvsInterface} (hplan : ∀ k o, plan k o = false)
    (hrestart : ∀ k o, restartPlan k o = false) :
    CleanIsSaved b (s.request b r plan restartPlan) ↔ RequestStaysSaved b m r s := by
  by_cases hend : r.endpoint = .apConfigApplyReboot
  · exact cleanIsSaved_reboot_iff hb hm hclean hend hplan hrestart
  have hs := (cleanIsSaved_iff_modelSaved hb hm).mp hclean
  obtain ⟨m', hm', hiff⟩ := modelSaved_request_iff hb hm hs htables hend
  rw [request_of_noFault hend hplan, ← hiff]
  exact cleanIsSaved_iff_modelSaved hb hm'

/-- Nothing but a request changes the names or the flag. -/
theorem names_step (b : Board) (s : System) {event : Event}
    (h : ∀ r plan restartPlan, event ≠ .request r plan restartPlan) :
    (s.step b event).nvs = s.nvs ∧
      (s.step b event).sketch.currentModelName = s.sketch.currentModelName ∧
      (s.step b event).sketch.modelDirty = s.sketch.modelDirty := by
  cases event with
  | request r plan restartPlan => exact absurd rfl (h r plan restartPlan)
  | tick packet =>
    refine ⟨rfl, ?_⟩
    -- with or without fresh data, only runtime values, servos and timers are written
    change (processControlTick b s.millis s.gamepadConnected packet s.sketch).currentModelName = _ ∧
      (processControlTick b s.millis s.gamepadConnected packet s.sketch).modelDirty = _
    unfold processControlTick
    split
    · split
      · exact ⟨rfl, rfl⟩
      · split <;> exact ⟨rfl, rfl⟩
    · exact ⟨rfl, rfl⟩
  | schedulerTick =>
    refine ⟨rfl, ?_⟩
    change (updateBtScanScheduler s.millis s.gamepadConnected s.sketch).currentModelName = _ ∧
      (updateBtScanScheduler s.millis s.gamepadConnected s.sketch).modelDirty = _
    simp only [updateBtScanScheduler, setBtScanActive]
    split_ifs <;> exact ⟨rfl, rfl⟩
  | connect ctl kind =>
    refine ⟨rfl, ?_⟩
    simp only [System.step, onConnectedController, setBtScanActive]
    split_ifs <;> exact ⟨rfl, rfl⟩
  | disconnect ctl =>
    refine ⟨rfl, ?_⟩
    simp only [System.step, onDisconnectedController]
    split_ifs <;> exact ⟨rfl, rfl⟩
  | elapse ms => exact ⟨rfl, rfl, rfl⟩

end Step

/-! ### Runs -/

/-- What holds along a run as long as every request meets its condition. -/
structure CleanInv (b : Board) (s : System) : Prop where
  keeps : ∃ m, Keeps s.nvs m
  tables : TablesOk s.sketch.rc
  clean : CleanIsSaved b s

section Runs

variable {b : Board} {s : System}

theorem CleanInv.step (hb : b.Reliable) (h : CleanInv b s) {event : Event}
    (hevent : Faultless event) (hstays : StaysSaved b s event) : CleanInv b (s.step b event) := by
  refine ⟨keeps_step h.keeps hevent, tablesOk_event h.tables event, ?_⟩
  obtain ⟨m, hm⟩ := h.keeps
  by_cases hrequest : ∃ r plan restartPlan, event = .request r plan restartPlan
  · obtain ⟨r, plan, restartPlan, rfl⟩ := hrequest
    exact (cleanIsSaved_request_iff hb hm h.tables h.clean hevent.1 hevent.2).mpr (hstays m hm)
  · push Not at hrequest
    -- the flash, the name, the flag and the records are as they were
    obtain ⟨hnvs, hcurrent, hdirty⟩ := names_step b s hrequest
    have hevaluated := evaluated_step b s hrequest
    rw [cleanIsSaved_iff_modelSaved hb (m := m) (by rwa [hnvs])]
    exact ((cleanIsSaved_iff_modelSaved hb hm).mp h.clean).congr hcurrent hdirty hevaluated.inputs
      hevaluated.outputs

/-- A step after which clean means saved met its condition. -/
theorem CleanInv.staysSaved (hb : b.Reliable) (h : CleanInv b s) {event : Event}
    (hevent : Faultless event) (hclean : CleanIsSaved b (s.step b event)) :
    StaysSaved b s event := by
  cases event with
  | request r plan restartPlan =>
    intro m hm
    exact (cleanIsSaved_request_iff hb hm h.tables h.clean hevent.1 hevent.2).mp hclean
  | tick _ => trivial
  | schedulerTick => trivial
  | connect _ _ => trivial
  | disconnect _ => trivial
  | elapse _ => trivial

end Runs

/-- **When clean means saved.** From a boot on an empty storage, along any run
without storage faults on a board whose servos attach to every pin with PWM: in
every state a clean device would not be changed by `model_revert`, exactly when
the car can be laid out on the board and every request meets its condition. -/
theorem cleanIsSaved_iff {b : Board} (hb : b.Reliable) {plan : Prog.Plan nvsInterface}
    (hplan : ∀ k o, plan k o = false) (millis : UInt32) {events : List Event}
    (hevents : ∀ e ∈ events, Faultless e) :
    StatesMeet (System.step b) (CleanIsSaved b) (System.boot b {} plan millis) events ↔
      LaysOut b builtinPresetRcCar ∧
        StepsMeet (System.step b) (StaysSaved b) (System.boot b {} plan millis) events := by
  have hcar : CleanIsSaved b (System.boot b {} plan millis) ↔ LaysOut b builtinPresetRcCar :=
    cleanIsSaved_boot_iff hb keeps_empty hplan millis
  rw [← hcar]
  by_cases hclean : CleanIsSaved b (System.boot b {} plan millis)
  · rw [and_iff_right hclean]
    have hboot : CleanInv b (System.boot b {} plan millis) :=
      ⟨⟨_, (booted_boot keeps_empty b hplan millis).1⟩, tablesOk_boot b {} plan millis, hclean⟩
    exact statesMeet_iff_stepsMeet (I := CleanInv b) (fun _ h => h.clean)
      (fun _ _ h hA hC => h.step hb hA hC) (fun _ _ h hA hP => h.staysSaved hb hA hP) hboot
      (stepsMeet_of_mem hevents _)
  · -- the first state of the run already misses it
    refine ⟨fun h => ?_, fun h => absurd h.1 hclean⟩
    exact absurd (statesMeet_iff.mp h [] List.nil_prefix) hclean

/-! ### A servo saved in its default failsafe mode -/

/-- `model_save_current`. -/
def saveModel : Request where
  endpoint := .modelSaveCurrent

/-- A model is created and gets a servo. -/
theorem cleanIsSaved_iff_unsaved_servo :
    StatesMeet (System.step smallBoard) (CleanIsSaved smallBoard)
        (System.boot smallBoard {} (fun _ _ => false) 0)
        [faultless (createModel "mine"), faultless (addServo "4")] ↔
      LaysOut smallBoard builtinPresetRcCar ∧
        StepsMeet (System.step smallBoard) (StaysSaved smallBoard)
          (System.boot smallBoard {} (fun _ _ => false) 0)
          [faultless (createModel "mine"), faultless (addServo "4")] :=
  cleanIsSaved_iff smallBoard_reliable (fun _ _ => rfl) 0
    (show ∀ e ∈ [faultless (createModel "mine"), faultless (addServo "4")], Faultless e by
      simp [faultless, Faultless])

/-- Then it is saved. The device is clean, its servo has failsafe `Center`, and
`model_revert` would make it `Max`. -/
theorem save_is_not_clean :
    let s := run (System.step smallBoard) (System.boot smallBoard {} (fun _ _ => false) 0)
      [faultless (createModel "mine"), faultless (addServo "4"), faultless saveModel]
    smallBoard.Reliable ∧ s.sketch.modelDirty = false ∧
      (s.sketch.rc.bank.outputs 0).pwmFailsafeMode = .center ∧ ¬ CleanIsSaved smallBoard s := by
  intro s
  have hclean : s.sketch.modelDirty = false := by decide +kernel
  have hcenter : (s.sketch.rc.bank.outputs 0).pwmFailsafeMode = .center := by decide +kernel
  have hstored : ((loadAnyPreset s.sketch.currentModelName).eval nvsDevice s.nvs).1
      = .ok (exportCurrentConfig s.sketch.rc) := by decide +kernel
  -- applying what was saved gives another failsafe mode
  have hreverted : (((applyPersistedConfig smallBoard (exportCurrentConfig s.sketch.rc)
      s.sketch.rc).eval nvsDevice s.nvs).1.1.bank.outputs 0).pwmFailsafeMode = .max := by
    decide +kernel
  refine ⟨smallBoard_reliable, hclean, hcenter, fun hidle => ?_⟩
  obtain ⟨cfg, hload, -, -, houtputs⟩ := hidle hclean
  obtain rfl := Except.ok.inj (hstored.symm.trans hload)
  rw [houtputs, hcenter] at hreverted
  cases hreverted

end RcController
