import RcController.Device.Boot
import RcController.Store.Map

/-!
# The model requests over the map of presets

What a request does to the names, the tables and the presets when no NVS call fails. The
storage is seen through the map of presets it stands for (`Keeps`): programs are reasoned
about with `Prog.Ensures`, one rule for each function of the store, and the NVS calls are
not looked at again.

`Transition` lists what a request can do, with what it takes; `ensures_handleRequest` is
the inversion lemma. What holds of the names along a run follows by cases on it.
-/

namespace RcController

open DeviceProg

/-! ### Functions of the store -/

/-- What `loadAnyPreset` answers: the built-in preset of the name, if there is
one, before any stored one. -/
def PresetMap.loadAny (m : PresetMap) (name : Str) : Except String PersistedConfig :=
  match builtinPreset name with
  | some cfg => .ok cfg
  | none => m.load name

/-- What a program over the storage ensures, in terms of the map of presets:
from every storage that keeps `m` it ends in one that keeps some `m'`, with `Q`
of the result and `m'`. -/
abbrev OnPresets {α : Type} (m : PresetMap) (p : NvsM α) (Q : α → PresetMap → Prop) : Prop :=
  p.Ensures nvsDevice Keeps m Q

/-- What is kept under a name is of the current format. -/
theorem Keeps.headerOk {n : NvsStore} {m : PresetMap} (h : Keeps n m) {k : Str}
    {cfg : PersistedConfig} (hcfg : m.lookup k = some cfg) : cfg.HeaderOk := by
  obtain ⟨sh, -, rfl⟩ := h
  have hlookup : (Keyed.table Preset.key Preset.cfg sh.presets).lookup k = some cfg := hcfg
  rw [Keyed.lookup_table] at hlookup
  obtain ⟨p, hp, rfl⟩ := Option.map_eq_some_iff.mp hlookup
  exact sh.valid p ((Keyed.find_eq_some sh.distinct).mp hp).1

/-- Writing a key that is no part of a preset leaves the presets alone. -/
theorem Keeps.write {n : NvsStore} {m : PresetMap} (h : Keeps n m) {key : NvsKey} (v : NvsValue)
    (hdir : key ≠ .presetDir) (hslot : ∀ i, key ≠ .pr i) :
    Keeps (({ n with created := true } : NvsStore).set key v) m := by
  obtain ⟨sh, hsh, rfl⟩ := h
  refine ⟨sh, hsh.of_get (fun _ => rfl) ?_ fun i => ?_, rfl⟩
  · exact NvsStore.get_set_of_ne _ hdir.symm v
  · exact NvsStore.get_set_of_ne _ (hslot i).symm v

section Store

variable {m : PresetMap}

/-- Loading answers as the map does, leaves it, and answers with configurations
of the current format only. -/
theorem ensures_loadAnyPreset (m : PresetMap) (name : Str) :
    OnPresets m (loadAnyPreset name) fun r m' =>
      r = m.loadAny name ∧ m' = m ∧ ∀ cfg, r = .ok cfg → cfg.HeaderOk := by
  unfold loadAnyPreset PresetMap.loadAny
  cases hbuiltin : builtinPreset name with
  -- a built-in preset is returned without a look at the storage
  | some cfg =>
    refine Prog.ensures_pure ⟨rfl, rfl, fun cfg' heq => ?_⟩
    obtain rfl := Except.ok.inj heq
    exact builtinPreset_headerOk hbuiltin
  | none =>
    intro n hn
    dsimp only
    rw [keeps_load hn]
    refine ⟨m, hn, rfl, rfl, fun cfg hcfg => ?_⟩
    cases hlookup : m.lookup (presetKey name) with
    | none => simp [PresetMap.load, hlookup] at hcfg
    | some cfg' =>
      obtain rfl : cfg' = cfg := by simpa [PresetMap.load, hlookup] using hcfg
      exact hn.headerOk hlookup

/-- Saving inserts under the key of the name when the key is there or a slot is
free, and is refused otherwise. -/
theorem ensures_saveUserPreset (m : PresetMap) (rawName : Str) {cfg : PersistedConfig}
    (hcfg : cfg.HeaderOk) :
    OnPresets m (saveUserPresetBlob rawName cfg) fun r m' =>
      (∃ hfits : m.Fits (presetKey rawName),
        r = .ok () ∧ m' = m.insert (presetKey rawName) cfg hfits) ∨
      ¬ m.Fits (presetKey rawName) ∧ (∃ e, r = .error e) ∧ m' = m := by
  intro n hn
  rcases keeps_save hn rawName hcfg with ⟨hfits, hok, hkeeps⟩ | ⟨hfull, hrefused⟩
  · exact ⟨_, hkeeps, .inl ⟨hfits, hok, rfl⟩⟩
  · rw [hrefused]
    exact ⟨m, hn, .inr ⟨hfull, ⟨_, rfl⟩, rfl⟩⟩

/-- Deleting erases a key that is there, and is refused when it is not. -/
theorem ensures_deleteUserPreset (m : PresetMap) (rawName : Str) :
    OnPresets m (deleteUserPreset rawName) fun r m' =>
      presetKey rawName ∈ m.entries ∧ r = .ok () ∧ m' = m.erase (presetKey rawName) ∨
      presetKey rawName ∉ m.entries ∧ (∃ e, r = .error e) ∧ m' = m := by
  intro n hn
  rcases keeps_delete hn rawName with ⟨hmem, hok, hkeeps⟩ | ⟨hnew, hrefused⟩
  · exact ⟨_, hkeeps, .inl ⟨hmem, hok, rfl⟩⟩
  · rw [hrefused]
    exact ⟨m, hn, .inr ⟨hnew, ⟨_, rfl⟩, rfl⟩⟩

/-- The values of other keys are no part of the map. A write to one of them
succeeds, since no call fails, and leaves the map. -/
theorem ensures_saveBootModelName (m : PresetMap) (name : Str) :
    OnPresets m (saveBootModelName name) fun r m' => r = true ∧ m' = m :=
  Prog.ensures_eq fun _ hn => ⟨rfl, hn.write _ (by simp) (by simp)⟩

theorem ensures_saveRuntimeConfigToNvs (m : PresetMap) (s : RcModel) :
    OnPresets m (saveRuntimeConfigToNvs s) fun r m' => r = true ∧ m' = m :=
  Prog.ensures_eq fun _ hn => ⟨rfl, hn.write _ (by simp) (by simp)⟩

theorem ensures_saveApSsid (m : PresetMap) (ssid : Str) :
    OnPresets m (saveApSsid ssid) fun r m' => r = true ∧ m' = m :=
  Prog.ensures_eq fun _ hn => ⟨rfl, hn.write _ (by simp) (by simp)⟩

/-- The password may be refused by its own check, and then nothing is
written. -/
theorem ensures_saveApPassword (m : PresetMap) (pass : Str) :
    OnPresets m (saveApPassword pass) fun _ m' => m' = m := by
  unfold saveApPassword
  dsimp only
  split
  · exact Prog.ensures_pure rfl
  · exact fun n hn => ⟨m, hn.write _ (by simp) (by simp), rfl⟩

/-- What an apply does to the tables does not depend on the storage; afterwards
it saves the tables under a key of their own. -/
theorem ensures_applyToSketch (m : PresetMap) (b : Board) (cfg : PersistedConfig) (s : Sketch) :
    OnPresets m (applyToSketch b cfg s) fun x m' =>
      x = ({ s with rc := (applyTables b cfg s.rc).1 }, (applyTables b cfg s.rc).2) ∧ m' = m := by
  unfold applyToSketch applyPersistedConfig
  rcases applyTables b cfg s.rc with ⟨rc, e | _⟩
  · exact Prog.ensures_pure ⟨rfl, rfl⟩
  · refine Prog.Ensures.bind (Q := fun x m' => x = (rc, .ok ()) ∧ m' = m) ?_ ?_
    · refine (ensures_saveRuntimeConfigToNvs m rc).bind fun _ m' hm' => ?_
      exact Prog.ensures_pure ⟨rfl, hm'.2⟩
    · rintro x m' ⟨rfl, rfl⟩
      exact Prog.ensures_pure ⟨rfl, rfl⟩

/-- A program that only reads leaves the presets alone. -/
theorem ensures_of_reads {α : Type} (m : PresetMap) {p : NvsM α} (h : Reads p) :
    OnPresets m p fun _ m' => m' = m := fun n hn => ⟨m, by rw [reads_eval h n]; exact hn, rfl⟩

end Store

/-! ### Transitions -/

/-- The tables, the names and the flag of the model are the same. What differs
is the pairing window, the credentials or nothing. -/
structure SameModel (s s' : Sketch) : Prop where
  rc : s'.rc = s.rc
  current : s'.currentModelName = s.currentModelName
  boot : s'.bootModelName = s.bootModelName
  dirty : s'.modelDirty = s.modelDirty

theorem SameModel.refl (s : Sketch) : SameModel s s := ⟨rfl, rfl, rfl, rfl⟩

/-- The name a request carries, as the handlers read it. -/
def Request.modelName (r : Request) : Str := sanitizePresetName (r.args.arg .name)

/-- The configuration `model_create` stores: the live tables, a preset that is
named as the base, or an empty one. -/
def createdConfig (m : PresetMap) (args : Args) (s : Sketch) : Except String PersistedConfig :=
  let rawBase := (if args.hasArg .base then args.arg .base else []).trim
  if args.parseBoolArg .fromCurrent false then .ok (exportCurrentConfig s.rc)
  else if rawBase ≠ [] && !rawBase.equalsIgnoreCase (lit "none") then
    m.loadAny (sanitizePresetName rawBase)
  else .ok { magic := kConfigMagic, version := kConfigVersion }

/-- The globals after a configuration was applied under a name: when the apply
fails, only the tables may have changed. -/
def Sketch.applied (b : Board) (cfg : PersistedConfig) (name : Str) (s : Sketch) : Sketch :=
  match (applyTables b cfg s.rc).2 with
  | .ok () =>
    { s with rc := (applyTables b cfg s.rc).1, currentModelName := name, modelDirty := false }
  | .error _ => { s with rc := (applyTables b cfg s.rc).1 }

/-- The globals after the current model was deleted. -/
def Sketch.fallenBack (b : Board) (m : PresetMap) (s : Sketch) : Sketch :=
  match m.loadAny s.bootModelName with
  | .ok cfg =>
    { s with
      currentModelName := s.bootModelName
      rc := (applyTables b cfg s.rc).1
      modelDirty := false }
  | .error _ =>
    { s with
      bootModelName := kPresetRcCar
      currentModelName := kPresetRcCar
      rc := (applyTables b builtinPresetRcCar s.rc).1
      modelDirty := false }

/-- A deleted boot model is replaced by the car. -/
def Sketch.bootReset (name : Str) (s : Sketch) : Sketch :=
  if s.bootModelName = name then { s with bootModelName := kPresetRcCar } else s

/-- The globals after a model was deleted; `m` is what is left. -/
def Sketch.afterDelete (b : Board) (m : PresetMap) (name : Str) (s : Sketch) : Sketch :=
  if (s.bootReset name).currentModelName = name then (s.bootReset name).fallenBack b m
  else s.bootReset name

/-- **What a request can do** when no NVS call fails, with what it takes. Each
case of `deleted`, `created` and the others names the configuration that is
applied and the map that is left, so that the properties of names and presets
along a run are cases on this. -/
inductive Transition (b : Board) (millis : UInt32) (r : Request) (s : Sketch) (m : PresetMap) :
    Sketch → PresetMap → Prop where
  | same (hend : r.endpoint ≠ .modelDelete) {s' : Sketch} (h : SameModel s s') :
      Transition b millis r s m s' m
  | edited (hend : r.endpoint.Immediate) {s' : Sketch} {reply : Reply}
      (h : handleRequest b millis r s = .pure (s', reply)) : Transition b millis r s m s' m
  | presetApplied (hend : r.endpoint = .presetApply) {cfg : PersistedConfig}
      (hload : m.loadAny r.modelName = .ok cfg) :
      Transition b millis r s m (s.applied b cfg r.modelName) m
  | defaultSet (hend : r.endpoint = .modelSetDefault) {cfg : PersistedConfig}
      (hload : m.loadAny r.modelName = .ok cfg) :
      Transition b millis r s m { s with bootModelName := r.modelName } m
  | created (hend : r.endpoint = .modelCreate) {cfg : PersistedConfig}
      (hconfig : createdConfig m r.args s = .ok cfg) (hcfg : cfg.HeaderOk)
      (hfits : m.Fits (presetKey r.modelName)) :
      Transition b millis r s m (s.applied b cfg r.modelName)
        (m.insert (presetKey r.modelName) cfg hfits)
  | saved (hend : r.endpoint = .modelSaveCurrent)
    (hwrite : isReadonlyModel s.currentModelName = false)
      (hfits : m.Fits (presetKey s.currentModelName)) :
      Transition b millis r s m { s with modelDirty := false }
        (m.insert (presetKey s.currentModelName) (exportCurrentConfig s.rc) hfits)
  | reverted (hend : r.endpoint = .modelRevert) {cfg : PersistedConfig}
      (hload : m.loadAny s.currentModelName = .ok cfg) :
      Transition b millis r s m (s.applied b cfg s.currentModelName) m
  | notDeleted (hend : r.endpoint = .modelDelete)
      (hrefused : isReadonlyModel r.modelName = true ∨ presetKey r.modelName ∉ m.entries) :
      Transition b millis r s m s m
  | deleted (hend : r.endpoint = .modelDelete) (hwrite : isReadonlyModel r.modelName = false)
      (hmem : presetKey r.modelName ∈ m.entries) :
      Transition b millis r s m (s.afterDelete b (m.erase (presetKey r.modelName)) r.modelName)
        (m.erase (presetKey r.modelName))

/-! ### The handlers -/

section Transitions

variable {b : Board} {millis : UInt32} {r : Request} {s : Sketch} {m : PresetMap}

/-- An apply, and what the handler makes of its result. -/
theorem ensures_applied {α : Type} {cfg : PersistedConfig} {t : Sketch}
    {f : Sketch × Except String Unit → NvsM α} {Q : α → PresetMap → Prop}
    (hok : (applyTables b cfg t.rc).2 = .ok () →
      OnPresets m (f ({ t with rc := (applyTables b cfg t.rc).1 }, .ok ())) Q)
    (herr : ∀ e, (applyTables b cfg t.rc).2 = .error e →
      OnPresets m (f ({ t with rc := (applyTables b cfg t.rc).1 }, .error e)) Q) :
    OnPresets m ((applyToSketch b cfg t).bind f) Q := by
  refine (ensures_applyToSketch m b cfg t).bind ?_
  rintro x m' ⟨rfl, rfl⟩
  cases happly : (applyTables b cfg t.rc).2 with
  | ok _ => exact hok happly
  | error e => exact herr e happly

theorem Sketch.applied_ok {cfg : PersistedConfig} {name : Str}
    (h : (applyTables b cfg s.rc).2 = .ok ()) :
    s.applied b cfg name =
      { s with
        rc := (applyTables b cfg s.rc).1
        currentModelName := name
        modelDirty := false } := by
  unfold applied
  rw [h]

theorem Sketch.applied_error {cfg : PersistedConfig} {name : Str} {e : String}
    (h : (applyTables b cfg s.rc).2 = .error e) :
    s.applied b cfg name = { s with rc := (applyTables b cfg s.rc).1 } := by
  unfold applied
  rw [h]

/-- An apply under a name, in a handler that takes the name over when the apply
succeeds. `f` is the rest of the handler; it only has to answer. -/
theorem ensures_appliedAs {cfg : PersistedConfig} {name : Str}
    {f : Sketch × Except String Unit → NvsM (Sketch × Reply)}
    (hok : ∀ rc, ∃ reply, f ({ s with rc := rc }, .ok ())
      = .pure ({ s with rc := rc, currentModelName := name, modelDirty := false }, reply))
    (herr : ∀ rc e, ∃ reply,
      f ({ s with rc := rc }, .error e) = .pure ({ s with rc := rc }, reply)) :
    OnPresets m ((applyToSketch b cfg s).bind f) fun x m' =>
      x.1 = s.applied b cfg name ∧ m' = m := by
  refine ensures_applied (fun happly => ?_) fun e happly => ?_
  · obtain ⟨reply, hf⟩ := hok (applyTables b cfg s.rc).1
    rw [hf]
    exact Prog.ensures_pure ⟨(Sketch.applied_ok happly).symm, rfl⟩
  · obtain ⟨reply, hf⟩ := herr (applyTables b cfg s.rc).1 e
    rw [hf]
    exact Prog.ensures_pure ⟨(Sketch.applied_error happly).symm, rfl⟩

/-- What a handler does that applies a preset under the name it loads it by. -/
inductive AppliedNamed (b : Board) (s : Sketch) (m : PresetMap) (name : Str) :
    Sketch → PresetMap → Prop
  | unknown {e : String} (hload : m.loadAny name = .error e) : AppliedNamed b s m name s m
  | applied {cfg : PersistedConfig} (hload : m.loadAny name = .ok cfg) (hcfg : cfg.HeaderOk) :
      AppliedNamed b s m name (s.applied b cfg name) m

/-- Such a handler answers at once when the name does not load. -/
theorem ensures_appliedNamed {name : Str}
    {f : Except String PersistedConfig → NvsM (Sketch × Reply)}
    {g : Sketch × Except String Unit → NvsM (Sketch × Reply)}
    (hunknown : ∀ e, ∃ reply, f (.error e) = .pure (s, reply))
    (hload : ∀ cfg, f (.ok cfg) = (applyToSketch b cfg s).bind g)
    (hok : ∀ rc, ∃ reply, g ({ s with rc := rc }, .ok ())
      = .pure ({ s with rc := rc, currentModelName := name, modelDirty := false }, reply))
    (herr : ∀ rc e, ∃ reply,
      g ({ s with rc := rc }, .error e) = .pure ({ s with rc := rc }, reply)) :
    OnPresets m ((loadAnyPreset name).bind f) fun x m' => AppliedNamed b s m name x.1 m' := by
  refine (ensures_loadAnyPreset m name).bind ?_
  rintro loaded m' ⟨hloaded, rfl, hheader⟩
  cases loaded with
  | error e =>
    obtain ⟨reply, hf⟩ := hunknown e
    rw [hf]
    exact Prog.ensures_pure (.unknown hloaded.symm)
  -- loaded, it is applied, and the names change if that succeeds
  | ok cfg =>
    rw [hload cfg]
    refine (ensures_appliedAs hok herr).mono ?_
    rintro ⟨t, reply⟩ m'' ⟨rfl, rfl⟩
    exact .applied hloaded.symm (hheader cfg rfl)

/-- `preset_apply` loads by the name of the request. -/
theorem appliedNamed_presetApply :
    OnPresets m (handleApiPresetApply b r.args s) fun x m' =>
      AppliedNamed b s m r.modelName x.1 m' :=
  ensures_appliedNamed (fun _ => ⟨_, rfl⟩) (fun _ => rfl) (fun _ => ⟨_, rfl⟩) fun _ _ => ⟨_, rfl⟩

/-- `model_revert` loads by the current name. -/
theorem appliedNamed_modelRevert :
    OnPresets m (handleApiModelRevert b s) fun x m' =>
      AppliedNamed b s m s.currentModelName x.1 m' :=
  ensures_appliedNamed (fun _ => ⟨_, rfl⟩) (fun _ => rfl) (fun _ => ⟨_, rfl⟩) fun _ _ => ⟨_, rfl⟩

/-- The transition of `preset_apply`. -/
theorem ensures_presetApply (hend : r.endpoint = .presetApply) :
    OnPresets m (handleApiPresetApply b r.args s) fun x m' => Transition b millis r s m x.1 m' := by
  refine appliedNamed_presetApply.mono ?_
  rintro ⟨t, reply⟩ m' h
  cases h with
  | unknown _ => exact .same (by simp [hend]) (.refl _)
  | applied hload _ => exact .presetApplied hend hload

/-- The transition of `model_set_default`. The preset is loaded to see that it
can be, and not applied. -/
theorem ensures_modelSetDefault (hend : r.endpoint = .modelSetDefault) :
    OnPresets m (handleApiModelSetDefault r.args s) fun x m' =>
      Transition b millis r s m x.1 m' := by
  refine (ensures_loadAnyPreset m r.modelName).bind ?_
  rintro loaded m' ⟨hload, rfl, -⟩
  cases loaded with
  | error e => exact Prog.ensures_pure (.same (by simp [hend]) (.refl s))
  | ok cfg =>
    refine (ensures_saveBootModelName m' r.modelName).bind ?_
    rintro saved m' ⟨rfl, rfl⟩
    exact Prog.ensures_pure (.defaultSet hend hload.symm)

/-- The configuration of a new model, from the live tables, a base or nothing.
It has the current format in each case. -/
theorem ensures_newModelConfig (m : PresetMap) (args : Args) (s : Sketch) :
    OnPresets m (newModelConfig args s) fun r m' =>
      r = createdConfig m args s ∧ m' = m ∧ ∀ cfg, r = .ok cfg → cfg.HeaderOk := by
  unfold newModelConfig createdConfig
  dsimp only
  generalize (if args.hasArg .base then args.arg .base else []).trim = rawBase
  split
  · refine Prog.ensures_pure ⟨rfl, rfl, fun cfg hcfg => ?_⟩
    obtain rfl := Except.ok.inj hcfg
    exact ⟨rfl, rfl⟩
  · split
    · exact ensures_loadAnyPreset m _
    · refine Prog.ensures_pure ⟨rfl, rfl, fun cfg hcfg => ?_⟩
      obtain rfl := Except.ok.inj hcfg
      exact ⟨rfl, rfl⟩

/-- The transition of `model_create`: a save, which can be refused for want of
room, and then an apply, whose failure leaves the saved preset. -/
theorem ensures_modelCreate (hend : r.endpoint = .modelCreate) :
    OnPresets m (handleApiModelCreate b r.args s) fun x m' => Transition b millis r s m x.1 m' := by
  refine (ensures_newModelConfig m r.args s).bind ?_
  rintro config m' ⟨hconfig, rfl, hheader⟩
  -- no configuration to save, a save that fails, or a save and then an apply
  cases config with
  | error e => exact Prog.ensures_pure (.same (by simp [hend]) (.refl s))
  | ok cfg =>
    have hcfg := hheader cfg rfl
    refine (ensures_saveUserPreset m' r.modelName hcfg).bind ?_
    rintro saved m'' (⟨hfits, rfl, rfl⟩ | ⟨-, ⟨e, rfl⟩, rfl⟩)
    · refine (ensures_appliedAs (fun _ => ⟨_, rfl⟩) fun _ _ => ⟨_, rfl⟩).mono ?_
      rintro x m'' ⟨hx, rfl⟩
      rw [hx]
      exact .created hend hconfig.symm hcfg hfits
    · exact Prog.ensures_pure (.same (by simp [hend]) (.refl s))

/-- The transition of `model_save_current`. A built-in name is refused with a
suggestion, which only reads. -/
theorem ensures_modelSaveCurrent (hend : r.endpoint = .modelSaveCurrent) :
    OnPresets m (handleApiModelSaveCurrent millis s) fun x m' =>
      Transition b millis r s m x.1 m' := by
  unfold handleApiModelSaveCurrent
  split
  · refine (ensures_of_reads m (reads_nextAvailableCustomModelName _ _)).bind ?_
    rintro suggested m' rfl
    exact Prog.ensures_pure (.same (by simp [hend]) (.refl s))
  · next hwrite =>
    refine (ensures_saveUserPreset m s.currentModelName ⟨rfl, rfl⟩).bind ?_
    rintro saved m' (⟨hfits, rfl, rfl⟩ | ⟨-, ⟨e, rfl⟩, rfl⟩)
    · refine (ensures_saveRuntimeConfigToNvs _ s.rc).bind ?_
      rintro - m' ⟨-, rfl⟩
      exact Prog.ensures_pure (.saved hend (by simpa using hwrite) hfits)
    · exact Prog.ensures_pure (.same (by simp [hend]) (.refl s))

/-- The transition of `model_revert`. -/
theorem ensures_modelRevert (hend : r.endpoint = .modelRevert) :
    OnPresets m (handleApiModelRevert b s) fun x m' => Transition b millis r s m x.1 m' := by
  refine appliedNamed_modelRevert.mono ?_
  rintro ⟨t, reply⟩ m' h
  cases h with
  | unknown _ => exact .same (by simp [hend]) (.refl _)
  | applied hload _ => exact .reverted hend hload

/-- The fall-back. The car is a built-in preset, so that loading it cannot
fail. -/
theorem ensures_fallBackToBootModel (m : PresetMap) (b : Board) (s : Sketch) :
    OnPresets m (fallBackToBootModel b s) fun s' m' => s' = s.fallenBack b m ∧ m' = m := by
  refine (ensures_loadAnyPreset m s.bootModelName).bind ?_
  rintro loaded m' ⟨hload, rfl, -⟩
  unfold Sketch.fallenBack
  rw [← hload]
  cases loaded with
  | ok cfg =>
    refine (ensures_applyToSketch m' b cfg _).bind ?_
    rintro x m' ⟨rfl, rfl⟩
    exact Prog.ensures_pure ⟨rfl, rfl⟩
  -- the boot model does not load either, and the built-in car does
  | error e =>
    refine (ensures_loadAnyPreset m' kPresetRcCar).bind ?_
    rintro loaded m' ⟨hload, rfl, -⟩
    have hcar : m'.loadAny kPresetRcCar = .ok builtinPresetRcCar := rfl
    obtain rfl : loaded = .ok builtinPresetRcCar := hload.trans hcar
    refine (ensures_applyToSketch m' b builtinPresetRcCar _).bind ?_
    rintro x m' ⟨rfl, rfl⟩
    exact Prog.ensures_pure ⟨rfl, rfl⟩

/-- The transition of `model_delete`. The handler has two tails, one after the
boot name was reset and one where it stays; `htail` is the end of both. -/
theorem ensures_modelDelete (hend : r.endpoint = .modelDelete) :
    OnPresets m (handleApiModelDelete b r.args s) fun x m' => Transition b millis r s m x.1 m' := by
  unfold handleApiModelDelete
  dsimp only
  split
  · next hreadonly => exact Prog.ensures_pure (.notDeleted hend (.inl hreadonly))
  · next hwrite =>
    refine (ensures_deleteUserPreset m r.modelName).bind ?_
    rintro deleted m' (⟨hmem, rfl, rfl⟩ | ⟨hnew, ⟨e, rfl⟩, rfl⟩)
    swap
    · exact Prog.ensures_pure (.notDeleted hend (.inr hnew))
    -- the end of the handler, once the boot name was reset
    have htail : OnPresets (m.erase (presetKey r.modelName))
        (if (s.bootReset r.modelName).currentModelName = r.modelName then
          (fallBackToBootModel b (s.bootReset r.modelName)).bind fun t =>
            .pure (t, Reply.json true "Preset deleted")
        else .pure (s.bootReset r.modelName, Reply.json true "Preset deleted") :
          NvsM (Sketch × Reply)) fun x m' => Transition b millis r s m x.1 m' := by
      have htransition : Transition b millis r s m
          (s.afterDelete b (m.erase (presetKey r.modelName)) r.modelName)
          (m.erase (presetKey r.modelName)) := .deleted hend (Bool.eq_false_iff.mpr hwrite) hmem
      unfold Sketch.afterDelete at htransition
      split at htransition
      · next hcurrent =>
        rw [if_pos hcurrent]
        refine (ensures_fallBackToBootModel _ b _).bind ?_
        rintro t m' ⟨rfl, rfl⟩
        exact Prog.ensures_pure htransition
      · next hcurrent =>
        rw [if_neg hcurrent]
        exact Prog.ensures_pure htransition
    dsimp only
    split
    · next hboot =>
      have hreset : s.bootReset r.modelName = { s with bootModelName := kPresetRcCar } :=
        if_pos hboot
      rw [hreset] at htail
      refine (ensures_saveBootModelName _ _).bind ?_
      rintro - m' ⟨-, rfl⟩
      exact htail
    · next hboot =>
      have hreset : s.bootReset r.modelName = s := if_neg hboot
      rw [hreset] at htail
      exact htail

/-- The two requests about the access point leave the model alone. -/
theorem ensures_apConfig (hend : r.endpoint ≠ .modelDelete) (message : String) :
    OnPresets m (handleApConfig message r.args s) fun x m' => Transition b millis r s m x.1 m' := by
  unfold handleApConfig
  split
  · exact Prog.ensures_pure (.same hend (.refl s))
  · dsimp only
    split
    · exact Prog.ensures_pure (.same hend (.refl s))
    · -- two writes, and the second one decides the answer
      refine (ensures_saveApSsid m _).bind ?_
      rintro - m' ⟨rfl, rfl⟩
      refine (ensures_saveApPassword m' _).bind ?_
      rintro saved m' rfl
      cases saved with
      | false => exact Prog.ensures_pure (.same hend (.refl s))
      | true => exact Prog.ensures_pure (.same hend ⟨rfl, rfl, rfl, rfl⟩)

/-- **Every request is one of the transitions** when no NVS call fails. -/
theorem ensures_handleRequest (b : Board) (millis : UInt32) (r : Request) (s : Sketch)
    (m : PresetMap) :
    OnPresets m (handleRequest b millis r s) fun x m' => Transition b millis r s m x.1 m' := by
  by_cases himmediate : r.endpoint.Immediate
  · -- the requests that do not look at the storage
    obtain ⟨x, hx⟩ := handleRequest_immediate b millis himmediate s
    have htransition : Transition b millis r s m x.1 m := .edited himmediate hx
    rw [hx]
    exact Prog.ensures_pure htransition
  -- the others are about models or the access point, one lemma each
  unfold handleRequest
  cases hend : r.endpoint with
  | presetApply => exact ensures_presetApply hend
  | modelSetDefault => exact ensures_modelSetDefault hend
  | modelCreate => exact ensures_modelCreate hend
  | modelSaveCurrent => exact ensures_modelSaveCurrent hend
  | modelRevert => exact ensures_modelRevert hend
  | modelDelete => exact ensures_modelDelete hend
  | apConfigSet => exact ensures_apConfig (by simp [hend]) _
  | apConfigApplyReboot => exact ensures_apConfig (by simp [hend]) _
  | _ => exact absurd (by rw [hend]; trivial) himmediate

end Transitions

/-! ### Startup -/

/-- The model a device boots with, given the name it read: the car when there is
no such model. -/
def PresetMap.bootModel (m : PresetMap) (boot : Str) : Str × PersistedConfig :=
  match m.loadAny boot with
  | .ok cfg => (boot, cfg)
  | .error _ => (kPresetRcCar, builtinPresetRcCar)

/-- That model can be loaded. -/
theorem loadAny_bootModel (m : PresetMap) (boot : Str) :
    m.loadAny (m.bootModel boot).1 = .ok (m.bootModel boot).2 := by
  unfold PresetMap.bootModel
  cases hload : m.loadAny boot with
  | ok cfg => exact hload
  | error e => rfl

/-- The name that is read at boot is sanitized, whatever is stored: the loader
sanitizes what it has read, and takes the car when nothing is left. -/
theorem sanitizedName_bootName (n : NvsStore) : SanitizedName n.bootName := by
  have hcar : SanitizedName kPresetRcCar := by decide
  -- whatever the four calls answer, it ends with a name that was sanitized or with the
  -- car
  have halways : loadBootModelName.Always SanitizedName := by
    refine Prog.always_bind_of_forall _ fun ok => ?_
    cases ok with
    | false => exact hcar
    | true =>
      refine Prog.always_bind_of_forall _ fun name => ?_
      cases name with
      | none => exact hcar
      | some name =>
        dsimp only
        split
        · exact hcar
        · refine Prog.always_bind_of_forall _ fun name => ?_
          cases name with
          | none => exact hcar
          | some name =>
            dsimp only
            split
            · exact hcar
            · exact sanitizedName_sanitize name
  exact halways.eval nvsDevice n

/-- What `setup()` leaves in the globals, given the model it boots with. -/
structure Booted (b : Board) (model : Str × PersistedConfig) (s : Sketch) : Prop where
  rc : s.rc = { (applyTables b model.2 {}).1 with
    bank := (applyTables b model.2 {}).1.bank.applyFailsafeAllOutputs }
  current : s.currentModelName = model.1
  boot : s.bootModelName = model.1
  clean : s.modelDirty = false

/-- On a storage that keeps presets, both readings of the boot preset agree. -/
theorem bootPreset_eq {n : NvsStore} {m : PresetMap} (h : Keeps n m) :
    n.bootPreset = m.bootModel n.bootName := by
  have hload : n.load n.bootName = m.loadAny n.bootName := by
    obtain ⟨-, -, heval, -⟩ := ensures_loadAnyPreset m n.bootName n h
    rwa [eval_load] at heval
  unfold NvsStore.bootPreset PresetMap.bootModel
  cases hboot : m.loadAny n.bootName <;> simp only [hload, hboot]

/-- **Startup** on a storage that keeps presets. -/
theorem ensures_setup {n : NvsStore} {m : PresetMap} (h : Keeps n m) (b : Board) (now : UInt32) :
    Keeps ((setup b now).eval nvsDevice n).2 m ∧
      Booted b (m.bootModel n.bootName) ((setup b now).eval nvsDevice n).1 := by
  refine ⟨?_, ?_⟩
  · -- only the apply writes, and it writes no preset
    rw [setup_eq, Prog.eval_bind, eval_startup]
    dsimp only
    rw [Prog.eval_bind]
    obtain ⟨m', hm', -, rfl⟩ := ensures_applyToSketch m b n.bootPreset.2
      (Startup.sketch ⟨(loadApSsid.eval nvsDevice n).1, (loadApPassword.eval nvsDevice n).1,
        n.bootPreset.1, n.bootPreset.2⟩ now) n h
    exact hm'
  · rw [eval_setup, eval_startup, bootPreset_eq h]
    exact ⟨rfl, rfl, rfl, rfl⟩

/-! ### Requests on the device -/

/-- A request without storage faults that does not restart the device. -/
theorem request_of_noFault {b : Board} {r : Request} {plan restartPlan : Prog.Plan nvsInterface}
    (hend : r.endpoint ≠ .apConfigApplyReboot) (hplan : ∀ k o, plan k o = false) (s : System) :
    s.request b r plan restartPlan =
      { s with
        sketch := ((handleRequest b s.millis r s.sketch).eval nvsDevice s.nvs).1.1
        nvs := ((handleRequest b s.millis r s.sketch).eval nvsDevice s.nvs).2 } := by
  unfold System.request
  dsimp only
  rw [if_neg fun hboth => hend hboth.1, Prog.run_of_noFault nvsDevice hplan]

/-- **One request on the device** is one of the transitions. -/
theorem transition_request {b : Board} {r : Request} {plan restartPlan : Prog.Plan nvsInterface}
    (hend : r.endpoint ≠ .apConfigApplyReboot) (hplan : ∀ k o, plan k o = false) {s : System}
    {m : PresetMap} (h : Keeps s.nvs m) :
    ∃ m', Keeps (s.request b r plan restartPlan).nvs m' ∧
      Transition b s.millis r s.sketch m (s.request b r plan restartPlan).sketch m' := by
  rw [request_of_noFault hend hplan]
  exact ensures_handleRequest b s.millis r s.sketch m s.nvs h

/-- The device after a boot without storage faults. -/
theorem booted_boot {nvs : NvsStore} {m : PresetMap} {plan : Prog.Plan nvsInterface}
    (h : Keeps nvs m) (b : Board) (hplan : ∀ k o, plan k o = false) (millis : UInt32) :
    Keeps (System.boot b nvs plan millis).nvs m ∧
      Booted b (m.bootModel nvs.bootName) (System.boot b nvs plan millis).sketch := by
  unfold System.boot
  dsimp only
  rw [Prog.run_of_noFault nvsDevice hplan]
  exact ensures_setup h b millis

end RcController
