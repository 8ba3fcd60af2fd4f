import RcController.Device.Models
import RcController.Lib.Runs

/-!
# The current and the boot model

Do the names the firmware remembers always name something? A save never takes a name
away, so only a delete can: the directory finds the model under any spelling, while the
handler compares the deleted name with the current and the boot name byte by byte. When
the spellings differ, the model goes and the name stays (`DeletesOtherSpelling`).

`namesResolve_iff` is exact: along a run of model requests without storage faults both
names resolve in every state exactly when no request deletes the model of one of them
under another spelling.
-/

namespace RcController

open DeviceProg Runs

/-! ### Names that resolve -/

/-- Loading the name succeeds. -/
def PresetMap.Resolves (m : PresetMap) (name : Str) : Prop := ∃ cfg, m.loadAny name = .ok cfg

section Resolves

variable {m : PresetMap} {name n : Str}

/-- A name resolves when it is built in or its key is in the store. -/
theorem resolves_iff :
    m.Resolves name ↔ (builtinPreset name).isSome = true ∨ presetKey name ∈ m.entries := by
  unfold PresetMap.Resolves PresetMap.loadAny
  cases builtinPreset name with
  | some cfg => exact iff_of_true ⟨cfg, rfl⟩ (.inl rfl)
  | none =>
    rw [BoundedMap.mem_iff]
    unfold PresetMap.load
    cases m.lookup (presetKey name) <;> simp

/-- The car always resolves. -/
theorem resolves_car : m.Resolves kPresetRcCar := resolves_iff.mpr (.inl rfl)

/-- The key of a sanitized name is the name with its case folded. -/
theorem presetKey_of_sanitized (h : SanitizedName name) : presetKey name = name.fold := by
  rw [presetKey, sanitize_of_sanitized h]

/-- A save takes no name away. -/
theorem PresetMap.Resolves.insert (h : m.Resolves name) {k : Str} (cfg : PersistedConfig)
    (hfits : m.Fits k) : PresetMap.Resolves (m.insert k cfg hfits) name := by
  rw [resolves_iff] at h ⊢
  exact h.imp id fun hmem => Finmap.mem_insert.mpr (.inr hmem)

/-- The name is of a user preset that another spelling deletes. A built-in name
is never orphaned: what the store has under its key is not what the name
loads. -/
def Orphans (name deleted : Str) : Prop :=
  builtinPreset name = none ∧ name.fold = deleted.fold ∧ name ≠ deleted

/-- **What a delete does to a name** that resolves and is not the deleted one:
it stays, unless the deleted one is another spelling of it. -/
theorem resolves_erase_iff (hname : SanitizedName name) (hn : SanitizedName n) (hne : name ≠ n)
    (h : m.Resolves name) : PresetMap.Resolves (m.erase (presetKey n)) name ↔ ¬ Orphans name n := by
  rw [resolves_iff] at h ⊢
  rw [presetKey_of_sanitized hname] at h ⊢
  rw [presetKey_of_sanitized hn]
  have herase : name.fold ∈ (BoundedMap.erase m n.fold).entries ↔
      name.fold ≠ n.fold ∧ name.fold ∈ m.entries :=
    Finmap.mem_erase
  rw [herase]
  cases hbuiltin : builtinPreset name with
  -- a built-in name resolves whatever is deleted
  | some cfg => exact iff_of_true (.inl rfl) fun horphan => by simp [horphan.1] at hbuiltin
  | none =>
    rw [hbuiltin] at h
    -- any other one resolves by the user directory alone
    have hmem : name.fold ∈ m.entries := by simpa using h
    constructor
    · rintro (hsome | ⟨hfold, -⟩) horphan
      · cases hsome
      · exact hfold horphan.2.1
    · intro hkept
      exact .inr ⟨fun hfold => hkept ⟨hbuiltin, hfold, hne⟩, hmem⟩

/-- The other spelling is in the store. -/
theorem mem_of_orphan (hname : SanitizedName name) (hn : SanitizedName n) (h : m.Resolves name)
    (horphan : Orphans name n) : presetKey n ∈ m.entries := by
  rw [resolves_iff, horphan.1] at h
  have hmem : presetKey name ∈ m.entries := by simpa using h
  rwa [presetKey_of_sanitized hname, horphan.2.1, ← presetKey_of_sanitized hn] at hmem

end Resolves

/-! ### The requests of a run -/

/-- A model request during which no NVS call fails. -/
def ModelRequest : Event → Prop
  | .request r plan _ =>
    (r.endpoint = .presetApply ∨ r.endpoint = .modelCreate ∨ r.endpoint = .modelSetDefault ∨
      r.endpoint = .modelSaveCurrent ∨ r.endpoint = .modelRevert ∨ r.endpoint = .modelDelete) ∧
      ∀ k o, plan k o = false
  | _ => False

/-- **The slip**: the model of the current name, or of the boot name, is deleted
under another spelling. When the current name is spelled as in the request the
handler also looks at the boot name, and replaces it. -/
def Slips (r : Request) (s : Sketch) : Prop :=
  r.endpoint = .modelDelete ∧ isReadonlyModel r.modelName = false ∧
    s.currentModelName ≠ r.modelName ∧
      (Orphans s.currentModelName r.modelName ∨ Orphans s.bootModelName r.modelName)

/-- The request slips. -/
def DeletesOtherSpelling (s : System) : Event → Prop
  | .request r _ _ => Slips r s.sketch
  | _ => False

/-- **Both names resolve**, read as the source would read them: by loading the
preset from the storage. -/
def NamesResolve (s : System) : Prop :=
  ((loadAnyPreset s.sketch.currentModelName).eval nvsDevice s.nvs).1.isOk = true ∧
    ((loadAnyPreset s.sketch.bootModelName).eval nvsDevice s.nvs).1.isOk = true

/-- What is known of the names and the presets along a run. That the names are
sanitized is needed to compare them with the key of a deleted one; the reader of
the boot name and the handlers see to it. -/
structure NamesInv (m : PresetMap) (s : Sketch) : Prop where
  current : m.Resolves s.currentModelName
  boot : m.Resolves s.bootModelName
  currentOk : SanitizedName s.currentModelName
  bootOk : SanitizedName s.bootModelName

section Step

variable {b : Board} {millis : UInt32} {r : Request} {s s' : Sketch} {m m' : PresetMap}

/-- Names and presets are all that counts. -/
theorem NamesInv.congr (h : NamesInv m s) (hcurrent : s'.currentModelName = s.currentModelName)
    (hboot : s'.bootModelName = s.bootModelName) : NamesInv m s' := by
  refine ⟨?_, ?_, ?_, ?_⟩
  · rw [hcurrent]; exact h.current
  · rw [hboot]; exact h.boot
  · rw [hcurrent]; exact h.currentOk
  · rw [hboot]; exact h.bootOk

/-- A save keeps what is known. -/
theorem NamesInv.insert (h : NamesInv m s) {k : Str} (cfg : PersistedConfig) (hfits : m.Fits k) :
    NamesInv (m.insert k cfg hfits) s :=
  ⟨h.current.insert cfg hfits, h.boot.insert cfg hfits, h.currentOk, h.bootOk⟩

/-- An apply takes over a name that resolves, or leaves the names alone. -/
theorem NamesInv.applied (h : NamesInv m s) {name : Str} (hname : SanitizedName name)
    (hresolves : m.Resolves name) (cfg : PersistedConfig) : NamesInv m (s.applied b cfg name) := by
  cases happly : (applyTables b cfg s.rc).2 with
  | ok _ =>
    rw [Sketch.applied_ok happly]
    exact ⟨hresolves, h.boot, hname, h.bootOk⟩
  | error e =>
    rw [Sketch.applied_error happly]
    exact h.congr rfl rfl

/-- The name of a request is sanitized by the handlers. -/
theorem sanitizedName_modelName (r : Request) : SanitizedName r.modelName :=
  sanitizedName_sanitize _

/-- The fall-back leaves names that resolve: the boot model when it loads, and
the car for both names when it does not. -/
theorem namesInv_fallenBack (b : Board) (m : PresetMap) (hboot : SanitizedName s.bootModelName) :
    NamesInv m (s.fallenBack b m) := by
  have hcar : SanitizedName kPresetRcCar := by decide
  unfold Sketch.fallenBack
  cases hload : m.loadAny s.bootModelName with
  | ok cfg => exact ⟨⟨cfg, hload⟩, ⟨cfg, hload⟩, hboot, hboot⟩
  | error e => exact ⟨resolves_car, resolves_car, hcar, hcar⟩

/-- A delete resets the boot name when it is the deleted one, byte by byte, and
not the current name. -/
theorem bootModelName_bootReset (name : Str) :
    (s.bootReset name).bootModelName
      = if s.bootModelName = name then kPresetRcCar else s.bootModelName := by
  unfold Sketch.bootReset
  split <;> rfl

theorem currentModelName_bootReset (name : Str) :
    (s.bootReset name).currentModelName = s.currentModelName := by
  unfold Sketch.bootReset
  split <;> rfl

/-- Either way the boot name stays sanitized. -/
theorem sanitizedName_bootReset (h : NamesInv m s) (n : Str) :
    SanitizedName (s.bootReset n).bootModelName := by
  rw [bootModelName_bootReset]
  split
  · exact (by decide : SanitizedName kPresetRcCar)
  · exact h.bootOk

/-- **A delete keeps both names** unless it orphans one. -/
theorem namesInv_afterDelete_iff (h : NamesInv m s) {n : Str} (hn : SanitizedName n) :
    NamesInv (m.erase (presetKey n)) (s.afterDelete b (m.erase (presetKey n)) n) ↔
      ¬ (s.currentModelName ≠ n ∧ (Orphans s.currentModelName n ∨ Orphans s.bootModelName n)) := by
  have hboot := sanitizedName_bootReset h n
  unfold Sketch.afterDelete
  rw [currentModelName_bootReset]
  split
  · next hcurrent =>
    refine iff_of_true (namesInv_fallenBack b _ hboot) fun hslip => hslip.1 hcurrent
  · next hcurrent =>
    have hkeeps := resolves_erase_iff h.currentOk hn hcurrent h.current
    -- the boot name is the deleted one, and was reset, or it is looked up as the current one is
    have hbootKeeps : PresetMap.Resolves (m.erase (presetKey n)) (s.bootReset n).bootModelName ↔
        ¬ Orphans s.bootModelName n := by
      rw [bootModelName_bootReset]
      split
      · next heq => exact iff_of_true resolves_car fun horphan => horphan.2.2 heq
      · next hne => exact resolves_erase_iff h.bootOk hn hne h.boot
    constructor
    · rintro hinv ⟨-, horphan | horphan⟩
      · have hresolves := hinv.current
        rw [currentModelName_bootReset] at hresolves
        exact hkeeps.mp hresolves horphan
      · exact hbootKeeps.mp hinv.boot horphan
    · intro hslip
      refine ⟨?_, ?_, ?_, hboot⟩
      · rw [currentModelName_bootReset]
        exact hkeeps.mpr fun horphan => hslip ⟨hcurrent, .inl horphan⟩
      · exact hbootKeeps.mpr fun horphan => hslip ⟨hcurrent, .inr horphan⟩
      · rw [currentModelName_bootReset]
        exact h.currentOk

/-- Every request leaves sanitized names, whether they resolve or not. This is
the part of the invariant that a slip does not break, and it gives the converse:
when both names resolve after a request, all of the invariant holds. -/
theorem sanitized_transition (h : NamesInv m s) (himmediate : ¬ r.endpoint.Immediate)
    (htransition : Transition b millis r s m s' m') :
    SanitizedName s'.currentModelName ∧ SanitizedName s'.bootModelName := by
  -- an apply takes the new name or, when it fails, keeps the old one
  have happlied : ∀ {name : Str}, SanitizedName name → ∀ cfg,
      SanitizedName (s.applied b cfg name).currentModelName ∧
        SanitizedName (s.applied b cfg name).bootModelName := by
    intro name hname cfg
    cases happly : (applyTables b cfg s.rc).2 with
    | ok _ =>
      rw [Sketch.applied_ok happly]
      exact ⟨hname, h.bootOk⟩
    | error e =>
      rw [Sketch.applied_error happly]
      exact ⟨h.currentOk, h.bootOk⟩
  cases htransition with
  | edited hend hrun => exact absurd hend himmediate
  | same hend hsame =>
    rw [hsame.current, hsame.boot]
    exact ⟨h.currentOk, h.bootOk⟩
  | notDeleted hend hrefused => exact ⟨h.currentOk, h.bootOk⟩
  | presetApplied hend hload => exact happlied (sanitizedName_modelName r) _
  | defaultSet hend hload => exact ⟨h.currentOk, sanitizedName_modelName r⟩
  | created hend hconfig hcfg hfits => exact happlied (sanitizedName_modelName r) _
  | saved hend hwrite hfits => exact ⟨h.currentOk, h.bootOk⟩
  | reverted hend hload => exact happlied h.currentOk _
  | deleted hend hwrite hmem =>
    have hboot := sanitizedName_bootReset h r.modelName
    unfold Sketch.afterDelete
    split
    · have hinv := namesInv_fallenBack b (m.erase (presetKey r.modelName)) hboot
      exact ⟨hinv.currentOk, hinv.bootOk⟩
    · rw [currentModelName_bootReset]
      exact ⟨h.currentOk, hboot⟩

/-- **One request**: the names keep resolving exactly when it does not slip. -/
theorem namesInv_transition (h : NamesInv m s) (himmediate : ¬ r.endpoint.Immediate)
    (htransition : Transition b millis r s m s' m') : NamesInv m' s' ↔ ¬ Slips r s := by
  have hnot : ∀ {endpoint : Endpoint}, r.endpoint = endpoint → endpoint ≠ .modelDelete →
      ¬ Slips r s := fun hend hne hslip => hne (hend.symm.trans hslip.1)
  cases htransition with
  | edited hend hrun => exact absurd hend himmediate
  | same hend hsame =>
    exact iff_of_true (h.congr hsame.current hsame.boot) fun hslip => hend hslip.1
  | notDeleted hend hrefused =>
    -- a model that was not there, or may not be deleted, is nobody's under another spelling
    refine iff_of_true h fun hslip => ?_
    obtain ⟨-, hwrite, -, horphan⟩ := hslip
    rcases hrefused with hreadonly | hnew
    · rw [hwrite] at hreadonly
      cases hreadonly
    · rcases horphan with horphan | horphan
      · exact hnew (mem_of_orphan h.currentOk (sanitizedName_modelName r) h.current horphan)
      · exact hnew (mem_of_orphan h.bootOk (sanitizedName_modelName r) h.boot horphan)
  | presetApplied hend hload =>
    exact iff_of_true (h.applied (sanitizedName_modelName r) ⟨_, hload⟩ _)
      (hnot hend (by simp))
  | defaultSet hend hload =>
    exact iff_of_true ⟨h.current, ⟨_, hload⟩, h.currentOk, sanitizedName_modelName r⟩
      (hnot hend (by simp))
  | created hend hconfig hcfg hfits =>
    refine iff_of_true ((h.insert _ hfits).applied (sanitizedName_modelName r) ?_ _)
      (hnot hend (by simp))
    exact resolves_iff.mpr (.inr (Finmap.mem_insert.mpr (.inl rfl)))
  | saved hend hwrite hfits =>
    exact iff_of_true ((h.insert _ hfits).congr rfl rfl) (hnot hend (by simp))
  | reverted hend hload =>
    exact iff_of_true (h.applied h.currentOk ⟨_, hload⟩ _) (hnot hend (by simp))
  | deleted hend hwrite hmem =>
    rw [namesInv_afterDelete_iff h (sanitizedName_modelName r)]
    refine not_congr ⟨fun hslip => ⟨hend, hwrite, hslip⟩, fun hslip => hslip.2.2⟩

end Step

/-! ### Runs -/

/-- Over a storage that keeps presets both readings agree. -/
theorem namesResolve_iff_resolves {s : System} {m : PresetMap} (h : Keeps s.nvs m) :
    NamesResolve s ↔ m.Resolves s.sketch.currentModelName ∧ m.Resolves s.sketch.bootModelName := by
  have hload :
      ∀ name, ((loadAnyPreset name).eval nvsDevice s.nvs).1.isOk = true ↔ m.Resolves name := by
    intro name
    obtain ⟨-, -, heval, -⟩ := ensures_loadAnyPreset m name s.nvs h
    rw [heval]
    unfold PresetMap.Resolves
    cases m.loadAny name <;> simp [Except.isOk, Except.toBool]
  exact and_congr (hload _) (hload _)

/-- What holds along a run as long as no request slips. -/
def SystemNames (s : System) : Prop := ∃ m, Keeps s.nvs m ∧ NamesInv m s.sketch

/-- What holds along a run gives the property. -/
theorem SystemNames.namesResolve {s : System} (h : SystemNames s) : NamesResolve s := by
  obtain ⟨m, hkeeps, hinv⟩ := h
  exact (namesResolve_iff_resolves hkeeps).mpr ⟨hinv.current, hinv.boot⟩

/-- The names of a device that has just booted: both are the name of the preset
it booted with, which could be loaded. -/
theorem systemNames_boot {nvs : NvsStore} {m : PresetMap} {plan : Prog.Plan nvsInterface}
    (h : Keeps nvs m) (b : Board) (hplan : ∀ k o, plan k o = false) (millis : UInt32) :
    SystemNames (System.boot b nvs plan millis) := by
  obtain ⟨hkeeps, hbooted⟩ := booted_boot h b hplan millis
  have hresolves : m.Resolves (m.bootModel nvs.bootName).1 := ⟨_, loadAny_bootModel m nvs.bootName⟩
  have hok : SanitizedName (m.bootModel nvs.bootName).1 := by
    unfold PresetMap.bootModel
    cases m.loadAny nvs.bootName with
    | ok cfg => exact sanitizedName_bootName nvs
    | error e => exact (by decide : SanitizedName kPresetRcCar)
  refine ⟨m, hkeeps, ?_, ?_, ?_, ?_⟩
  · rw [hbooted.current]; exact hresolves
  · rw [hbooted.boot]; exact hresolves
  · rw [hbooted.current]; exact hok
  · rw [hbooted.boot]; exact hok

/-- A model request that does not slip keeps what holds along a run, and one
that slips leaves a name that does not resolve. -/
theorem systemNames_step {b : Board} {s : System} (h : SystemNames s) {event : Event}
    (hevent : ModelRequest event) :
    (¬ DeletesOtherSpelling s event → SystemNames (s.step b event)) ∧
      (NamesResolve (s.step b event) → ¬ DeletesOtherSpelling s event) := by
  obtain ⟨m, hkeeps, hinv⟩ := h
  cases event with
  | request r plan restartPlan =>
    obtain ⟨hend, hplan⟩ := hevent
    have hreboot : r.endpoint ≠ .apConfigApplyReboot := by
      rcases hend with h | h | h | h | h | h <;> rw [h] <;> exact Endpoint.noConfusion
    have himmediate : ¬ r.endpoint.Immediate := by
      rcases hend with h | h | h | h | h | h <;> rw [h] <;> exact id
    obtain ⟨m', hkeeps', htransition⟩ :=
      transition_request (b := b) hreboot hplan hkeeps
    -- the step lemma is about the map, and here it is carried to the storage and back
    have hiff := namesInv_transition hinv himmediate htransition
    refine ⟨fun hslip => ⟨m', hkeeps', hiff.mpr hslip⟩, fun hresolve => ?_⟩
    have hresolves := (namesResolve_iff_resolves hkeeps').mp hresolve
    have hok := sanitized_transition hinv himmediate htransition
    exact hiff.mp ⟨hresolves.1, hresolves.2, hok.1, hok.2⟩
  | tick _ => exact hevent.elim
  | schedulerTick => exact hevent.elim
  | connect _ _ => exact hevent.elim
  | disconnect _ => exact hevent.elim
  | elapse _ => exact hevent.elim

/-- **When the names never dangle.** From a boot on a storage that keeps
presets, along any run of model requests without storage faults: both names
resolve in every state exactly when no request deletes the model of one of them
under another spelling. -/
theorem namesResolve_iff (b : Board) {nvs : NvsStore} {m : PresetMap} (h : Keeps nvs m)
    {plan : Prog.Plan nvsInterface} (hplan : ∀ k o, plan k o = false) (millis : UInt32)
    {events : List Event} (hevents : ∀ e ∈ events, ModelRequest e) :
    StatesMeet (System.step b) NamesResolve (System.boot b nvs plan millis) events ↔
      StepsMeet (System.step b) (fun s e => ¬ DeletesOtherSpelling s e)
        (System.boot b nvs plan millis) events :=
  statesMeet_iff_stepsMeet (I := SystemNames) (fun _ hs => hs.namesResolve)
    (fun _ _ hs hA hC => (systemNames_step hs hA).1 hC)
    (fun _ _ hs hA hP => (systemNames_step hs hA).2 hP) (systemNames_boot h b hplan millis)
    (stepsMeet_of_mem hevents _)

/-! ### One model, two spellings -/

/-- `model_create` of an empty model. -/
def createModel (name : String) : Request where
  endpoint := .modelCreate
  args p := if p = .name then some (lit name) else none

/-- `model_delete` of the model with the given name. -/
def deleteModel (name : String) : Request where
  endpoint := .modelDelete
  args p := if p = .name then some (lit name) else none

/-- A request without storage faults. -/
def faultless (r : Request) : Event := .request r (fun _ _ => false) (fun _ _ => false)

/-- An empty storage keeps no preset. -/
theorem keeps_empty : Keeps {} BoundedMap.empty := ⟨Shelf.empty, stored_empty, rfl⟩

/-- The model is deleted as it was created, and the device falls back to the
car. -/
theorem namesResolve_iff_same_spelling :
    StatesMeet (System.step smallBoard) NamesResolve
      (System.boot smallBoard {} (fun _ _ => false) 0)
        [faultless (createModel "Crawler"), faultless (deleteModel "Crawler")] ↔
      StepsMeet (System.step smallBoard) (fun s e => ¬ DeletesOtherSpelling s e)
        (System.boot smallBoard {} (fun _ _ => false) 0)
        [faultless (createModel "Crawler"), faultless (deleteModel "Crawler")] :=
  namesResolve_iff smallBoard keeps_empty (fun _ _ => rfl) 0
    (by simp [faultless, ModelRequest, createModel, deleteModel])

/-- The model `Crawler` is created and deleted as `crawler`. Every reply is ok,
the current name is still `Crawler`, and it does not load. -/
theorem model_delete_dangles :
    let s := (System.boot smallBoard {} (fun _ _ => false) 0).step smallBoard
      (faultless (createModel "Crawler"))
    let s' := s.step smallBoard (faultless (deleteModel "crawler"))
    s.sketch.currentModelName = lit "Crawler" ∧
      ((handleRequest smallBoard s.millis (deleteModel "crawler") s.sketch).eval nvsDevice
        s.nvs).1.2.ok = true ∧
      s'.sketch.currentModelName = lit "Crawler" ∧
      ((loadAnyPreset s'.sketch.currentModelName).eval nvsDevice s'.nvs).1.isOk = false := by
  decide +kernel

end RcController
