import RcController.Store.Reads

/-!
# What the requests about models write

Presets, the directory, the boot model and the blob of the running configuration: no request
about models, inputs, outputs or pairing writes another key, whatever fails on the way. The
credentials of the access point lie under keys of their own, so they stay through all of them
(`writesModels_run`).
-/

namespace RcController

open DeviceProg

/-- The keys of the namespace other than those of the access point. -/
def NvsKey.OfModels : NvsKey → Prop
  | .apSsid | .apPass => False
  | _ => True

/-- A call that changes no other key. Opening the namespace is one as well. -/
def NvsOp.WritesModels : NvsOp → Prop
  | .setBlob key _ | .setStr key _ | .eraseKey key => key.OfModels
  | _ => True

abbrev WritesModels {α : Type} (p : NvsM α) : Prop := p.Makes NvsOp.WritesModels

/-- Such a call leaves a key of the access point as it is, and a namespace where
it is. -/
theorem exec_writesModels {o : NvsOp} (h : o.WritesModels) (n : NvsStore) {key : NvsKey}
    (hkey : ¬ key.OfModels) : (nvsDevice.exec o n).2.get key = n.get key ∧
      (n.created = true → (nvsDevice.exec o n).2.created = true) := by
  have hne : ∀ {key' : NvsKey}, key'.OfModels → key ≠ key' := fun h heq => hkey (heq ▸ h)
  cases o with
  | setBlob key' v => exact ⟨NvsStore.get_set_of_ne n (hne h) _, id⟩
  | setStr key' s => exact ⟨NvsStore.get_set_of_ne n (hne h) _, id⟩
  | eraseKey key' => exact ⟨NvsStore.get_erase_of_ne n (hne h), id⟩
  | openReadwrite => exact ⟨rfl, fun _ => rfl⟩
  | _ => exact ⟨rfl, id⟩

section WritesModels

variable {α : Type} {p : NvsM α}

/-- **Through such a program** the keys of the access point stay, whatever
fails. -/
theorem writesModels_run (h : WritesModels p) (plan : Prog.Plan nvsInterface) {n : NvsStore}
    (hcreated : n.created = true) {key : NvsKey} (hkey : ¬ key.OfModels) :
    (p.run nvsDevice plan n).2.get key = n.get key ∧
      (p.run nvsDevice plan n).2.created = true := by
  refine h.run_invariant (J := fun t : NvsStore => t.get key = n.get key ∧ t.created = true)
    (fun o t ho ht => ?_) plan ⟨rfl, hcreated⟩
  obtain ⟨hget, hstays⟩ := exec_writesModels ho t hkey
  exact ⟨hget.trans ht.1, hstays ht.2⟩

/-- A program that only reads writes nothing. -/
theorem writesModels_of_reads (h : Reads p) : WritesModels p :=
  h.mono fun o ho => by cases o <;> trivial

end WritesModels

/-- The calls themselves. Opening and committing change no key, writing a blob
changes the key it is written under, and so does erasing. -/
theorem writesModels_openReadwrite : WritesModels nvsOpenReadwrite := Prog.makes_perform trivial

theorem writesModels_commit : WritesModels nvsCommit := Prog.makes_perform trivial

theorem writesModels_setBlob (key : NvsKey) (h : key.OfModels) (v : NvsValue) :
    WritesModels (nvsSetBlob key v) := Prog.makes_perform h

theorem writesModels_eraseKey (key : NvsKey) (h : key.OfModels) : WritesModels (nvsEraseKey key) :=
  Prog.makes_perform h

/-! ### The preset store -/

/-- The blob of a slot and the directory lie under keys of models. -/
theorem writesModels_writePreset (slot : ℕ) (cfg : PersistedConfig) (dir : PresetDirectory) :
    WritesModels (writePreset slot cfg dir) := by
  refine writesModels_openReadwrite.bind fun opened => ?_
  cases opened with
  | false => exact Prog.makes_pure _
  | true =>
    refine (writesModels_setBlob (.pr slot) trivial _).bind fun saved => ?_
    -- a write that fails ends the function; the keys written so far are preset keys
    cases saved with
    | false => exact Prog.makes_pure _
    | true =>
      refine (writesModels_setBlob .presetDir trivial _).bind fun saved => ?_
      cases saved with
      | false => exact Prog.makes_pure _
      | true =>
        refine writesModels_commit.bind fun committed => ?_
        cases committed <;> exact Prog.makes_pure _

/-- A save reads the directory and then writes a preset. The slots that are
erased, below, are presets too. -/
theorem writesModels_saveUserPresetBlob (rawName : Str) (cfg : PersistedConfig) :
    WritesModels (saveUserPresetBlob rawName cfg) := by
  refine (writesModels_of_reads reads_loadPresetDirectory).bind fun dir => ?_
  cases findPresetSlotByName dir (sanitizePresetName rawName) with
  | some slot => exact writesModels_writePreset _ _ _
  | none =>
    dsimp only
    split
    · exact Prog.makes_pure _
    · exact writesModels_writePreset _ _ _

/-- The copying loop of a delete, by induction on the slots still to do. -/
theorem writesModels_copyPresets (dir : PresetDirectory) (slot : ℕ) (is : List ℕ)
    (newDir : PresetDirectory) : WritesModels (copyPresets dir slot is newDir) := by
  induction is generalizing newDir with
  | nil => exact Prog.makes_pure _
  | cons i is ih =>
    unfold copyPresets
    split
    · exact ih newDir
    · refine (writesModels_of_reads (reads_getBlob _)).bind fun v => ?_
      -- only a configuration is copied, and to a preset key
      rcases v with _ | ⟨cfg⟩ | ⟨dir⟩ | ⟨size⟩ | ⟨str⟩
      case some.config =>
        dsimp only
        split
        · exact Prog.makes_pure _
        · refine (writesModels_setBlob (.pr _) trivial _).bind fun saved => ?_
          cases saved with
          | false => exact Prog.makes_pure _
          | true => exact ih _
      all_goals exact ih newDir

theorem writesModels_erasePresets (is : List ℕ) : WritesModels (erasePresets is) := by
  induction is with
  | nil => exact Prog.makes_pure _
  | cons i is ih => exact (writesModels_eraseKey (.pr i) trivial).bind fun _ => ih

/-- A delete copies, erases and writes the directory. -/
theorem writesModels_deleteUserPreset (rawName : Str) :
    WritesModels (deleteUserPreset rawName) := by
  refine (writesModels_of_reads reads_loadPresetDirectory).bind fun dir => ?_
  cases findPresetSlotByName dir (sanitizePresetName rawName) with
  | none => exact Prog.makes_pure _
  | some slot =>
    refine writesModels_openReadwrite.bind fun opened => ?_
    cases opened with
    | false => exact Prog.makes_pure _
    | true =>
      refine (writesModels_copyPresets _ _ _ _).bind fun copied => ?_
      cases copied with
      | none => exact Prog.makes_pure _
      | some newDir =>
        -- the copies are done: the keys left over are erased and the directory is written
        refine (writesModels_erasePresets _).bind fun _ => ?_
        refine (writesModels_setBlob .presetDir trivial _).bind fun saved => ?_
        cases saved with
        | false => exact Prog.makes_pure _
        | true =>
          refine writesModels_commit.bind fun committed => ?_
          cases committed <;> exact Prog.makes_pure _

/-- The boot model has a key of its own, among those of models. -/
theorem writesModels_saveBootModelName (rawName : Str) :
    WritesModels (saveBootModelName rawName) := by
  refine writesModels_openReadwrite.bind fun opened => ?_
  cases opened with
  | false => exact Prog.makes_pure _
  | true =>
    refine Prog.Makes.bind (Prog.makes_perform trivial) fun saved => ?_
    cases saved with
    | false => exact Prog.makes_pure _
    | true => exact writesModels_commit

/-- The running configuration has a key of its own, among those of models. -/
theorem writesModels_saveRuntimeConfigToNvs (s : RcModel) :
    WritesModels (saveRuntimeConfigToNvs s) := by
  refine writesModels_openReadwrite.bind fun opened => ?_
  cases opened with
  | false => exact Prog.makes_pure _
  | true =>
    refine (writesModels_setBlob .cfg trivial _).bind fun saved => ?_
    cases saved with
    | false => exact Prog.makes_pure _
    | true => exact writesModels_commit

/-! ### The handlers -/

section Handlers

variable (b : Board) (args : Args) (s : Sketch)

/-- The handlers call one or more of these. An apply saves the running
configuration when it succeeds. -/
theorem writesModels_applyToSketch (cfg : PersistedConfig) :
    WritesModels (applyToSketch b cfg s) := by
  have happly : WritesModels (applyPersistedConfig b cfg s.rc) := by
    unfold applyPersistedConfig
    rcases applyTables b cfg s.rc with ⟨rc, _ | _⟩
    · exact Prog.makes_pure _
    · exact (writesModels_saveRuntimeConfigToNvs rc).bind fun _ => Prog.makes_pure _
  exact happly.bind fun _ => Prog.makes_pure _

theorem writesModels_presetApply : WritesModels (handleApiPresetApply b args s) := by
  refine (writesModels_of_reads (reads_loadAnyPreset _)).bind fun loaded => ?_
  cases loaded with
  | error e => exact Prog.makes_pure _
  | ok cfg =>
    refine (writesModels_applyToSketch b s cfg).bind fun applied => ?_
    rcases applied with ⟨t, _ | _⟩ <;> exact Prog.makes_pure _

theorem writesModels_modelSetDefault : WritesModels (handleApiModelSetDefault args s) := by
  refine (writesModels_of_reads (reads_loadAnyPreset _)).bind fun loaded => ?_
  cases loaded with
  | error e => exact Prog.makes_pure _
  | ok cfg =>
    refine (writesModels_saveBootModelName _).bind fun saved => ?_
    cases saved <;> exact Prog.makes_pure _

theorem writesModels_modelCreate : WritesModels (handleApiModelCreate b args s) := by
  refine (writesModels_of_reads (reads_newModelConfig args s)).bind fun config => ?_
  cases config with
  | error e => exact Prog.makes_pure _
  | ok cfg =>
    refine (writesModels_saveUserPresetBlob _ cfg).bind fun saved => ?_
    cases saved with
    | error e => exact Prog.makes_pure _
    | ok _ =>
      refine (writesModels_applyToSketch b s cfg).bind fun applied => ?_
      rcases applied with ⟨t, _ | _⟩ <;> exact Prog.makes_pure _

theorem writesModels_modelSaveCurrent (millis : UInt32) :
    WritesModels (handleApiModelSaveCurrent millis s) := by
  unfold handleApiModelSaveCurrent
  split
  · exact (writesModels_of_reads (reads_nextAvailableCustomModelName _ _)).bind
      fun _ => Prog.makes_pure _
  · refine (writesModels_saveUserPresetBlob _ _).bind fun saved => ?_
    cases saved with
    | error e => exact Prog.makes_pure _
    | ok _ => exact (writesModels_saveRuntimeConfigToNvs _).bind fun _ => Prog.makes_pure _

theorem writesModels_modelRevert : WritesModels (handleApiModelRevert b s) := by
  refine (writesModels_of_reads (reads_loadAnyPreset _)).bind fun loaded => ?_
  cases loaded with
  | error e => exact Prog.makes_pure _
  | ok cfg =>
    refine (writesModels_applyToSketch b s cfg).bind fun applied => ?_
    rcases applied with ⟨t, _ | _⟩ <;> exact Prog.makes_pure _

theorem writesModels_fallBackToBootModel : WritesModels (fallBackToBootModel b s) := by
  refine (writesModels_of_reads (reads_loadAnyPreset _)).bind fun loaded => ?_
  cases loaded with
  | ok cfg => exact (writesModels_applyToSketch b _ cfg).bind fun _ => Prog.makes_pure _
  | error e =>
    refine (writesModels_of_reads (reads_loadAnyPreset _)).bind fun loaded => ?_
    cases loaded with
    | ok cfg => exact (writesModels_applyToSketch b _ cfg).bind fun _ => Prog.makes_pure _
    | error e => exact (writesModels_applyToSketch b _ {}).bind fun _ => Prog.makes_pure _

/-- Deleting a model may be followed by applying the boot model, when the model
that is deleted is in use. -/
theorem writesModels_modelDelete : WritesModels (handleApiModelDelete b args s) := by
  unfold handleApiModelDelete
  dsimp only
  split
  · exact Prog.makes_pure _
  · refine (writesModels_deleteUserPreset _).bind fun deleted => ?_
    cases deleted with
    | error e => exact Prog.makes_pure _
    | ok _ =>
      -- the end of the handler, on globals whose boot name may have been reset
      have hend : ∀ t : Sketch, WritesModels
          (if t.currentModelName = sanitizePresetName (args.arg .name) then
            (fallBackToBootModel b t).bind fun t' => .pure (t', Reply.json true "Preset deleted")
          else .pure (t, Reply.json true "Preset deleted") : NvsM (Sketch × Reply)) := by
        intro t
        split
        · exact (writesModels_fallBackToBootModel b t).bind fun _ => Prog.makes_pure _
        · exact Prog.makes_pure _
      dsimp only
      split
      · exact (writesModels_saveBootModelName _).bind fun _ => hend _
      · exact hend s

end Handlers

/-- **A request that is not about the access point** writes keys of models
only. -/
theorem writesModels_handleRequest (b : Board) (millis : UInt32) {r : Request} (s : Sketch)
    (hset : r.endpoint ≠ .apConfigSet) (hreboot : r.endpoint ≠ .apConfigApplyReboot) :
    WritesModels (handleRequest b millis r s) := by
  unfold handleRequest
  cases hendpoint : r.endpoint with
  | presetApply => exact writesModels_presetApply b r.args s
  | modelSetDefault => exact writesModels_modelSetDefault r.args s
  | modelCreate => exact writesModels_modelCreate b r.args s
  | modelSaveCurrent => exact writesModels_modelSaveCurrent s millis
  | modelRevert => exact writesModels_modelRevert b s
  | modelDelete => exact writesModels_modelDelete b r.args s
  | apConfigSet => exact absurd hendpoint hset
  | apConfigApplyReboot => exact absurd hendpoint hreboot
  -- the other handlers do not look at the storage
  | _ => exact Prog.makes_pure _

end RcController
