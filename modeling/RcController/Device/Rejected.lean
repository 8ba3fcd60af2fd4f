import RcController.Device.Names
import RcController.Wiring.Stray
import RcController.Store.Save

/-!
# A rejected `model_create`

`model_create` reads the configuration it is to store, saves it under the new name, and then
applies it. Only the reads come before anything is written. So an error reply does not mean
that nothing happened: the blob may be stored without the directory, both may be stored
without a commit, or the preset may be stored and found not to apply.

The handler is cut at that point (`handleApiModelCreate_eq`): what it reads decides which
slot and directory it writes (`createTarget`), and the rest is four calls and an apply.
`rejected_unchanged_iff` says exactly when an error reply leaves everything as it was.
-/

namespace RcController

open DeviceProg OutputBank

/-! ### The handler in two halves -/

/-- What `model_create` is to write: the configuration, its slot and the
directory. -/
def createTarget (args : Args) (s : Sketch) :
    NvsM (Except String (PersistedConfig × ℕ × PresetDirectory)) := do
  match ← newModelConfig args s with
  | .error e => return .error e
  | .ok cfg =>
    let dir ← loadPresetDirectory
    match saveSlot (sanitizePresetName (args.arg .name)) dir with
    | .error e => return .error e
    | .ok (slot, dir) => return .ok (cfg, slot, dir)

/-- The apply of `model_create`, once the preset is saved. Its result does not
depend on what was saved. -/
def applyCreated (b : Board) (args : Args) (cfg : PersistedConfig) (s : Sketch) :
    NvsM (Sketch × Reply) := do
  match ← applyToSketch b cfg s with
  | (s, .error e) => return (s, .json false e)
  | (s, .ok ()) =>
    return ({ s with
      currentModelName := sanitizePresetName (args.arg .name)
      modelDirty := false }, .json true "Model created")

/-- The writes of `model_create`, and the apply. The first error ends it, and
none of the writes before it is taken back. -/
def finishCreate (b : Board) (args : Args) (s : Sketch) :
    Except String (PersistedConfig × ℕ × PresetDirectory) → NvsM (Sketch × Reply)
  | .error e => return (s, .json false e)
  | .ok (cfg, slot, dir) => do
    match ← writePreset slot cfg dir with
    | .error e => return (s, .json false e)
    | .ok () => applyCreated b args cfg s

/-- The handler is its reads and its writes. -/
theorem handleApiModelCreate_eq (b : Board) (args : Args) (s : Sketch) :
    handleApiModelCreate b args s = (createTarget args s).bind (finishCreate b args s) := by
  unfold handleApiModelCreate createTarget saveUserPresetFromConfig
  simp only [Prog.bind_eq, Prog.bind_assoc]
  refine congrArg (Prog.bind (newModelConfig args s)) (funext fun config => ?_)
  cases config with
  | error e => rfl
  | ok cfg =>
    dsimp only
    -- the save asks for its slot before it writes
    rw [saveUserPresetBlob_eq, Prog.bind_assoc, Prog.bind_assoc]
    refine congrArg (Prog.bind loadPresetDirectory) (funext fun dir => ?_)
    unfold saveInto
    cases saveSlot (sanitizePresetName (args.arg .name)) dir with
    | error e => rfl
    | ok target => rfl

/-- The first half only reads. -/
theorem reads_createTarget (args : Args) (s : Sketch) : Reads (createTarget args s) := by
  refine (reads_newModelConfig args s).bind fun config => ?_
  cases config with
  | error e => exact Prog.makes_pure _
  | ok cfg =>
    refine reads_loadPresetDirectory.bind fun dir => ?_
    split <;> exact Prog.makes_pure _

/-- The configuration has the current format. -/
theorem newModelConfig_always (args : Args) (s : Sketch) : (newModelConfig args s).Always fun r =>
    ∀ cfg, r = .ok cfg → cfg.HeaderOk := by
  unfold newModelConfig
  dsimp only
  generalize (if args.hasArg .base then args.arg .base else []).trim = rawBase
  split
  · intro cfg h
    obtain rfl := Except.ok.inj h
    exact ⟨rfl, rfl⟩
  · split
    · exact loadAnyPreset_always _
    · intro cfg h
      obtain rfl := Except.ok.inj h
      exact ⟨rfl, rfl⟩

/-- So what is to be written has the current format too. -/
theorem createTarget_always (args : Args) (s : Sketch) : (createTarget args s).Always fun r =>
    ∀ cfg slot dir, r = .ok (cfg, slot, dir) → cfg.HeaderOk := by
  refine (newModelConfig_always args s).bind fun config hconfig => ?_
  cases config with
  | error e => exact fun cfg slot dir h => (by cases h)
  | ok cfg =>
    refine Prog.always_bind_of_forall _ fun dir => ?_
    split
    · exact fun cfg slot dir h => (by cases h)
    · intro cfg' slot dir' h
      obtain ⟨rfl, -⟩ := Prod.mk.inj (Except.ok.inj h)
      exact hconfig _ rfl

/-! ### What an error reply leaves -/

/-- The stored presets, the name and flag of the model and both tables are as
before. -/
structure CreateUnchanged (s s' : Sketch) (n n' : NvsStore) : Prop where
  directory : n'.get .presetDir = n.get .presetDir
  blobs : ∀ i, n'.get (.pr i) = n.get (.pr i)
  current : s'.currentModelName = s.currentModelName
  dirty : s'.modelDirty = s.modelDirty
  inputs : s'.rc.virtualInputs = s.rc.virtualInputs
  outputs : s'.rc.bank.outputs = s.rc.bank.outputs

/-- **The writes do no harm**: there is nothing to write, or the write of the
blob is not reached or fails, or it writes what is there; and in that case the
same goes for the directory, and the apply is not reached or every servo finds
its own pin free when the rollback comes to it. The pins in its way are those of
the old records behind it and of the layout of the configuration ahead of it.
`plan` is what is left of the faults after the reads. -/
def HarmlessWrites (b : Board) (s : Sketch) (n : NvsStore) (plan : Prog.Plan nvsInterface) :
    Except String (PersistedConfig × ℕ × PresetDirectory) → Prop
  | .error _ => True
  | .ok (cfg, slot, dir) =>
    plan 0 NvsOp.openReadwrite = true ∨
    plan 1 (NvsOp.setBlob (.pr slot) (.config cfg)) = true ∨
    n.get (.pr slot) = some (.config cfg) ∧
      (plan 2 (NvsOp.setBlob .presetDir (.directory dir)) = true ∨
        n.get .presetDir = some (.directory dir) ∧
          (plan 3 NvsOp.commit = true ∨
            RestoresPins b s.rc.bank (strayLayout b s.rc.bank.stray cfg).1.records))

/-! ### The writes -/

section Finish

variable {b : Board} {args : Args} {s s' : Sketch} {n : NvsStore} {cfg : PersistedConfig}
  {slot : ℕ} {dir : PresetDirectory}

/-- The stored presets after the blob was written. -/
theorem putBlob_unchanged_iff :
    ((n.putBlob slot cfg).get .presetDir = n.get .presetDir ∧
      ∀ i, (n.putBlob slot cfg).get (.pr i) = n.get (.pr i)) ↔
    n.get (.pr slot) = some (.config cfg) := by
  have hslot : (n.putBlob slot cfg).get (.pr slot) = some (.config cfg) := NvsStore.get_set_self ..
  constructor
  · rintro ⟨-, hblobs⟩
    rw [← hblobs slot, hslot]
  · intro hsame
    refine ⟨NvsStore.get_set_of_ne _ (by simp) _, fun i => ?_⟩
    by_cases hi : i = slot
    · rw [hi, hslot, hsame]
    · exact NvsStore.get_set_of_ne _ (by simpa using hi) _

/-- And after the directory was written too. -/
theorem putPreset_unchanged_iff :
    ((n.putPreset slot cfg dir).get .presetDir = n.get .presetDir ∧
      ∀ i, (n.putPreset slot cfg dir).get (.pr i) = n.get (.pr i)) ↔
    n.get (.pr slot) = some (.config cfg) ∧ n.get .presetDir = some (.directory dir) := by
  have hdir : (n.putPreset slot cfg dir).get .presetDir = some (.directory dir) :=
    NvsStore.get_set_self ..
  have hblobs : ∀ i, (n.putPreset slot cfg dir).get (.pr i) = (n.putBlob slot cfg).get (.pr i) :=
    fun i => NvsStore.get_set_of_ne _ (by simp) _
  have hold : (n.putBlob slot cfg).get .presetDir = n.get .presetDir :=
    NvsStore.get_set_of_ne _ (by simp) _
  rw [← putBlob_unchanged_iff, hdir]
  simp only [hblobs, hold]
  exact ⟨fun h => ⟨⟨trivial, h.2⟩, h.1.symm⟩, fun h => ⟨h.2.symm, h.1.2⟩⟩

/-- What counts while the globals stay as they are. -/
theorem createUnchanged_iff_stored {n' : NvsStore} : CreateUnchanged s s n n' ↔
    n'.get .presetDir = n.get .presetDir ∧ ∀ i, n'.get (.pr i) = n.get (.pr i) :=
  ⟨fun h => ⟨h.directory, h.blobs⟩, fun h => ⟨h.1, h.2, rfl, rfl, rfl, rfl⟩⟩

/-- A rejected apply leaves the globals but the outputs, and these exactly when
every servo finds its own pin free on the way back. -/
theorem createUnchanged_iff_rejected (hb : b.Reliable) {n' : NvsStore} (hcfg : cfg.HeaderOk)
    {e : String} (hreject : (applyTables b cfg s.rc).2 = .error e) :
    CreateUnchanged s { s with rc := (applyTables b cfg s.rc).1 } n n' ↔
      (n'.get .presetDir = n.get .presetDir ∧ ∀ i, n'.get (.pr i) = n.get (.pr i)) ∧
        RestoresPins b s.rc.bank (strayLayout b s.rc.bank.stray cfg).1.records := by
  obtain ⟨e', hplace⟩ : ∃ e', (s.rc.bank.teardown.placeChannels b cfg).2 = .error e' := by
    cases hplace : (s.rc.bank.teardown.placeChannels b cfg).2 with
    | ok _ =>
      rw [applyTables_ok hcfg hplace] at hreject
      cases hreject
    | error e' => exact ⟨e', rfl⟩
  -- the table the rollback starts from is the layout of the blob over the flags that survived
  rw [applyTables_error hcfg hplace, ← (outputs_placeChannels hb cfg s.rc.bank).1,
    ← outputs_restoreOld_iff hb]
  exact ⟨fun h => ⟨⟨h.directory, h.blobs⟩, h.outputs⟩, fun h => ⟨h.1.1, h.1.2, rfl, rfl, rfl, h.2⟩⟩

/-- When the apply replies an error, nothing is written after it: the running
configuration is saved by an apply that succeeds. -/
theorem applyCreated_rejected {faults : Prog.Plan nvsInterface}
    (h : ((applyCreated b args cfg s).run nvsDevice faults n).1.2.ok = false) :
    ∃ e, (applyTables b cfg s.rc).2 = .error e ∧
      applyCreated b args cfg s
        = .pure ({ s with rc := (applyTables b cfg s.rc).1 }, .json false e) := by
  cases happly : (applyTables b cfg s.rc).2 with
  | error e =>
    refine ⟨e, rfl, ?_⟩
    unfold applyCreated applyToSketch applyPersistedConfig
    rw [show applyTables b cfg s.rc
      = ((applyTables b cfg s.rc).1, .error e) from Prod.ext rfl happly]
    rfl
  -- an apply that succeeds ends with the reply ok
  | ok _ =>
    have hok : (applyCreated b args cfg s).Always fun x => x.2.ok = true := by
      refine applyToSketch_bind ?_
      rw [happly]
      exact rfl
    rw [hok.run] at h
    cases h

/-- **The second half of the handler**, when it replies an error. The cases are
the four calls that write, in the order they are made: the first one that fails
ends the handler, and what it leaves is known from what was written before. When
none fails the error is that of the apply. -/
theorem finish_unchanged_iff (hb : b.Reliable) (plan : Prog.Plan nvsInterface)
    {target : Except String (PersistedConfig × ℕ × PresetDirectory)}
    (hcfg : ∀ cfg slot dir, target = .ok (cfg, slot, dir) → cfg.HeaderOk)
    (hrejected : ((finishCreate b args s target).run nvsDevice plan n).1.2.ok = false) :
    CreateUnchanged s ((finishCreate b args s target).run nvsDevice plan n).1.1 n
        ((finishCreate b args s target).run nvsDevice plan n).2 ↔
      HarmlessWrites b s n plan target := by
  rcases target with e | ⟨cfg, slot, dir⟩
  · exact iff_of_true ⟨rfl, fun _ => rfl, rfl, rfl, rfl, rfl⟩ trivial
  have hheader := hcfg cfg slot dir rfl
  -- the four calls, in the order they are made
  have hrun : (finishCreate b args s (.ok (cfg, slot, dir))).run nvsDevice plan n =
      if plan 0 NvsOp.openReadwrite then ((s, .json false "NVS unavailable"), n)
      else if plan 1 (NvsOp.setBlob (.pr slot) (.config cfg)) then
        ((s, .json false "Failed to save preset"), { n with created := true })
      else if plan 2 (NvsOp.setBlob .presetDir (.directory dir)) then
        ((s, .json false "Failed to save preset"), n.putBlob slot cfg)
      else if plan 3 NvsOp.commit then
        ((s, .json false "Failed to save preset"), n.putPreset slot cfg dir)
      else (applyCreated b args cfg s).run nvsDevice
        ((writePreset slot cfg dir).rest nvsDevice plan n) (n.putPreset slot cfg dir) := by
    change ((writePreset slot cfg dir).bind _).run nvsDevice plan n = _
    rw [Prog.run_bind_rest, run_writePreset]
    split_ifs <;> rfl
  unfold HarmlessWrites
  dsimp only
  rw [hrun] at hrejected ⊢
  by_cases hopen : plan 0 NvsOp.openReadwrite = true
  · -- the namespace cannot be opened, and nothing was written
    rw [if_pos hopen]
    exact iff_of_true ⟨rfl, fun _ => rfl, rfl, rfl, rfl, rfl⟩ (.inl hopen)
  rw [if_neg hopen] at hrejected ⊢
  by_cases hblob : plan 1 (NvsOp.setBlob (.pr slot) (.config cfg)) = true
  · -- the blob is not written
    rw [if_pos hblob]
    exact iff_of_true ⟨rfl, fun _ => rfl, rfl, rfl, rfl, rfl⟩ (.inr (.inl hblob))
  rw [if_neg hblob] at hrejected ⊢
  rw [or_iff_right hopen, or_iff_right hblob]
  by_cases hdir : plan 2 (NvsOp.setBlob .presetDir (.directory dir)) = true
  · -- the blob is written, and the directory is not
    rw [if_pos hdir, createUnchanged_iff_stored, putBlob_unchanged_iff]
    exact (and_iff_left (.inl hdir)).symm
  rw [if_neg hdir] at hrejected ⊢
  rw [or_iff_right hdir, ← and_assoc]
  by_cases hcommit : plan 3 NvsOp.commit = true
  · -- both are written, and the commit answers an error
    rw [if_pos hcommit, createUnchanged_iff_stored, putPreset_unchanged_iff]
    exact (and_iff_left (.inl hcommit)).symm
  rw [if_neg hcommit] at hrejected ⊢
  rw [or_iff_right hcommit]
  -- all calls went through, so the apply has rejected the configuration
  obtain ⟨e, hreject, happly⟩ := applyCreated_rejected hrejected
  rw [happly, ← putPreset_unchanged_iff]
  exact createUnchanged_iff_rejected hb hheader hreject

end Finish

/-- **When a rejected `model_create` changes nothing**, on a board whose servos
attach to every pin with PWM. The condition looks at what the handler reads,
which is the configuration it is to store, the slot and the directory; at the
faults of the four calls that write; and, when the apply is reached, at the pins
and flags of the live outputs and the layout of the configuration. -/
theorem rejected_unchanged_iff {b : Board} (hb : b.Reliable) (millis : UInt32) (n : NvsStore)
    (s : Sketch) (plan : Prog.Plan nvsInterface) {r : Request}
    (hendpoint : r.endpoint = .modelCreate)
    (hrejected : ((handleRequest b millis r s).run nvsDevice plan n).1.2.ok = false) :
    CreateUnchanged s ((handleRequest b millis r s).run nvsDevice plan n).1.1 n
        ((handleRequest b millis r s).run nvsDevice plan n).2 ↔
      HarmlessWrites b s n ((createTarget r.args s).rest nvsDevice plan n)
        ((createTarget r.args s).run nvsDevice plan n).1 := by
  have hhandler :
      handleRequest b millis r s = (createTarget r.args s).bind (finishCreate b r.args s) := by
    unfold handleRequest
    rw [hendpoint]
    exact handleApiModelCreate_eq b r.args s
  -- the reads leave the storage as it is
  have hreads : ((createTarget r.args s).run nvsDevice plan n).2 = n :=
    reads_run (reads_createTarget r.args s) plan n
  rw [hhandler, Prog.run_bind_rest, hreads] at hrejected ⊢
  exact finish_unchanged_iff hb _ ((createTarget_always r.args s).run nvsDevice plan n) hrejected

/-! ### A model with more servos than pins -/

/-- `model_create` of a model based on another. -/
def cloneModel (name base : String) : Request where
  endpoint := .modelCreate
  args p := match p with
    | .name => some (lit name)
    | .base => some (lit base)
    | _ => none

/-- The base is unknown. -/
theorem rejected_unchanged_iff_unknown_base :
    let s := (System.boot smallBoard {} (fun _ _ => false) 0).sketch
    let r := cloneModel "mine" "boat"
    CreateUnchanged s ((handleRequest smallBoard 0 r s).run nvsDevice (fun _ _ => false) {}).1.1 {}
        ((handleRequest smallBoard 0 r s).run nvsDevice (fun _ _ => false) {}).2 ↔
      HarmlessWrites smallBoard s {} ((createTarget r.args s).rest nvsDevice (fun _ _ => false) {})
        ((createTarget r.args s).run nvsDevice (fun _ _ => false) {}).1 :=
  rejected_unchanged_iff smallBoard_reliable 0 {} _ (fun _ _ => false)
    (r := cloneModel "mine" "boat") rfl (by decide +kernel)

/-- A copy of the excavator is created on a board with two PWM pins. The preset
is stored before the apply finds no pin for the third servo. -/
theorem rejected_create_stores :
    let s := System.boot smallBoard {} (fun _ _ => false) 0
    let x := (handleRequest smallBoard s.millis (cloneModel "mine" "excavator") s.sketch).eval
      nvsDevice s.nvs
    x.1.2.ok = false ∧ s.nvs.directory.count = 0 ∧ x.2.directory.count = 1 ∧
      ¬ CreateUnchanged s.sketch x.1.1 s.nvs x.2 := by
  intro s x
  refine ⟨by decide +kernel, by decide +kernel, by decide +kernel, fun h => ?_⟩
  have hblob : (x.2.get (.pr 0)).isSome = (s.nvs.get (.pr 0)).isSome :=
    congrArg Option.isSome (h.blobs 0)
  exact absurd hblob (by decide +kernel)

end RcController
