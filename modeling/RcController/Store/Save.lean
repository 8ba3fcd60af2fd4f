import RcController.Store.Load
import RcController.Store.Map

/-!
# A save that goes wrong

A save reads the directory, writes the blob of a slot and then the directory. Between the
two writes the old directory is still there: a new slot lies beyond its count, and an old
slot belongs to the saved name. So wherever the writes stop, the other names load what they
did, and the saved name loads the old configuration or the new one (`save_all_or_nothing`).

All this depends on what was read. `loadPresetDirectory` answers an empty directory when
the read fails, and the save goes on with it: it takes slot 0 and writes a directory with
one name. `othersSurvive_iff` says which failing reads do that.
-/

namespace RcController

open DeviceProg

/-! ### Loading, given the names -/

/-- What loading answers for a configuration that was read: it is refused unless
it has the current format. -/
def PersistedConfig.loaded (cfg : PersistedConfig) : Except String PersistedConfig :=
  if cfg.magic ≠ kConfigMagic then .error "Preset corrupted (invalid magic)"
  else if cfg.version ≠ kConfigVersion then .error "Preset obsolete (format changed after update)"
  else .ok cfg

/-- One of the current format is returned as it is. -/
theorem PersistedConfig.HeaderOk.loaded_eq {cfg : PersistedConfig} (h : cfg.HeaderOk) :
    cfg.loaded = .ok cfg := by
  unfold PersistedConfig.loaded
  rw [if_neg (not_not.mpr h.1), if_neg (not_not.mpr h.2)]

/-- A slot with a configuration in it loads that, and what a slot loads depends
on its blob alone. -/
theorem preset_of_config {n : NvsStore} {i : ℕ} {cfg : PersistedConfig}
    (h : n.get (.pr i) = some (.config cfg)) : n.preset i = cfg.loaded := by
  unfold NvsStore.preset NvsStore.getBlob
  rw [h]
  rfl

theorem preset_congr {n n' : NvsStore} {i : ℕ} (h : n'.get (.pr i) = n.get (.pr i)) :
    n'.preset i = n.preset i := by
  unfold NvsStore.preset NvsStore.getBlob
  rw [h]

/-- The directory is searched by key. -/
theorem find_of_lists {dir : PresetDirectory} {ps : List Preset} (h : Lists dir ps)
    (rawName : Str) :
    findPresetSlotByName dir (sanitizePresetName rawName)
      = Keyed.slot Preset.key ps (presetKey rawName) :=
  findPresetSlotByName_eq h (sanitizedName_sanitize rawName)

/-- A name loads what it did: it is found in the same slot, and the slot loads
the same. -/
def SameUnder (n n' : NvsStore) (rawName : Str) : Prop :=
  findPresetSlotByName n'.directory (sanitizePresetName rawName)
      = findPresetSlotByName n.directory (sanitizePresetName rawName) ∧
    n'.loadUser rawName = n.loadUser rawName

theorem sameUnder_of_find {n n' : NvsStore} {rawName : Str}
    (hfind : findPresetSlotByName n'.directory (sanitizePresetName rawName)
      = findPresetSlotByName n.directory (sanitizePresetName rawName))
    (hblob : ∀ i, findPresetSlotByName n.directory (sanitizePresetName rawName) = some i →
      n'.get (.pr i) = n.get (.pr i)) : SameUnder n n' rawName := by
  refine ⟨hfind, ?_⟩
  unfold NvsStore.loadUser
  rw [hfind]
  cases hslot : findPresetSlotByName n.directory (sanitizePresetName rawName) with
  | none => rfl
  | some i => exact preset_congr (hblob i hslot)

/-! ### The two writes -/

/-- The namespace once the blob of a slot is written. -/
def NvsStore.putBlob (slot : ℕ) (cfg : PersistedConfig) (n : NvsStore) : NvsStore :=
  ({ n with created := true } : NvsStore).set (.pr slot) (.config cfg)

/-- The namespace once the blob and the directory are written. -/
def NvsStore.putPreset (slot : ℕ) (cfg : PersistedConfig) (dir : PresetDirectory) (n : NvsStore) :
    NvsStore := (n.putBlob slot cfg).set .presetDir (.directory dir)

/-- The three states between which the two writes of a save move the storage.
Opening the namespace comes before the first. -/
inductive SaveStage (slot : ℕ) (cfg : PersistedConfig) (dir : PresetDirectory) (n : NvsStore) :
    NvsStore → Prop where
  | untouched : SaveStage slot cfg dir n n
  | opened : SaveStage slot cfg dir n { n with created := true }
  | blob : SaveStage slot cfg dir n (n.putBlob slot cfg)
  | done : SaveStage slot cfg dir n (n.putPreset slot cfg dir)

/-- **Wherever the writes stop**, the storage is at one of the stages. -/
theorem leaves_writePreset {A : NvsOp → Prop} {slot : ℕ} {cfg : PersistedConfig}
    {dir : PresetDirectory} {n n' : NvsStore}
    (h : Prog.Leaves nvsDevice A (writePreset slot cfg dir) n n') :
    SaveStage slot cfg dir n n' := by
  -- a call that fails ends the save
  rcases h.of_call with rfl | h | ⟨-, h⟩
  · exact .untouched
  · rcases Prog.Leaves.of_call h with rfl | h | ⟨-, h⟩
    · exact .opened
    · rcases Prog.Leaves.of_call h with rfl | h | ⟨-, h⟩
      · exact .blob
      · rcases Prog.Leaves.of_call h with rfl | h | ⟨-, h⟩
        · exact .done
        · rw [Prog.Leaves.eq_of_pure h]
          exact .done
        · rw [Prog.Leaves.eq_of_pure h]
          exact .done
      · rw [Prog.Leaves.eq_of_pure h]
        exact .blob
    · rw [Prog.Leaves.eq_of_pure h]
      exact .opened
  · rw [Prog.Leaves.eq_of_pure h]
    exact .untouched

/-- The writes of a save under a plan of faults. -/
theorem run_writePreset (plan : Prog.Plan nvsInterface) (slot : ℕ) (cfg : PersistedConfig)
    (dir : PresetDirectory) (n : NvsStore) :
    (writePreset slot cfg dir).run nvsDevice plan n =
      if plan 0 NvsOp.openReadwrite then (.error "NVS unavailable", n)
      else if plan 1 (NvsOp.setBlob (.pr slot) (.config cfg)) then
        (.error "Failed to save preset", { n with created := true })
      else if plan 2 (NvsOp.setBlob .presetDir (.directory dir)) then
        (.error "Failed to save preset", n.putBlob slot cfg)
      else (if plan 3 NvsOp.commit then .error "Failed to save preset" else .ok (),
        n.putPreset slot cfg dir) := by
  change (if plan 0 NvsOp.openReadwrite then _ else _) = _
  split
  · rfl
  · change (if plan 1 (NvsOp.setBlob (.pr slot) (.config cfg)) then _ else _) = _
    split
    · rfl
    · change (if plan 2 (NvsOp.setBlob .presetDir (.directory dir)) then _ else _) = _
      split
      · rfl
      · change (if plan 3 NvsOp.commit then _ else _) = _
        split <;> rfl

/-! ### The slot of a save -/

/-- What a save is about to write: a slot that belongs to the name or to nobody,
and a directory that lists what it did and the name. -/
structure SaveTarget (ps : List Preset) (rawName : Str) (slot : ℕ) (dir : PresetDirectory) :
    Prop where
  lists : ∃ ps' : List Preset, Lists dir ps' ∧ ps'.length ≤ kMaxUserPresets
  own : findPresetSlotByName dir (sanitizePresetName rawName) = some slot
  before : Keyed.slot Preset.key ps (presetKey rawName) = none ∨
    Keyed.slot Preset.key ps (presetKey rawName) = some slot
  others : ∀ other, presetKey other ≠ presetKey rawName →
    findPresetSlotByName dir (sanitizePresetName other)
      = Keyed.slot Preset.key ps (presetKey other)
  apart : ∀ k, k ≠ presetKey rawName → Keyed.slot Preset.key ps k ≠ some slot

section Target

variable {sh : Shelf} {n n' : NvsStore} {rawName : Str} {cfg : PersistedConfig} {slot : ℕ}
  {dir : PresetDirectory}

/-- A preset is overwritten in place. -/
theorem saveTarget_overwrite (h : Stored sh n)
    (hslot : findPresetSlotByName n.directory (sanitizePresetName rawName) = some slot) :
    SaveTarget sh.presets rawName slot n.directory where
  lists := ⟨sh.presets, h.lists, sh.room⟩
  own := hslot
  before := .inr ((find_of_lists h.lists rawName).symm.trans hslot)
  others other _ := find_of_lists h.lists other
  apart k hk hkslot := by
    rw [find_of_lists h.lists] at hslot
    obtain ⟨_, hown⟩ := (Keyed.slot_eq_some sh.distinct).mp hslot
    obtain ⟨_, hother⟩ := (Keyed.slot_eq_some sh.distinct).mp hkslot
    exact hk (hother.symm.trans hown)

/-- A new preset goes behind the others. -/
theorem saveTarget_append (h : Stored sh n)
    (hslot : findPresetSlotByName n.directory (sanitizePresetName rawName) = none)
    (hroom : sh.presets.length < kMaxUserPresets) :
    SaveTarget sh.presets rawName sh.presets.length { n.directory with
      count := sh.presets.length + 1
      names := n.directory.names.setIfInBounds sh.presets.length
        (toCharArray (sanitizePresetName rawName) CharBuf.zero) } := by
  obtain ⟨hterm, hname⟩ := (sanitizedName_sanitize rawName).buffer
  have hlists := h.lists.append (p := ⟨sanitizePresetName rawName, {}⟩) hroom hname hterm
  rw [find_of_lists h.lists] at hslot
  -- the new directory lists one name more, at the place behind the others
  refine ⟨⟨_, hlists, by simpa [Nat.succ_le_iff] using hroom⟩, ?_, .inl hslot,
    fun other hother => ?_, fun k _ hk => ?_⟩
  · rw [find_of_lists hlists]
    exact Keyed.slot_append_self hslot
  · rw [find_of_lists hlists]
    exact Keyed.slot_append_of_ne (Ne.symm hother)
  · obtain ⟨hi, -⟩ := (Keyed.slot_eq_some sh.distinct).mp hk
    exact absurd hi (lt_irrefl _)

/-- **The stages of a save**: other names are found and load as before; the
saved name loads what it did, or the new configuration. Between the two writes
the slot is written and the directory is not. A new slot is not listed then, and
an old one belongs to the saved name. -/
theorem SaveStage.loads (h : Stored sh n) (ht : SaveTarget sh.presets rawName slot dir)
    (hstage : SaveStage slot cfg dir n n') :
    (∀ other, presetKey other ≠ presetKey rawName → SameUnder n n' other) ∧
      (n'.loadUser rawName = n.loadUser rawName ∨ n'.loadUser rawName = cfg.loaded) := by
  -- the directory is the old one until it is written
  have hopened : (({ n with created := true } : NvsStore)).directory = n.directory :=
    h.directory_eq (fun _ => rfl) rfl
  have hblob : (n.putBlob slot cfg).directory = n.directory :=
    h.directory_eq (fun _ => rfl) (NvsStore.get_set_of_ne _ (by simp) _)
  cases hstage with
  | untouched => exact ⟨fun _ _ => ⟨rfl, rfl⟩, .inl rfl⟩
  | opened =>
    have hsame : ∀ other, SameUnder n { n with created := true } other := fun other =>
      sameUnder_of_find (by rw [hopened]) fun _ _ => rfl
    exact ⟨fun other _ => hsame other, .inl (hsame rawName).2⟩
  | blob =>
    refine ⟨fun other hother => sameUnder_of_find (by rw [hblob]) fun i hi => ?_, ?_⟩
    · rw [find_of_lists h.lists] at hi
      refine NvsStore.get_set_of_ne _ (fun heq => ?_) _
      injection heq with heq
      exact ht.apart _ hother (heq ▸ hi)
    · unfold NvsStore.loadUser
      rw [hblob, find_of_lists h.lists]
      rcases ht.before with hnew | hold
      · -- a new slot is not listed yet
        rw [hnew]
        exact .inl rfl
      · rw [hold]
        exact .inr (preset_of_config (NvsStore.get_set_self _ _ _))
  | done =>
    obtain ⟨ps', hlists, hroom⟩ := ht.lists
    have hdone : (n.putPreset slot cfg dir).directory = dir :=
      directory_of_get rfl (NvsStore.get_set_self ..) hlists hroom
    refine ⟨fun other hother => sameUnder_of_find ?_ fun i hi => ?_, .inr ?_⟩
    · rw [hdone, ht.others other hother, find_of_lists h.lists]
    · rw [find_of_lists h.lists] at hi
      refine (NvsStore.get_set_of_ne _ (by simp) _).trans ?_
      refine NvsStore.get_set_of_ne _ (fun heq => ?_) _
      injection heq with heq
      exact ht.apart _ hother (heq ▸ hi)
    · unfold NvsStore.loadUser
      rw [hdone, ht.own]
      refine preset_of_config ((NvsStore.get_set_of_ne _ (by simp) _).trans ?_)
      exact NvsStore.get_set_self _ _ _

end Target

/-! ### A save after the directory was read -/

/-- The slot a save takes and the directory it writes, once it has read one. -/
def saveSlot (rawName : Str) (dir : PresetDirectory) : Except String (ℕ × PresetDirectory) :=
  match findPresetSlotByName dir (sanitizePresetName rawName) with
  | some slot => .ok (slot, dir)
  | none =>
    if kMaxUserPresets ≤ dir.count then .error "Preset limit reached"
    else
      .ok (dir.count, { dir with
        count := dir.count + 1
        names := dir.names.setIfInBounds dir.count
          (toCharArray (sanitizePresetName rawName) CharBuf.zero) })

/-- What a save does once it has read a directory. -/
def saveInto (rawName : Str) (cfg : PersistedConfig) (dir : PresetDirectory) :
    NvsM (Except String Unit) :=
  match saveSlot rawName dir with
  | .error e => .pure (.error e)
  | .ok (slot, dir) => writePreset slot cfg dir

/-- A save is a read of the directory, and a program that depends on what was
read. -/
theorem saveUserPresetBlob_eq (rawName : Str) (cfg : PersistedConfig) :
    saveUserPresetBlob rawName cfg = loadPresetDirectory.bind (saveInto rawName cfg) := by
  unfold saveUserPresetBlob saveInto saveSlot
  refine congrArg (Prog.bind loadPresetDirectory) (funext fun dir => ?_)
  cases findPresetSlotByName dir (sanitizePresetName rawName) with
  | some slot => rfl
  | none =>
    dsimp only
    split <;> rfl

section Save

variable {sh : Shelf} {n n' : NvsStore} {rawName : Str} {cfg : PersistedConfig}

/-- A save is refused, or it writes a slot of its own and a directory that lists
it. -/
theorem saveInto_cases (h : Stored sh n) (rawName : Str) (cfg : PersistedConfig) :
    (∃ e, saveInto rawName cfg n.directory = .pure (.error e)) ∨
    ∃ slot dir, saveInto rawName cfg n.directory = writePreset slot cfg dir ∧
      SaveTarget sh.presets rawName slot dir := by
  unfold saveInto saveSlot
  cases hslot : findPresetSlotByName n.directory (sanitizePresetName rawName) with
  | some slot => exact .inr ⟨slot, _, rfl, saveTarget_overwrite h hslot⟩
  | none =>
    dsimp only
    rw [h.lists.count]
    by_cases hfull : kMaxUserPresets ≤ sh.presets.length
    · rw [if_pos hfull]
      exact .inl ⟨_, rfl⟩
    · rw [if_neg hfull]
      exact .inr ⟨_, _, rfl, saveTarget_append h hslot (not_le.mp hfull)⟩

/-- **A save that has read the directory** leaves the other names as they were,
wherever it stops. It has no reads left, so whatever fails is a write. -/
theorem saveInto_loads {A : NvsOp → Prop} (h : Stored sh n)
    (hleaves : Prog.Leaves nvsDevice A (saveInto rawName cfg n.directory) n n') :
    (∀ other, presetKey other ≠ presetKey rawName → SameUnder n n' other) ∧
      (n'.loadUser rawName = n.loadUser rawName ∨ n'.loadUser rawName = cfg.loaded) := by
  rcases saveInto_cases h rawName cfg with ⟨e, herror⟩ | ⟨slot, dir, hwrite, htarget⟩
  · rw [herror] at hleaves
    rw [hleaves.eq_of_pure]
    exact ⟨fun _ _ => ⟨rfl, rfl⟩, .inl rfl⟩
  · rw [hwrite] at hleaves
    exact (leaves_writePreset hleaves).loads h htarget

/-- **A save is all or nothing.** The reads succeed; the power may go before any
call, and any other call may fail. Afterwards every other name loads what it
did, and the saved name loads what it did or the new configuration, which is
loaded as it is when it has the current format. -/
theorem save_all_or_nothing (h : Stored sh n) (rawName : Str) (cfg : PersistedConfig)
    (hcut : Prog.Leaves nvsDevice (fun o : NvsOp => ¬ o.Reads)
      (saveUserPresetBlob rawName cfg) n n') :
    (∀ other, presetKey other ≠ presetKey rawName →
      ((loadUserPreset other).eval nvsDevice n').1 = ((loadUserPreset other).eval nvsDevice n).1) ∧
    (((loadUserPreset rawName).eval nvsDevice n').1
      = ((loadUserPreset rawName).eval nvsDevice n).1 ∨
      ((loadUserPreset rawName).eval nvsDevice n').1 = cfg.loaded) ∧
    (cfg.HeaderOk → cfg.loaded = .ok cfg) := by
  rw [saveUserPresetBlob_eq] at hcut
  have hsave := hcut.after_reads (B := NvsOp.Reads) (fun _ ho => not_not_intro ho)
    (fun _ n ho => exec_read ho n) reads_loadPresetDirectory
  rw [eval_loadPresetDirectory] at hsave
  obtain ⟨hothers, hown⟩ := saveInto_loads h hsave
  simp only [eval_loadUser]
  exact ⟨fun other hother => (hothers other hother).2, hown, fun hcfg => hcfg.loaded_eq⟩

/-- The power goes between the two writes of a save that replaces `a`, with `b`
beside it. -/
theorem save_all_or_nothing_between :
    let n := (saveUserPresetBlob (lit "a") builtinPresetExcavator).cut nvsDevice 4
      carAndExcavatorStore
    (∀ other, presetKey other ≠ presetKey (lit "a") →
      ((loadUserPreset other).eval nvsDevice n).1
        = ((loadUserPreset other).eval nvsDevice carAndExcavatorStore).1) ∧
    (((loadUserPreset (lit "a")).eval nvsDevice n).1
        = ((loadUserPreset (lit "a")).eval nvsDevice carAndExcavatorStore).1 ∨
      ((loadUserPreset (lit "a")).eval nvsDevice n).1 = builtinPresetExcavator.loaded) ∧
    (builtinPresetExcavator.HeaderOk →
      builtinPresetExcavator.loaded = .ok builtinPresetExcavator) :=
  save_all_or_nothing stored_carAndExcavator (lit "a") builtinPresetExcavator
    (Prog.leaves_cut _ 4 _)

end Save

/-! ### A save after a failed read -/

/-- The calls that open the namespace or get a key. -/
def NvsOp.OpensOrGets : NvsOp → Prop
  | .openReadonly | .openReadwrite | .getBlob _ | .getStr _ => True
  | _ => False

/-- The read of the directory fails, at its first call or at its second. -/
def DirectoryUnread (plan : Prog.Plan nvsInterface) : Prop :=
  plan 0 NvsOp.openReadonly = true ∨ plan 1 (NvsOp.getBlob .presetDir) = true

/-- After that the namespace cannot be opened for writing either. -/
def WriteRefused (plan : Prog.Plan nvsInterface) : Prop :=
  plan (if plan 0 NvsOp.openReadonly then 1 else 2) NvsOp.openReadwrite = true

/-- Every preset of another name that was on the shelf still loads. -/
def OthersSurvive (sh : Shelf) (rawName : Str) (n : NvsStore) : Prop :=
  ∀ p ∈ sh.presets, p.key ≠ presetKey rawName →
    (findPresetSlotByName n.directory p.name).isSome = true ∧
      ((loadUserPreset p.name).eval nvsDevice n).1 = .ok p.cfg

section Unread

variable {sh : Shelf} {n n' : NvsStore} {rawName : Str} {cfg : PersistedConfig}
  {plan : Prog.Plan nvsInterface}

/-- A save on a namespace that exists: the directory it goes on with, and the
rest of the plan. An unread directory is taken for an empty one. -/
theorem run_save (hcreated : n.created = true) (rawName : Str) (cfg : PersistedConfig)
    (plan : Prog.Plan nvsInterface) :
    (DirectoryUnread plan → (saveUserPresetBlob rawName cfg).run nvsDevice plan n
      = (saveInto rawName cfg freshDirectory).run nvsDevice
          (if plan 0 NvsOp.openReadonly then plan.shift else plan.shift.shift) n) ∧
    (¬ DirectoryUnread plan → (saveUserPresetBlob rawName cfg).run nvsDevice plan n
      = (saveInto rawName cfg n.directory).run nvsDevice plan.shift.shift n) := by
  rw [saveUserPresetBlob_eq]
  unfold DirectoryUnread
  by_cases hopen : plan 0 NvsOp.openReadonly = true
  · refine ⟨fun _ => ?_, fun hread => absurd (.inl hopen) hread⟩
    change (if plan 0 NvsOp.openReadonly then _ else _) = _
    rw [if_pos hopen, if_pos hopen]
    rfl
  -- the namespace exists, so that the directory is asked for
  have hrun : (loadPresetDirectory.bind (saveInto rawName cfg)).run nvsDevice plan n =
      if plan 1 (NvsOp.getBlob .presetDir) then
        (saveInto rawName cfg freshDirectory).run nvsDevice plan.shift.shift n
      else (saveInto rawName cfg n.directory).run nvsDevice plan.shift.shift n := by
    rw [loadPresetDirectory_eq, NvsStore.directory_eq, hcreated, if_pos rfl]
    change (if plan 0 NvsOp.openReadonly then _ else _) = _
    rw [if_neg hopen]
    change Prog.run nvsDevice plan.shift (Prog.bind (if !n.created then _ else _) _) n = _
    rw [hcreated]
    change (if plan 1 (NvsOp.getBlob .presetDir) then _ else _) = _
    split <;> rfl
  rw [hrun, if_neg hopen]
  refine ⟨fun hunread => ?_, fun hread => ?_⟩
  · rw [if_pos (hunread.resolve_left hopen)]
  · rw [if_neg fun hget => hread (.inr hget)]

/-- What is kept under another name survives when its directory was read. A
preset on the shelf is found under its own name, so it is enough to look at
names. -/
theorem othersSurvive_of_read (h : Stored sh n)
    (hothers : ∀ other, presetKey other ≠ presetKey rawName → SameUnder n n' other) :
    OthersSurvive sh rawName n' := by
  intro p hp hkey
  have hname := sh.named p hp
  -- a name on the shelf is sanitized already, so its key is that of its spelling
  have hother : presetKey p.name ≠ presetKey rawName := by
    unfold presetKey
    rw [sanitize_of_sanitized hname]
    exact hkey
  obtain ⟨hfind, hload⟩ := hothers p.name hother
  rw [sanitize_of_sanitized hname] at hfind
  have hslot : sh.slot p.name ≠ none := by
    intro hnone
    exact Keyed.slot_eq_none.mp hnone p hp rfl
  refine ⟨?_, ?_⟩
  · rw [hfind, h.findSlot hname]
    exact Option.isSome_iff_ne_none.mpr hslot
  · have heval := eval_loadUserPreset h p.name
    rw [eval_loadUser, hload]
    have hp' : sh.find p.name = some p := (Keyed.find_eq_some sh.distinct).mpr ⟨hp, rfl⟩
    rw [eval_loadUser, sanitize_of_sanitized hname, hp'] at heval
    exact congrArg Prod.fst heval

/-- When only opening and getting can fail, the end of a save is refused or it
is carried out. -/
theorem run_writePreset_of_opens (hplan : ∀ k o, plan k o = true → NvsOp.OpensOrGets o) (slot : ℕ)
    (cfg : PersistedConfig) (dir : PresetDirectory) (n : NvsStore) :
    ((writePreset slot cfg dir).run nvsDevice plan n).2 =
      if plan 0 NvsOp.openReadwrite then n else n.putPreset slot cfg dir := by
  have hwrites : ∀ k (o : NvsOp), ¬ o.OpensOrGets → plan k o = false := fun k o ho =>
    Bool.eq_false_iff.mpr fun hfail => ho (hplan k o hfail)
  -- both writes go through, so only the opening decides
  rw [run_writePreset, hwrites 1 _ id, hwrites 2 _ id]
  split <;> rfl

/-- The directory that is written then: it lists the saved name and nothing
else. -/
def onlyListed (rawName : Str) : PresetDirectory :=
  { freshDirectory with
    count := 1
    names := freshDirectory.names.setIfInBounds 0
      (toCharArray (sanitizePresetName rawName) CharBuf.zero) }

/-- That is what the save does with an empty directory. -/
theorem saveInto_fresh (rawName : Str) (cfg : PersistedConfig) :
    saveInto rawName cfg freshDirectory = writePreset 0 cfg (onlyListed rawName) := rfl

/-- It finds no other name. -/
theorem find_onlyListed (n : NvsStore) (rawName : Str) (cfg : PersistedConfig) {other : Str}
    (hother : presetKey other ≠ presetKey rawName) :
    findPresetSlotByName (n.putPreset 0 cfg (onlyListed rawName)).directory
      (sanitizePresetName other) = none := by
  obtain ⟨hterm, hname⟩ := (sanitizedName_sanitize rawName).buffer
  have hlists : Lists (onlyListed rawName) [⟨sanitizePresetName rawName, cfg⟩] :=
    lists_fresh.append (show ([] : List Preset).length < kMaxUserPresets by simp) hname hterm
  have hdir : (n.putPreset 0 cfg (onlyListed rawName)).directory = onlyListed rawName :=
    directory_of_get rfl (NvsStore.get_set_self _ _ _) hlists (by simp)
  rw [hdir, find_of_lists hlists]
  exact Keyed.slot_eq_none.mpr fun p hp => List.mem_singleton.mp hp ▸ Ne.symm hother

/-- **When a failed read destroys presets.** On a storage that keeps a shelf,
when only opening and getting can fail: every preset of another name survives
exactly when the directory was read, or the namespace could not be opened for
writing either, or there is no such preset. -/
theorem othersSurvive_iff (h : Stored sh n) (rawName : Str) (cfg : PersistedConfig)
    (hplan : ∀ k o, plan k o = true → NvsOp.OpensOrGets o) :
    OthersSurvive sh rawName ((saveUserPresetBlob rawName cfg).run nvsDevice plan n).2 ↔
      ¬ DirectoryUnread plan ∨ WriteRefused plan ∨ ∀ p ∈ sh.presets, p.key = presetKey rawName := by
  by_cases hnone : ∀ p ∈ sh.presets, p.key = presetKey rawName
  · exact iff_of_true (fun p hp hkey => absurd (hnone p hp) hkey) (.inr (.inr hnone))
  have hsame : OthersSurvive sh rawName n := othersSurvive_of_read h fun _ _ => ⟨rfl, rfl⟩
  -- some preset `p` has another name
  push Not at hnone
  obtain ⟨p, hp, hkey⟩ := hnone
  obtain ⟨hunreadRun, hreadRun⟩ := run_save (h.created (List.ne_nil_of_mem hp)) rawName cfg plan
  by_cases hunread : DirectoryUnread plan
  swap
  · -- the directory was read: the save stops at one of its stages
    refine iff_of_true ?_ (.inl hunread)
    rw [hreadRun hunread]
    refine othersSurvive_of_read h
      (saveInto_loads h (Prog.leaves_run (A := NvsOp.OpensOrGets) ?_ _ _)).1
    exact fun k o hfail => hplan _ o hfail
  rw [hunreadRun hunread]
  -- the calls left to the end of the save, after the one or two that the read took
  have hrest :
      ∀ k o, (if plan 0 NvsOp.openReadonly then plan.shift else plan.shift.shift) k o = true →
      NvsOp.OpensOrGets o := by
    intro k o hfail
    split at hfail
    · exact hplan _ o hfail
    · exact hplan _ o hfail
  have hrefused : (if plan 0 NvsOp.openReadonly then plan.shift else plan.shift.shift) 0
      NvsOp.openReadwrite = true ↔ WriteRefused plan := by
    unfold WriteRefused
    split <;> rfl
  rw [saveInto_fresh, run_writePreset_of_opens hrest]
  by_cases hwrite : WriteRefused plan
  · rw [if_pos (hrefused.mpr hwrite)]
    -- nothing is written, so everything is as it was
    exact iff_of_true hsame (.inr (.inl hwrite))
  · rw [if_neg fun hfail => hwrite (hrefused.mp hfail)]
    refine iff_of_false (fun hsurvive => ?_) ?_
    · -- the new directory does not list the preset
      have hname := sh.named p hp
      have hother : presetKey p.name ≠ presetKey rawName := by
        unfold presetKey
        rw [sanitize_of_sanitized hname]
        exact hkey
      have hgone := find_onlyListed n rawName cfg hother
      rw [sanitize_of_sanitized hname] at hgone
      have hlisted := (hsurvive p hp hkey).1
      rw [hgone] at hlisted
      cases hlisted
    · rintro (hread | hrefuse | hall)
      · exact hread hunread
      · exact hwrite hrefuse
      · exact hkey (hall p hp)

end Unread

/-- The call opens the namespace for reading. -/
def isOpenReadonly : nvsInterface.Op → Bool
  | .openReadonly => true
  | _ => false

/-- The namespace cannot be opened for reading when `a` is saved. -/
theorem othersSurvive_iff_car :
    OthersSurvive carAndExcavator (lit "a")
        ((saveUserPresetBlob (lit "a") builtinPresetSkidSteer).run nvsDevice
          (Prog.failAt 0 isOpenReadonly) carAndExcavatorStore).2 ↔
      ¬ DirectoryUnread (Prog.failAt 0 isOpenReadonly) ∨
        WriteRefused (Prog.failAt 0 isOpenReadonly) ∨
        ∀ p ∈ carAndExcavator.presets, p.key = presetKey (lit "a") :=
  othersSurvive_iff stored_carAndExcavator (lit "a") builtinPresetSkidSteer fun k o h => by
    have ho : isOpenReadonly o = true := (Bool.and_eq_true_iff.mp h).2
    cases o with
    | openReadonly => trivial
    | _ => cases ho

/-- A third preset is saved while the namespace cannot be opened for reading.
The save succeeds, and the two presets are gone. -/
theorem unread_save_destroys :
    let r := (saveUserPresetBlob (lit "c") builtinPresetSkidSteer).run nvsDevice
      (Prog.failAt 0 isOpenReadonly) carAndExcavatorStore
    r.1 = .ok () ∧ ¬ OthersSurvive carAndExcavator (lit "c") r.2 ∧
      ((loadUserPreset (lit "a")).eval nvsDevice r.2).1 = .error "Unknown preset" ∧
      ((loadUserPreset (lit "b")).eval nvsDevice r.2).1 = .error "Unknown preset" := by
  refine ⟨by decide +kernel, fun h => ?_, by decide +kernel, by decide +kernel⟩
  have hlisted := (h ⟨lit "a", builtinPresetRcCar⟩ (.head _) (by decide)).1
  exact absurd hlisted (by decide +kernel)

end RcController
