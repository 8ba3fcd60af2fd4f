import RcController.Lib.Keyed
import RcController.Store.Names

/-!
# The shelf of presets

What the store is for: at most eight presets, each a sanitized name with a
configuration of the current format, no two names equal up to case (`Shelf`).

The NVS namespace keeps a shelf as a directory of names and one blob a slot
(`Stored`). Each function of the preset store, when no NVS call fails, is read off
against that: loading finds the preset with the folded name, saving overwrites it in
place under its old spelling or puts a new one at the end, deleting takes it out and
moves the later ones down. The compaction loop of the delete is the one that needs an
invariant (`Compacted`): it overwrites slots it still has to read from, but only after
it has read them.
-/

namespace RcController

open DeviceProg

/-! ### Shelves -/

/-- A preset as the shelf keeps it: a name in the spelling it was first saved
under, and a configuration. -/
structure Preset where
  name : Str
  cfg : PersistedConfig

/-- Presets are told apart by their folded names. -/
def Preset.key (p : Preset) : Str := p.name.fold

/-- At most eight presets with sanitized names, configurations of the current
format, and keys that are distinct. -/
structure Shelf where
  presets : List Preset
  room : presets.length ≤ kMaxUserPresets
  named : ∀ p ∈ presets, SanitizedName p.name
  valid : ∀ p ∈ presets, p.cfg.HeaderOk
  distinct : Keyed.Distinct Preset.key presets

namespace Shelf

/-- The shelf without presets. -/
def empty : Shelf where
  presets := []
  room := by simp
  named := by simp
  valid := by simp
  distinct := List.nodup_nil

/-- The slot of a name. -/
def slot (sh : Shelf) (name : Str) : Option ℕ := Keyed.slot Preset.key sh.presets name.fold

/-- The preset with a name. -/
def find (sh : Shelf) (name : Str) : Option Preset := Keyed.find Preset.key sh.presets name.fold

/-- The finite map from folded names to configurations. -/
def table (sh : Shelf) : Finmap fun _ : Str => PersistedConfig :=
  Keyed.table Preset.key Preset.cfg sh.presets

/-- The configuration of a preset is replaced; the spelling of its name
stays. -/
def overwrite (sh : Shelf) (i : ℕ) (hi : i < sh.presets.length) (cfg : PersistedConfig)
    (hcfg : cfg.HeaderOk) : Shelf where
  presets := sh.presets.set i { sh.presets[i] with cfg := cfg }
  room := by
    rw [List.length_set]
    exact sh.room
  named p hp := by
    rcases List.mem_or_eq_of_mem_set hp with hp | rfl
    · exact sh.named p hp
    · exact sh.named sh.presets[i] (List.getElem_mem hi)
  valid p hp := by
    rcases List.mem_or_eq_of_mem_set hp with hp | rfl
    · exact sh.valid p hp
    · exact hcfg
  distinct := sh.distinct.set hi rfl

/-- A preset with a new name is put at the end. -/
def append (sh : Shelf) (p : Preset) (hroom : sh.presets.length < kMaxUserPresets)
    (hname : SanitizedName p.name) (hcfg : p.cfg.HeaderOk)
    (hnew : sh.slot p.name = none) : Shelf where
  presets := sh.presets ++ [p]
  room := by
    rw [List.length_append, List.length_singleton]
    exact hroom
  named q hq := by
    rcases List.mem_append.mp hq with hq | hq
    · exact sh.named q hq
    · rw [List.mem_singleton.mp hq]
      exact hname
  valid q hq := by
    rcases List.mem_append.mp hq with hq | hq
    · exact sh.valid q hq
    · rw [List.mem_singleton.mp hq]
      exact hcfg
  distinct := sh.distinct.append hnew

/-- A preset is taken out, and the later ones move down. -/
def remove (sh : Shelf) (i : ℕ) : Shelf where
  presets := sh.presets.eraseIdx i
  room := (List.eraseIdx_sublist sh.presets i).length_le.trans sh.room
  named p hp := sh.named p ((List.eraseIdx_sublist sh.presets i).mem hp)
  valid p hp := sh.valid p ((List.eraseIdx_sublist sh.presets i).mem hp)
  distinct := sh.distinct.eraseIdx i

/-- A name has the slot whose preset has its key, and there the preset is
found. -/
theorem slot_eq_some {sh : Shelf} {name : Str} {i : ℕ} :
    sh.slot name = some i ↔ ∃ hi : i < sh.presets.length, sh.presets[i].name.fold = name.fold :=
  Keyed.slot_eq_some sh.distinct

theorem find_of_slot {sh : Shelf} {name : Str} {i : ℕ} (h : sh.slot name = some i) :
    ∃ hi : i < sh.presets.length, sh.find name = some sh.presets[i] := by
  obtain ⟨hi, hname⟩ := slot_eq_some.mp h
  exact ⟨hi, Keyed.find_of_slot sh.distinct hi hname⟩

/-- A name without a slot has no preset. -/
theorem find_of_slot_none {sh : Shelf} {name : Str} (h : sh.slot name = none) :
    sh.find name = none := Keyed.find_of_slot_none h

end Shelf

/-! ### The directory -/

/-- The directory that `loadPresetDirectory` answers when nothing fails. -/
def NvsStore.directory (n : NvsStore) : PresetDirectory :=
  if n.created then
    match n.getBlob .presetDir with
    | some (.directory dir) =>
      if dir.magic ≠ kConfigMagic ∨ dir.version ≠ kPresetDirectoryVersion then freshDirectory
      else { dir with count := min dir.count kMaxUserPresets }
    | _ => freshDirectory
  else freshDirectory

/-- The directory in what is stored under its key. Only a blob that is a
directory is looked at. -/
def directoryOf (blob : Option NvsValue) : PresetDirectory :=
  match blob with
  | some (.directory dir) =>
    if dir.magic ≠ kConfigMagic ∨ dir.version ≠ kPresetDirectoryVersion then freshDirectory
    else { dir with count := min dir.count kMaxUserPresets }
  | _ => freshDirectory

/-- It depends on whether the namespace exists, and on one blob. -/
theorem NvsStore.directory_eq (n : NvsStore) : n.directory =
    if n.created then directoryOf (n.getBlob .presetDir) else freshDirectory := rfl

/-- Two calls read the directory, and the rest depends on the blob alone. -/
theorem loadPresetDirectory_eq : loadPresetDirectory = nvsOpenReadonly.bind fun opened =>
    if !opened then .pure freshDirectory
    else (nvsGetBlob .presetDir).bind fun blob => .pure (directoryOf blob) := by
  unfold loadPresetDirectory
  refine congrArg (Prog.bind nvsOpenReadonly) (funext fun opened => ?_)
  cases opened with
  | false => rfl
  | true =>
    refine congrArg (Prog.bind (nvsGetBlob .presetDir)) (funext fun blob => ?_)
    rcases blob with _ | ⟨cfg⟩ | ⟨dir⟩ | ⟨size⟩ | ⟨s⟩
    case some.directory => exact (apply_ite Prog.pure _ _ _).symm
    all_goals rfl

/-- So `loadPresetDirectory` answers it, and changes nothing. -/
theorem eval_loadPresetDirectory (n : NvsStore) :
    loadPresetDirectory.eval nvsDevice n = (n.directory, n) := by
  rw [loadPresetDirectory_eq, eval_openReadonly, NvsStore.directory_eq]
  cases n.created <;> rfl

/-- A directory lists presets: its header is right, it has a name for each of
them, and their buffers are terminated. -/
structure Lists (dir : PresetDirectory) (ps : List Preset) : Prop where
  magic : dir.magic = kConfigMagic
  version : dir.version = kPresetDirectoryVersion
  count : dir.count = ps.length
  name : ∀ i (hi : i < ps.length), cstr (dir.name i) = ps[i].name
  terminated : ∀ i, i < ps.length → Terminated (dir.name i)

/-- A fresh directory lists nothing. -/
theorem lists_fresh : Lists freshDirectory [] :=
  ⟨rfl, rfl, rfl, fun i hi => absurd hi (by simp), fun i hi => absurd hi (by simp)⟩

/-- A namespace keeps a shelf: its directory lists the presets, and each has its
configuration in its slot. Of the slots behind the last nothing is said. -/
structure Stored (sh : Shelf) (n : NvsStore) : Prop where
  lists : Lists n.directory sh.presets
  blob : ∀ i (hi : i < sh.presets.length), n.get (.pr i) = some (.config sh.presets[i].cfg)
  fresh : n.created = false → n.get .presetDir = none

/-- An empty flash keeps the empty shelf. -/
theorem stored_empty : Stored Shelf.empty {} where
  lists := lists_fresh
  blob i hi := absurd hi (by simp [Shelf.empty])
  fresh _ := rfl

/-- A namespace that keeps a preset exists. -/
theorem Stored.created {sh : Shelf} {n : NvsStore} (h : Stored sh n) (hne : sh.presets ≠ []) :
    n.created = true := by
  by_contra hnot
  have hcount := h.lists.count
  unfold NvsStore.directory at hcount
  rw [if_neg hnot] at hcount
  exact hne (List.length_eq_zero_iff.mp hcount.symm)

/-- The directory depends on one key. Only a namespace without presets may come
into being meanwhile, and then there was nothing to read. -/
theorem Stored.directory_eq {sh : Shelf} {n n' : NvsStore} (h : Stored sh n)
    (hcreated : n.created = true → n'.created = true)
    (hdir : n'.get .presetDir = n.get .presetDir) :
    n'.directory = n.directory := by
  unfold NvsStore.directory NvsStore.getBlob
  rw [hdir]
  cases hc : n.created with
  | true => rw [hcreated hc]
  | false =>
    -- nothing was stored yet, so that creating the namespace shows no directory
    rw [h.fresh hc]
    simp

/-- **What a namespace keeps depends on the directory and the preset blobs
only.** -/
theorem Stored.of_get {sh : Shelf} {n n' : NvsStore} (h : Stored sh n)
    (hcreated : n.created = true → n'.created = true) (hdir : n'.get .presetDir = n.get .presetDir)
    (hblob : ∀ i, n'.get (.pr i) = n.get (.pr i)) : Stored sh n' := by
  have hread : n'.directory = n.directory := h.directory_eq hcreated hdir
  refine ⟨by rw [hread]; exact h.lists, fun i hi => (hblob i).trans (h.blob i hi), fun hc => ?_⟩
  rw [hdir]
  refine h.fresh ?_
  by_contra hc'
  rw [hcreated (by simpa using hc')] at hc
  cases hc

/-- **Finding a name**: the scan of the directory finds the slot on the shelf.
The scan compares without regard to case, which on sanitized names is equality
of the keys. -/
theorem findPresetSlotByName_eq {dir : PresetDirectory} {ps : List Preset} (h : Lists dir ps)
    {name : Str} (hname : SanitizedName name) :
    findPresetSlotByName dir name = Keyed.slot Preset.key ps name.fold := by
  have hrange : ∀ i (hi : i < ps.length),
      name.equalsIgnoreCase (cstr (dir.name i)) = decide (ps[i].key = name.fold) := by
    intro i hi
    rw [h.name i hi]
    apply Bool.eq_iff_iff.mpr
    rw [Str.equalsIgnoreCase_iff hname.ne_zero, decide_eq_true_eq]
    exact eq_comm
  unfold findPresetSlotByName Keyed.slot
  rw [h.count]
  -- both scans go over the same slots with the same test
  cases hfind : ps.findIdx? (fun e => decide (e.key = name.fold)) with
  | none =>
    rw [List.find?_eq_none]
    rw [List.findIdx?_eq_none_iff] at hfind
    intro i hi
    have hi' : i < ps.length := List.mem_range.mp hi
    rw [hrange i hi', hfind ps[i] (List.getElem_mem hi')]
    exact Bool.false_ne_true
  | some i =>
    rw [List.findIdx?_eq_some_iff_getElem] at hfind
    obtain ⟨hi, hkey, hfirst⟩ := hfind
    rw [List.find?_range_eq_some]
    refine ⟨(hrange i hi).trans hkey, List.mem_range.mpr hi, fun j hj => ?_⟩
    rw [hrange j (by omega)]
    simpa using hfirst j hj

/-- In particular on a namespace that keeps the shelf. -/
theorem Stored.findSlot {sh : Shelf} {n : NvsStore} (h : Stored sh n) {name : Str}
    (hname : SanitizedName name) : findPresetSlotByName n.directory name = sh.slot name :=
  findPresetSlotByName_eq h.lists hname

/-! ### Loading -/

/-- What `loadUserPreset` makes of the blob of a slot. -/
def NvsStore.preset (n : NvsStore) (slot : ℕ) : Except String PersistedConfig :=
  match n.getBlob (.pr slot) with
  | some (.config cfg) =>
    if cfg.magic ≠ kConfigMagic then .error "Preset corrupted (invalid magic)"
    else if cfg.version ≠ kConfigVersion then
      .error "Preset obsolete (format changed after update)"
    else .ok cfg
  | _ => .error "Preset corrupted"

/-- A slot with a configuration of the current format loads it, and one with
nothing in it is reported as corrupted. -/
theorem preset_of_get {n : NvsStore} {slot : ℕ} {cfg : PersistedConfig}
    (h : n.get (.pr slot) = some (.config cfg)) (hcfg : cfg.HeaderOk) :
    n.preset slot = .ok cfg := by
  unfold NvsStore.preset NvsStore.getBlob
  rw [h]
  simp [hcfg.1, hcfg.2]

theorem preset_of_none {n : NvsStore} {slot : ℕ} (h : n.get (.pr slot) = none) :
    n.preset slot = .error "Preset corrupted" := by
  unfold NvsStore.preset NvsStore.getBlob
  rw [h]

/-- Loading a name that the directory lists reads the blob of its slot. -/
theorem eval_load_of_slot {n : NvsStore} {rawName : Str} {i : ℕ} (hcreated : n.created = true)
    (hfind : findPresetSlotByName n.directory (sanitizePresetName rawName) = some i) :
    (loadUserPreset rawName).eval nvsDevice n = (n.preset i, n) := by
  unfold loadUserPreset NvsStore.preset
  rw [Prog.bind_eq, Prog.eval_bind, eval_loadPresetDirectory]
  dsimp only
  rw [hfind]
  simp only [Prog.bind_eq, eval_openReadonly, hcreated, Bool.not_true, Bool.false_eq_true, if_false,
    eval_getBlob]
  -- one case for each kind of value that the key can hold
  rcases n.getBlob (.pr i) with _ | ⟨cfg⟩ | ⟨dir⟩ | ⟨size⟩ | ⟨s⟩
  · rfl
  · dsimp only
    split
    · rfl
    · split <;> rfl
  · rfl
  · rfl
  · rfl

/-- **Loading** answers the configuration of the preset with the name, and
changes nothing. -/
theorem eval_loadUserPreset {sh : Shelf} {n : NvsStore} (h : Stored sh n) (rawName : Str) :
    (loadUserPreset rawName).eval nvsDevice n =
      (match sh.find (sanitizePresetName rawName) with
        | some p => .ok p.cfg
        | none => .error "Unknown preset", n) := by
  have hfind := h.findSlot (sanitizedName_sanitize rawName)
  cases hslot : sh.slot (sanitizePresetName rawName) with
  | none =>
    unfold loadUserPreset
    simp only [Prog.bind_eq, Prog.eval_bind, eval_loadPresetDirectory, hfind, hslot]
    rw [Shelf.find_of_slot_none hslot]
    rfl
  | some i =>
    obtain ⟨hi, hp⟩ := Shelf.find_of_slot hslot
    have hcreated : n.created = true := h.created (List.ne_nil_of_length_pos (by omega))
    rw [eval_load_of_slot hcreated (hfind.trans hslot), hp,
      preset_of_get (h.blob i hi) (sh.valid _ (List.getElem_mem hi))]

/-! ### Saving -/

/-- Naming one slot of a directory leaves the names of the others. -/
theorem name_setIfInBounds (dir : PresetDirectory) (j : ℕ) (buf : CharBuf)
    (hj : j < kMaxUserPresets) (count i : ℕ) :
    ({ dir with count := count, names := dir.names.setIfInBounds j buf } : PresetDirectory).name i
      = if i = j then buf else dir.name i := by
  unfold PresetDirectory.name
  dsimp only
  rw [Vector.getElem?_setIfInBounds]
  split
  · next hij => rw [if_pos hij.symm, Option.getD_some]
  · next hij => rw [if_neg (Ne.symm hij)]

/-- Naming the slot after the last lists one preset more. -/
theorem Lists.append {dir : PresetDirectory} {ps : List Preset} (h : Lists dir ps) {p : Preset}
    {buf : CharBuf} (hroom : ps.length < kMaxUserPresets) (hbuf : cstr buf = p.name)
    (hterm : Terminated buf) :
    Lists { dir with count := ps.length + 1, names := dir.names.setIfInBounds ps.length buf }
      (ps ++ [p]) where
  magic := h.magic
  version := h.version
  count := by simp
  name i hi := by
    rw [name_setIfInBounds _ _ _ hroom]
    split
    · next heq =>
      -- the new name
      subst heq
      rw [hbuf]
      simp
    · next hne =>
      have hi' : i < ps.length := by
        rw [List.length_append, List.length_singleton] at hi
        omega
      rw [h.name i hi', List.getElem_append_left hi']
  terminated i hi := by
    rw [name_setIfInBounds _ _ _ hroom]
    split
    · exact hterm
    · rw [List.length_append, List.length_singleton] at hi
      exact h.terminated i (by omega)

/-- A directory with the right header and count is read as it was written. -/
theorem directory_of_header {n : NvsStore} {dir : PresetDirectory} (hcreated : n.created = true)
    (hdir : n.get .presetDir = some (.directory dir)) (hmagic : dir.magic = kConfigMagic)
    (hversion : dir.version = kPresetDirectoryVersion) (hcount : dir.count ≤ kMaxUserPresets) :
    n.directory = dir := by
  have hblob : n.getBlob .presetDir = some (.directory dir) := by
    unfold NvsStore.getBlob
    rw [hdir]
  unfold NvsStore.directory
  rw [if_pos hcreated, hblob]
  dsimp only
  rw [if_neg (by simp [hmagic, hversion]), Nat.min_eq_left hcount]

/-- A directory that was written is read back. -/
theorem directory_of_get {n : NvsStore} {dir : PresetDirectory} {ps : List Preset}
    (hcreated : n.created = true) (hdir : n.get .presetDir = some (.directory dir))
    (h : Lists dir ps) (hroom : ps.length ≤ kMaxUserPresets) : n.directory = dir :=
  directory_of_header hcreated hdir h.magic h.version (h.count ▸ hroom)

/-- A namespace keeps a shelf when a directory that lists it was written, and
the slots are right. -/
theorem Stored.of_write {sh : Shelf} {n : NvsStore} {dir : PresetDirectory}
    (hcreated : n.created = true) (hdir : n.get .presetDir = some (.directory dir))
    (h : Lists dir sh.presets)
    (hblob : ∀ i (hi : i < sh.presets.length), n.get (.pr i) = some (.config sh.presets[i].cfg)) :
    Stored sh n where
  lists := by
    rw [directory_of_get hcreated hdir h sh.room]
    exact h
  blob := hblob
  fresh hc := by
    rw [hcreated] at hc
    cases hc

/-- The two writes of a save. -/
theorem eval_writePreset (slot : ℕ) (cfg : PersistedConfig) (dir : PresetDirectory) (n : NvsStore) :
    (writePreset slot cfg dir).eval nvsDevice n =
      (.ok (), (({ n with created := true } : NvsStore).set (.pr slot) (.config cfg)).set .presetDir
        (.directory dir)) := by
  simp [writePreset]

/-- A slot and a directory that lists it were written; the other slots were
right already. -/
theorem stored_writePreset (sh : Shelf) {n : NvsStore} {dir : PresetDirectory} {i : ℕ}
    (h : Lists dir sh.presets) (hi : i < sh.presets.length)
    (hother : ∀ j (hj : j < sh.presets.length), j ≠ i →
      n.get (.pr j) = some (.config sh.presets[j].cfg)) :
    Stored sh ((writePreset i sh.presets[i].cfg dir).eval nvsDevice n).2 := by
  rw [eval_writePreset]
  refine .of_write rfl (NvsStore.get_set_self ..) h fun j hj => ?_
  rw [NvsStore.get_set_of_ne _ (by simp)]
  by_cases hji : j = i
  · subst hji
    exact NvsStore.get_set_self ..
  · rw [NvsStore.get_set_of_ne _ (by simpa using hji)]
    exact hother j hj hji

section Save

variable {sh : Shelf} {n : NvsStore} {rawName : Str} {cfg : PersistedConfig}

/-- A name that has a slot is written there. -/
theorem eval_save_of_slot (h : Stored sh n) {i : ℕ}
    (hslot : sh.slot (sanitizePresetName rawName) = some i) :
    (saveUserPresetBlob rawName cfg).eval nvsDevice n
      = (writePreset i cfg n.directory).eval nvsDevice n := by
  unfold saveUserPresetBlob
  simp only [Prog.bind_eq, Prog.eval_bind, eval_loadPresetDirectory,
    h.findSlot (sanitizedName_sanitize rawName), hslot]

/-- **Saving over a preset** replaces its configuration. -/
theorem eval_save_overwrite (h : Stored sh n) {i : ℕ}
    (hslot : sh.slot (sanitizePresetName rawName) = some i) (hcfg : cfg.HeaderOk) :
    ∃ hi, ((saveUserPresetBlob rawName cfg).eval nvsDevice n).1 = .ok () ∧
      Stored (sh.overwrite i hi cfg hcfg)
        ((saveUserPresetBlob rawName cfg).eval nvsDevice n).2 := by
  obtain ⟨hi, -⟩ := Shelf.slot_eq_some.mp hslot
  -- the preset keeps its name, so the old directory lists the new shelf
  have hl : Lists n.directory (sh.overwrite i hi cfg hcfg).presets := by
    have hlen : (sh.overwrite i hi cfg hcfg).presets.length = sh.presets.length :=
      List.length_set ..
    refine ⟨h.lists.magic, h.lists.version, h.lists.count.trans hlen.symm, fun j hj => ?_,
      fun j hj => h.lists.terminated j (hlen ▸ hj)⟩
    rw [h.lists.name j (hlen ▸ hj)]
    simp only [Shelf.overwrite, List.getElem_set]
    split
    · next hij => subst hij; rfl
    · rfl
  have hi' : i < (sh.overwrite i hi cfg hcfg).presets.length := by
    simpa [Shelf.overwrite] using hi
  have hself : (sh.overwrite i hi cfg hcfg).presets[i].cfg = cfg := by simp [Shelf.overwrite]
  have hstored := stored_writePreset (sh.overwrite i hi cfg hcfg) (n := n) hl hi' fun j hj hji => by
    simp only [Shelf.overwrite, List.length_set] at hj
    simp only [Shelf.overwrite]
    rw [List.getElem_set_ne (Ne.symm hji)]
    exact h.blob j hj
  rw [hself] at hstored
  rw [eval_save_of_slot h hslot]
  exact ⟨hi, by rw [eval_writePreset], hstored⟩

/-- **Saving a new preset** puts it at the end. -/
theorem eval_save_append (h : Stored sh n) (hslot : sh.slot (sanitizePresetName rawName) = none)
    (hroom : sh.presets.length < kMaxUserPresets) (hcfg : cfg.HeaderOk) :
    ((saveUserPresetBlob rawName cfg).eval nvsDevice n).1 = .ok () ∧
      Stored (sh.append ⟨sanitizePresetName rawName, cfg⟩ hroom (sanitizedName_sanitize rawName)
        hcfg hslot) ((saveUserPresetBlob rawName cfg).eval nvsDevice n).2 := by
  obtain ⟨hterm, hname⟩ := (sanitizedName_sanitize rawName).buffer
  have hl := h.lists.append (p := ⟨sanitizePresetName rawName, cfg⟩) hroom hname hterm
  have hsave : (saveUserPresetBlob rawName cfg).eval nvsDevice n
      = (writePreset sh.presets.length cfg { n.directory with
          count := sh.presets.length + 1
          names := n.directory.names.setIfInBounds sh.presets.length
            (toCharArray (sanitizePresetName rawName) CharBuf.zero) }).eval nvsDevice n := by
    unfold saveUserPresetBlob
    simp only [Prog.bind_eq, Prog.eval_bind, eval_loadPresetDirectory,
      h.findSlot (sanitizedName_sanitize rawName), hslot, h.lists.count]
    rw [if_neg (by omega)]
  -- the shelf with the preset at its end
  have hroom' : sh.presets.length
      < (sh.presets ++ [(⟨sanitizePresetName rawName, cfg⟩ : Preset)]).length := by
    simp
  have hstored := stored_writePreset
    (sh.append ⟨sanitizePresetName rawName, cfg⟩ hroom (sanitizedName_sanitize rawName) hcfg hslot)
    (n := n) hl hroom' fun j hj hji => by
      have hlt : j < sh.presets.length := by
        simp only [Shelf.append, List.length_append, List.length_singleton] at hj
        omega
      simp only [Shelf.append]
      rw [List.getElem_append_left hlt]
      exact h.blob j hlt
  have hself :
      (sh.append ⟨sanitizePresetName rawName, cfg⟩ hroom (sanitizedName_sanitize rawName) hcfg
      hslot).presets[sh.presets.length].cfg = cfg := by simp [Shelf.append]
  rw [hself] at hstored
  rw [hsave]
  exact ⟨by rw [eval_writePreset], hstored⟩

/-- A new preset is refused when all slots are taken. -/
theorem eval_save_full (h : Stored sh n) (hslot : sh.slot (sanitizePresetName rawName) = none)
    (hfull : ¬ sh.presets.length < kMaxUserPresets) :
    (saveUserPresetBlob rawName cfg).eval nvsDevice n = (.error "Preset limit reached", n) := by
  unfold saveUserPresetBlob
  simp only [Prog.bind_eq, Prog.eval_bind, eval_loadPresetDirectory,
    h.findSlot (sanitizedName_sanitize rawName), hslot, h.lists.count]
  rw [if_pos (by omega)]
  rfl

end Save

/-! ### Two presets -/

/-- A shelf with the car preset under `a` and the excavator under `b`. -/
def carAndExcavator : Shelf where
  presets := [⟨lit "a", builtinPresetRcCar⟩, ⟨lit "b", builtinPresetExcavator⟩]
  room := by decide
  named := by decide
  valid := by decide
  distinct := by unfold Keyed.Distinct; decide

/-- The namespace that keeps them. -/
def carAndExcavatorStore : NvsStore :=
  let n := ((saveUserPresetBlob (lit "a") builtinPresetRcCar).eval nvsDevice {}).2
  ((saveUserPresetBlob (lit "b") builtinPresetExcavator).eval nvsDevice n).2

theorem stored_carAndExcavator : Stored carAndExcavator carAndExcavatorStore where
  lists := by
    refine ⟨?_, ?_, ?_, ?_, ?_⟩ <;> decide +kernel
  blob := by decide +kernel
  fresh := by decide

end RcController
