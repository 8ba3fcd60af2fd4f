import RcController.Store.Reads
import RcController.Store.Shelf

/-!
# Loading from any storage

`Stored` says what loading answers on a storage that keeps a shelf. A device may also be
started on a storage that keeps none: a directory with names that are not sanitized or occur
twice, blobs of another size or of an old format. `NvsStore.load` is what `loadAnyPreset`
answers then, read off the directory and the preset blobs.

A preset that loads loads from every storage with the same directory and blobs
(`load_of_get`), and what loads has the current format (`load_headerOk`).
-/

namespace RcController

open DeviceProg

/-- What loading a name from the user directory answers, read off the directory
and the blobs. -/
def NvsStore.loadUser (n : NvsStore) (rawName : Str) : Except String PersistedConfig :=
  match findPresetSlotByName n.directory (sanitizePresetName rawName) with
  | none => .error "Unknown preset"
  | some i => n.preset i

/-- What loading any name answers: the built-in presets are tried first. -/
def NvsStore.load (n : NvsStore) (name : Str) : Except String PersistedConfig :=
  match builtinPreset name with
  | some cfg => .ok cfg
  | none => n.loadUser name

/-- An empty directory lists nothing. -/
theorem find_freshDirectory (name : Str) : findPresetSlotByName freshDirectory name = none := rfl

/-- A directory that lists something has been read. -/
theorem created_of_find {n : NvsStore} {name : Str} {i : ℕ}
    (h : findPresetSlotByName n.directory name = some i) : n.created = true := by
  by_contra hnot
  unfold NvsStore.directory at h
  rw [if_neg hnot, find_freshDirectory] at h
  cases h

/-- Loading from the user directory answers this, and changes nothing. -/
theorem eval_loadUser (n : NvsStore) (rawName : Str) :
    (loadUserPreset rawName).eval nvsDevice n = (n.loadUser rawName, n) := by
  cases hfind : findPresetSlotByName n.directory (sanitizePresetName rawName) with
  | none =>
    unfold loadUserPreset NvsStore.loadUser
    rw [Prog.bind_eq, Prog.eval_bind, eval_loadPresetDirectory]
    dsimp only
    rw [hfind]
    rfl
  | some i =>
    rw [eval_load_of_slot (created_of_find hfind) hfind, NvsStore.loadUser, hfind]

/-- **Loading**, on any storage. -/
theorem eval_load (n : NvsStore) (name : Str) :
    (loadAnyPreset name).eval nvsDevice n = (n.load name, n) := by
  unfold loadAnyPreset NvsStore.load
  cases builtinPreset name with
  | some cfg => rfl
  | none => exact eval_loadUser n name

/-- The built-in presets have the current format. -/
theorem builtinPreset_headerOk {name : Str} {cfg : PersistedConfig}
    (h : builtinPreset name = some cfg) : cfg.HeaderOk := by
  unfold builtinPreset at h
  repeat' split at h
  all_goals first
    | cases h; exact ⟨rfl, rfl⟩
    | cases h

/-- The blob of a slot is checked before it is returned. This holds whatever the
calls answer, so also of a storage with faults. -/
theorem loadUserPreset_always (rawName : Str) : (loadUserPreset rawName).Always fun r =>
    ∀ cfg, r = .ok cfg → cfg.HeaderOk := by
  refine Prog.always_bind_of_forall _ fun dir => ?_
  cases findPresetSlotByName dir (sanitizePresetName rawName) with
  | none => exact fun cfg h => (by cases h)
  | some slot =>
    apply Prog.always_bind_of_forall
    intro opened
    cases opened with
    | false => exact fun cfg h => (by cases h)
    | true =>
      apply Prog.always_bind_of_forall
      intro blob
      rcases blob with _ | ⟨stored⟩ | ⟨dir⟩ | ⟨size⟩ | ⟨str⟩
      case some.config =>
        dsimp only
        -- magic and version are checked before the configuration is returned
        split
        · exact fun cfg h => (by cases h)
        · next hmagic =>
          split
          · exact fun cfg h => (by cases h)
          · next hversion =>
            intro cfg h
            obtain rfl := Except.ok.inj h
            exact ⟨not_not.mp hmagic, not_not.mp hversion⟩
      all_goals exact fun cfg h => (by cases h)

/-- **What loads has the current format**, whatever the calls answer. -/
theorem loadAnyPreset_always (name : Str) : (loadAnyPreset name).Always fun r =>
    ∀ cfg, r = .ok cfg → cfg.HeaderOk := by
  unfold loadAnyPreset
  cases hbuiltin : builtinPreset name with
  | some cfg' =>
    intro cfg h
    obtain rfl := Except.ok.inj h
    exact builtinPreset_headerOk hbuiltin
  | none => exact loadUserPreset_always name

/-- So does what `NvsStore.load` answers. -/
theorem load_headerOk {n : NvsStore} {name : Str} {cfg : PersistedConfig}
    (h : n.load name = .ok cfg) : cfg.HeaderOk := by
  have halways := (loadAnyPreset_always name).eval nvsDevice n
  rw [eval_load] at halways
  exact halways cfg h

/-- Two storages with the same directory and preset blobs load the same. -/
theorem load_congr {n n' : NvsStore} (hcreated : n'.created = n.created)
    (hdir : n'.get .presetDir = n.get .presetDir) (hblob : ∀ i, n'.get (.pr i) = n.get (.pr i))
    (name : Str) : n'.load name = n.load name := by
  have hread : n'.directory = n.directory := by
    unfold NvsStore.directory NvsStore.getBlob
    rw [hcreated, hdir]
  have hpreset : n'.preset = n.preset := by
    funext i
    unfold NvsStore.preset NvsStore.getBlob
    rw [hblob i]
  unfold NvsStore.load NvsStore.loadUser
  rw [hread, hpreset]

/-- **A preset that loads goes on loading** while the directory and the preset
blobs stay. -/
theorem load_of_get {n n' : NvsStore} {name : Str} {cfg : PersistedConfig}
    (h : n.load name = .ok cfg) (hcreated : n.created = true → n'.created = true)
    (hdir : n'.get .presetDir = n.get .presetDir) (hblob : ∀ i, n'.get (.pr i) = n.get (.pr i)) :
    n'.load name = .ok cfg := by
  cases hbuiltin : builtinPreset name with
  | some cfg' =>
    -- a built-in preset does not come from the storage
    unfold NvsStore.load at h ⊢
    rw [hbuiltin] at h ⊢
    exact h
  | none =>
    have huser : n.loadUser name = .ok cfg := by
      unfold NvsStore.load at h
      rwa [hbuiltin] at h
    have hc : n.created = true := by
      unfold NvsStore.loadUser at huser
      split at huser
      · cases huser
      · next hfind => exact created_of_find hfind
    rw [load_congr ((hcreated hc).trans hc.symm) hdir hblob, h]

end RcController
