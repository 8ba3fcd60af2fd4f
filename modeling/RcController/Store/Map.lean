import RcController.Lib.BoundedMap
import RcController.Lib.Runs
import RcController.Store.Delete

/-!
# The store is a map of eight presets

A client of the preset store sees a map from names to configurations, with at most
eight names, in which names that agree once sanitized and folded are the same
(`PresetMap`). The shelf is what lies between the two: a namespace keeps a shelf
(`Stored`), and a shelf is a map (`Shelf.map`). Each call is matched with the call of
the map (`exec_call`); the answers of a whole history follow by simulation
(`answers_eq_map`), and so does the order the directory and the blobs are in after
every call.
-/

namespace RcController

open DeviceProg Runs

/-- What a client sees of the store: a map with at most eight keys, which are
names sanitized and folded. -/
abbrev PresetMap := BoundedMap Str PersistedConfig kMaxUserPresets

/-- A call to the store, with the raw name. -/
abbrev StoreCall := BoundedMap.Call Str PersistedConfig

/-- The key of a name. Names with one key are one preset for every function of
the store. -/
def presetKey (rawName : Str) : Str := (sanitizePresetName rawName).fold

/-- How a result is told to a client of the map. The texts of errors are not
part of the interface. -/
def answerOf {α : Type} (ofResult : α → BoundedMap.Answer PersistedConfig) :
    Except String α → BoundedMap.Answer PersistedConfig
  | .ok a => ofResult a
  | .error _ => .refused

/-- A call of the client, made with the functions of the store. -/
def StoreCall.perform : StoreCall → NvsM (BoundedMap.Answer PersistedConfig)
  | .save rawName cfg => return answerOf (fun _ => .done) (← saveUserPresetBlob rawName cfg)
  | .load rawName => return answerOf .found (← loadUserPreset rawName)
  | .delete rawName => return answerOf (fun _ => .done) (← deleteUserPreset rawName)

/-- What it answers and leaves, without faults. -/
def NvsStore.exec (n : NvsStore) (c : StoreCall) : BoundedMap.Answer PersistedConfig × NvsStore :=
  (StoreCall.perform c).eval nvsDevice n

/-- A configuration that is saved has the current format. The functions that
build one see to that. -/
def CurrentFormat : StoreCall → Prop
  | .save _ cfg => cfg.HeaderOk
  | _ => True

/-! ### Shelves as maps -/

namespace Shelf

/-- A shelf as a map. -/
def map (sh : Shelf) : PresetMap where
  entries := sh.table
  bounded := by
    unfold table
    rw [Keyed.card_table sh.distinct]
    exact sh.room

/-- The empty shelf is the empty map. -/
theorem map_empty : Shelf.empty.map = BoundedMap.empty := rfl

section Map

variable {sh : Shelf} {rawName : Str} {cfg : PersistedConfig}

/-- A name is looked up on the shelf, is listed when the shelf has a slot for
it, and there are as many names as presets. -/
theorem lookup_map : sh.map.lookup (presetKey rawName)
    = (sh.find (sanitizePresetName rawName)).map Preset.cfg := Keyed.lookup_table

theorem mem_map : presetKey rawName ∈ sh.map.entries
    ↔ ∃ i, sh.slot (sanitizePresetName rawName) = some i := by
  rw [← Option.isSome_iff_exists]
  exact Keyed.slot_isSome.symm

theorem card_map : sh.map.entries.keys.card = sh.presets.length := Keyed.card_table sh.distinct

/-- A preset under the folded name is overwritten by a save of the map. -/
theorem map_overwrite {i : ℕ} (hi : i < sh.presets.length)
    (hkey : sh.presets[i].key = presetKey rawName) (hcfg : cfg.HeaderOk)
    (hfits : sh.map.Fits (presetKey rawName)) :
    (sh.overwrite i hi cfg hcfg).map = sh.map.insert (presetKey rawName) cfg hfits := by
  apply BoundedMap.ext_entries
  have hset : (sh.overwrite i hi cfg hcfg).table = sh.table.insert sh.presets[i].key cfg :=
    Keyed.table_set sh.distinct hi rfl
  rw [hkey] at hset
  exact hset

/-- One that is put at the end is a save of the map too, and one that is taken
off is a deletion. -/
theorem map_append (hroom : sh.presets.length < kMaxUserPresets) (hcfg : cfg.HeaderOk)
    (hnew : sh.slot (sanitizePresetName rawName) = none) (hfits : sh.map.Fits (presetKey rawName)) :
    (sh.append ⟨sanitizePresetName rawName, cfg⟩ hroom (sanitizedName_sanitize rawName) hcfg
        hnew).map = sh.map.insert (presetKey rawName) cfg hfits := by
  apply BoundedMap.ext_entries
  exact Keyed.table_append sh.distinct hnew

theorem map_remove {i : ℕ} (hi : i < sh.presets.length)
    (hkey : sh.presets[i].key = presetKey rawName) :
    (sh.remove i).map = sh.map.erase (presetKey rawName) := by
  apply BoundedMap.ext_entries
  rw [← hkey]
  exact Keyed.table_eraseIdx sh.distinct hi

end Map

end Shelf

/-! ### One call -/

/-- The namespace keeps a map: it stores a shelf, and the shelf is that map. -/
def Keeps (n : NvsStore) (m : PresetMap) : Prop := ∃ sh, Stored sh n ∧ m = sh.map

/-- What `loadUserPreset` answers. -/
def PresetMap.load (m : PresetMap) (rawName : Str) : Except String PersistedConfig :=
  match m.lookup (presetKey rawName) with
  | some cfg => .ok cfg
  | none => .error "Unknown preset"

section Call

variable {n : NvsStore} {m : PresetMap}

/-- **A load** answers what the map holds, and changes nothing. -/
theorem keeps_load (h : Keeps n m) (rawName : Str) :
    (loadUserPreset rawName).eval nvsDevice n = (m.load rawName, n) := by
  obtain ⟨sh, hsh, rfl⟩ := h
  rw [eval_loadUserPreset hsh, PresetMap.load, Shelf.lookup_map]
  cases sh.find (sanitizePresetName rawName) <;> rfl

/-- **A save** succeeds exactly when the name fits. It overwrites or appends,
and for the map that makes no difference. -/
theorem keeps_save (h : Keeps n m) (rawName : Str) {cfg : PersistedConfig} (hcfg : cfg.HeaderOk) :
    (∃ hfits : m.Fits (presetKey rawName),
        ((saveUserPresetBlob rawName cfg).eval nvsDevice n).1 = .ok () ∧
          Keeps ((saveUserPresetBlob rawName cfg).eval nvsDevice n).2
            (m.insert (presetKey rawName) cfg hfits)) ∨
      ¬ m.Fits (presetKey rawName) ∧
        (saveUserPresetBlob rawName cfg).eval nvsDevice n = (.error "Preset limit reached", n) := by
  obtain ⟨sh, hsh, rfl⟩ := h
  cases hslot : sh.slot (sanitizePresetName rawName) with
  | some i =>
    -- the name is on the shelf: its preset is overwritten
    obtain ⟨hi, hok, hstored⟩ := eval_save_overwrite hsh hslot hcfg
    obtain ⟨_, hkey⟩ := Shelf.slot_eq_some.mp hslot
    have hfits : sh.map.Fits (presetKey rawName) := .inl (Shelf.mem_map.mpr ⟨i, hslot⟩)
    exact .inl ⟨hfits, hok, _, hstored, (Shelf.map_overwrite hi hkey hcfg hfits).symm⟩
  | none =>
    by_cases hroom : sh.presets.length < kMaxUserPresets
    · -- a new name goes to the end
      obtain ⟨hok, hstored⟩ := eval_save_append hsh hslot hroom hcfg
      have hfits : sh.map.Fits (presetKey rawName) := .inr (by rw [Shelf.card_map]; exact hroom)
      exact .inl ⟨hfits, hok, _, hstored, (Shelf.map_append hroom hcfg hslot hfits).symm⟩
    · refine .inr ⟨?_, eval_save_full hsh hslot hroom⟩
      rintro (hmem | hlt)
      · obtain ⟨i, hi⟩ := Shelf.mem_map.mp hmem
        rw [hslot] at hi
        cases hi
      · rw [Shelf.card_map] at hlt
        exact hroom hlt

/-- **A delete** succeeds exactly when the name is there. -/
theorem keeps_delete (h : Keeps n m) (rawName : Str) :
    presetKey rawName ∈ m.entries ∧ ((deleteUserPreset rawName).eval nvsDevice n).1 = .ok () ∧
        Keeps ((deleteUserPreset rawName).eval nvsDevice n).2 (m.erase (presetKey rawName)) ∨
      presetKey rawName ∉ m.entries ∧
        (deleteUserPreset rawName).eval nvsDevice n = (.error "Unknown preset", n) := by
  obtain ⟨sh, hsh, rfl⟩ := h
  cases hslot : sh.slot (sanitizePresetName rawName) with
  | some i =>
    obtain ⟨hi, hkey⟩ := Shelf.slot_eq_some.mp hslot
    obtain ⟨hok, hstored⟩ := eval_delete hsh hslot
    exact .inl ⟨Shelf.mem_map.mpr ⟨i, hslot⟩, hok, _, hstored, (Shelf.map_remove hi hkey).symm⟩
  | none =>
    refine .inr ⟨fun hmem => ?_, eval_delete_unknown hsh hslot⟩
    obtain ⟨i, hi⟩ := Shelf.mem_map.mp hmem
    rw [hslot] at hi
    cases hi

/-- **One call**: the store answers as the map does, and keeps the map after it.
The cases are the three functions of the store, each with its lemma above. -/
theorem exec_call (h : Keeps n m) (c : StoreCall) (hc : CurrentFormat c) :
    (n.exec c).1 = (m.exec (c.mapKey presetKey)).1 ∧
      Keeps (n.exec c).2 (m.exec (c.mapKey presetKey)).2 := by
  -- each call is the store's own function followed by the spelling of its answer
  cases c with
  | save rawName cfg =>
    have hexec : n.exec (.save rawName cfg) =
        (answerOf (fun _ => .done) ((saveUserPresetBlob rawName cfg).eval nvsDevice n).1,
          ((saveUserPresetBlob rawName cfg).eval nvsDevice n).2) := Prog.eval_bind ..
    rw [hexec, BoundedMap.Call.mapKey]
    rcases keeps_save h rawName hc with ⟨hfits, hok, hkeeps⟩ | ⟨hfull, hrefused⟩
    · rw [hok, BoundedMap.exec_save cfg hfits]
      exact ⟨rfl, hkeeps⟩
    · rw [hrefused, BoundedMap.exec_save_refused cfg hfull]
      exact ⟨rfl, h⟩
  | load rawName =>
    have hexec : n.exec (.load rawName) =
        (answerOf .found ((loadUserPreset rawName).eval nvsDevice n).1,
          ((loadUserPreset rawName).eval nvsDevice n).2) := Prog.eval_bind ..
    rw [hexec, keeps_load h, PresetMap.load, BoundedMap.Call.mapKey, BoundedMap.exec]
    cases m.lookup (presetKey rawName) <;> exact ⟨rfl, h⟩
  | delete rawName =>
    have hexec : n.exec (.delete rawName) =
        (answerOf (fun _ => .done) ((deleteUserPreset rawName).eval nvsDevice n).1,
          ((deleteUserPreset rawName).eval nvsDevice n).2) := Prog.eval_bind ..
    rw [hexec, BoundedMap.Call.mapKey]
    rcases keeps_delete h rawName with ⟨hmem, hok, hkeeps⟩ | ⟨hnew, hrefused⟩
    · rw [hok, BoundedMap.exec_delete hmem]
      exact ⟨rfl, hkeeps⟩
    · rw [hrefused, BoundedMap.exec_delete_refused hnew]
      exact ⟨rfl, h⟩

end Call

/-! ### Histories -/

/-- The directory and the blobs are in order: as many names as the map has keys,
no two of them alike, all terminated and sanitized, and each with its
configuration in its slot. -/
structure InOrder (m : PresetMap) (dir : PresetDirectory) (n : NvsStore) : Prop where
  count : dir.count = m.entries.keys.card
  distinct : ∀ i j, i < dir.count → j < dir.count →
    (cstr (dir.name i)).equalsIgnoreCase (cstr (dir.name j)) = true → i = j
  terminated : ∀ i, i < dir.count → Terminated (dir.name i)
  sanitized : ∀ i, i < dir.count →
    sanitizePresetName (cstr (dir.name i)) = cstr (dir.name i)
  blob : ∀ i, i < dir.count → ∃ cfg, m.lookup (cstr (dir.name i)).fold = some cfg ∧
    n.getBlob (.pr i) = some (.config cfg)

/-- A namespace that keeps a map is in order. -/
theorem Keeps.inOrder {n : NvsStore} {m : PresetMap} (h : Keeps n m) :
    InOrder m (loadPresetDirectory.eval nvsDevice n).1 n := by
  obtain ⟨sh, hsh, rfl⟩ := h
  rw [eval_loadPresetDirectory]
  have hcount := hsh.lists.count
  have hname := hsh.lists.name
  have hok : ∀ i (hi : i < sh.presets.length), SanitizedName sh.presets[i].name :=
    fun i hi => sh.named _ (List.getElem_mem hi)
  -- one part for each statement about the listed names
  refine ⟨hcount.trans Shelf.card_map.symm, fun i j hi hj heq => ?_, fun i hi => ?_, fun i hi => ?_,
    fun i hi => ?_⟩ <;> rw [hcount] at hi
  · -- equal up to case means equal keys, and the keys on the shelf are distinct
    rw [hcount] at hj
    rw [hname i hi, hname j hj, Str.equalsIgnoreCase_iff (hok i hi).ne_zero] at heq
    exact sh.distinct.eq_of_getElem hi hj heq
  · exact hsh.lists.terminated i hi
  · rw [hname i hi]
    exact sanitize_of_sanitized (hok i hi)
  · refine ⟨sh.presets[i].cfg, ?_, ?_⟩
    · have hfind := Keyed.find_of_slot sh.distinct hi rfl
      rw [hname i hi]
      change (Keyed.table Preset.key Preset.cfg sh.presets).lookup sh.presets[i].key = _
      rw [Keyed.lookup_table, hfind, Option.map_some]
    · unfold NvsStore.getBlob
      rw [hsh.blob i hi]

/-- **The preset store refines the bounded map.** From an empty store, any
history of calls on any names, in which every configuration saved is of the
current format, is answered as the map answers it; and after every prefix of it
the directory and the blobs are in order. -/
theorem answers_eq_map (calls : List StoreCall) (hcalls : ∀ c ∈ calls, CurrentFormat c) :
    answers NvsStore.exec {} calls
        = answers BoundedMap.exec (BoundedMap.empty : PresetMap) (calls.map (·.mapKey presetKey)) ∧
      ∀ past, past <+: calls →
        InOrder (after BoundedMap.exec (BoundedMap.empty : PresetMap)
          (past.map (·.mapKey presetKey)))
          (loadPresetDirectory.eval nvsDevice (after NvsStore.exec {} past)).1
          (after NvsStore.exec {} past) := by
  have hstart : Keeps {} BoundedMap.empty := ⟨Shelf.empty, stored_empty, Shelf.map_empty.symm⟩
  have hstep := fun (n : NvsStore) (m : PresetMap) (c : StoreCall) (h : Keeps n m) => exec_call h c
  refine ⟨(answers_eq_of_simulates hstep hstart hcalls).1, fun past hpast => ?_⟩
  have hpast' : ∀ c ∈ past, CurrentFormat c := fun c hc => hcalls c (hpast.mem hc)
  exact (answers_eq_of_simulates hstep hstart hpast').2.inOrder

/-- A history in which one preset is named with different capitals, and with
characters that are dropped. -/
def spellings : List StoreCall :=
  [.save (lit " My car") builtinPresetRcCar, .save (lit "my_CAR") builtinPresetExcavator,
    .load (lit "MY_CAR"), .delete (lit "my car")]

/-- It is answered as the map answers it. -/
theorem answers_eq_map_spellings :
    answers NvsStore.exec {} spellings
        = answers BoundedMap.exec (BoundedMap.empty : PresetMap)
          (spellings.map (·.mapKey presetKey)) ∧
      ∀ past, past <+: spellings →
        InOrder (after BoundedMap.exec (BoundedMap.empty : PresetMap)
          (past.map (·.mapKey presetKey)))
          (loadPresetDirectory.eval nvsDevice (after NvsStore.exec {} past)).1
          (after NvsStore.exec {} past) :=
  answers_eq_map spellings (by simp [spellings, CurrentFormat]; decide)

/-- All of them are answered, and the load sees the second configuration. -/
example : answers NvsStore.exec {} spellings
    = [.done, .done, .found builtinPresetExcavator, .done] := by
  decide +kernel

end RcController
