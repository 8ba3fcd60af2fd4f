import RcController.Service.Json
import RcController.Store.Save

/-!
# A free name for a fork

Saving a built-in model suggests the name of a fork: a base name, or the base with the first
suffix from `_2` to `_99` that the directory does not list. At most eight names are listed and
different suffixes give names that differ also up to case, so the search finds one among the
98 (`exists_free_suffix`); the fallback to `millis()` is not reached. With at most twenty
characters in the base every candidate is still a sanitized name, so that saving under it
takes the name as it is and puts it in a slot of its own (`save_unlisted_keeps`).

A longer base would lose its suffix to the sanitizer, and `presetNameExists` would look up the
same 23 characters again and again.
-/

namespace RcController

open DeviceProg

/-! ### The candidates -/

/-- The candidates of the search: the base, an underscore, and a number. -/
def numbered (base : Str) (i : ℕ) : Str := base ++ lit "_" ++ Str.ofNat i

/-- A digit has no case, and is a character of names. -/
theorem tolower_of_isDigit {c : UInt8} (h : Json.isDigit c = true) : tolower c = c := by
  unfold Json.isDigit at h
  unfold tolower
  rw [if_neg]
  simp only [Bool.and_eq_true, decide_eq_true_eq, UInt8.le_iff_toNat_le,
    UInt8.reduceToNat] at h ⊢
  omega

theorem nameCharOk_of_isDigit {c : UInt8} (h : Json.isDigit c = true) : nameCharOk c = true := by
  unfold nameCharOk
  have hdigit : (48 ≤ c && c ≤ 57) = true := h
  rw [hdigit, Bool.or_true, Bool.true_or, Bool.true_or]

/-- The case of the letters in a number does not matter. -/
theorem fold_ofNat (n : ℕ) : (Str.ofNat n).fold = Str.ofNat n := by
  obtain ⟨hdigits, -⟩ := ofNat_spec n
  unfold Str.fold
  exact (List.map_congr_left fun c hc => tolower_of_isDigit (hdigits c hc)).trans (List.map_id _)

/-- A number is read off its digits. -/
theorem ofNat_injective {i j : ℕ} (h : Str.ofNat i = Str.ofNat j) : i = j := by
  obtain ⟨-, hi, -⟩ := ofNat_spec i
  obtain ⟨-, hj, -⟩ := ofNat_spec j
  rw [← hi, h, hj]

/-- **Different suffixes give different names**, also up to case. The base is
the same on both sides, and digits have no case. -/
theorem fold_numbered_injective {base : Str} {i j : ℕ}
    (h : (numbered base i).fold = (numbered base j).fold) : i = j := by
  unfold numbered Str.fold at h
  simp only [List.map_append] at h
  have hsuffix : (Str.ofNat i).fold = (Str.ofNat j).fold := List.append_cancel_left h
  rw [fold_ofNat, fold_ofNat] at hsuffix
  exact ofNat_injective hsuffix

/-- **A candidate is a sanitized name** when the base leaves room for its
suffix: an underscore and at most two digits. -/
theorem sanitizedName_numbered {base : Str} (h : SanitizedName base) (hlen : base.length ≤ 20)
    {i : ℕ} (hi : i < 100) : SanitizedName (numbered base i) := by
  have hdigits := (ofNat_spec i).1
  -- a number below 100 has one digit or two
  have hshort : (Str.ofNat i).length ≤ 2 := by
    rcases Nat.lt_or_ge i 10 with hlt | hge
    · rw [ofNat_of_lt hlt]
      simp
    · rw [ofNat_of_le hge, ofNat_of_lt (by omega)]
      simp
  have hbar : (lit "_").length = 1 := rfl
  refine ⟨?_, ?_, fun c hc => ?_⟩
  · unfold numbered
    simp [h.nonempty]
  · unfold numbered
    rw [List.length_append, List.length_append, hbar]
    omega
  · rcases List.mem_append.mp hc with hc | hc
    · rcases List.mem_append.mp hc with hc | hc
      · exact h.chars c hc
      · rw [List.mem_singleton.mp hc]
        decide
    · exact nameCharOk_of_isDigit (hdigits c hc)

/-! ### The search -/

/-- What `presetNameExists` answers, read off the directory. -/
def NvsStore.listsName (n : NvsStore) (name : Str) : Bool :=
  (List.range n.directory.count).any fun i => name.equalsIgnoreCase (cstr (n.directory.name i))

/-- No entry of the directory is the name up to case. -/
theorem listsName_eq_false {n : NvsStore} {name : Str} :
    n.listsName name = false ↔
      ∀ i < n.directory.count, name.equalsIgnoreCase (cstr (n.directory.name i)) = false := by
  simp [NvsStore.listsName]

/-- So a name that is not listed is not found. -/
theorem find_of_not_listsName {n : NvsStore} {name : Str} (h : n.listsName name = false) :
    findPresetSlotByName n.directory name = none := by
  unfold findPresetSlotByName
  rw [List.find?_eq_none]
  intro i hi
  rw [listsName_eq_false.mp h i (List.mem_range.mp hi)]
  exact Bool.false_ne_true

/-- The question is answered by the directory, and changes nothing. -/
theorem eval_presetNameExists (n : NvsStore) (rawName : Str) :
    (presetNameExists rawName).eval nvsDevice n
      = (n.listsName (sanitizePresetName rawName), n) := by
  unfold presetNameExists
  rw [Prog.bind_eq, Prog.eval_bind, eval_loadPresetDirectory]
  rfl

/-- **The loop** returns the first candidate the directory does not list. -/
theorem eval_nextFreeSuffix (n : NvsStore) (base : Str) (is : List ℕ) :
    (nextFreeSuffix base is).eval nvsDevice n =
      ((is.map (numbered base)).find? fun name => !n.listsName (sanitizePresetName name), n) := by
  induction is with
  | nil => rfl
  | cons i is ih =>
    unfold nextFreeSuffix
    rw [Prog.bind_eq, Prog.eval_bind, eval_presetNameExists, List.map_cons, List.find?_cons]
    change (if (!n.listsName (sanitizePresetName (numbered base i))) = true then
      Prog.pure (some (numbered base i)) else nextFreeSuffix base is).eval nvsDevice n = _
    cases n.listsName (sanitizePresetName (numbered base i)) with
    | false => rfl
    | true => exact ih

/-- A directory that was read has the right header, and no more names than there
is room for: any other one is replaced by an empty directory. -/
theorem directory_header (n : NvsStore) : n.directory.magic = kConfigMagic ∧
    n.directory.version = kPresetDirectoryVersion ∧ n.directory.count ≤ kMaxUserPresets := by
  -- each error of the read ends with a fresh directory
  have hfresh : freshDirectory.magic = kConfigMagic ∧
      freshDirectory.version = kPresetDirectoryVersion ∧
      freshDirectory.count ≤ kMaxUserPresets := ⟨rfl, rfl, Nat.zero_le _⟩
  unfold NvsStore.directory
  split
  · split
    · split
      · exact hfresh
      · next hheader =>
        rw [not_or, not_not, not_not] at hheader
        exact ⟨hheader.1, hheader.2, Nat.min_le_right _ _⟩
    · exact hfresh
  · exact hfresh

/-- **A candidate is free**: there are 98 of them, which differ up to case, and
at most eight names in the directory. If none were free, the listed names would
be as many as the candidates. -/
theorem exists_free_suffix (n : NvsStore) {base : Str} (h : SanitizedName base)
    (hlen : base.length ≤ 20) :
    ∃ i ∈ List.range' 2 98, n.listsName (numbered base i) = false := by
  let listed : Finset Str :=
    (Finset.range n.directory.count).image fun i => (cstr (n.directory.name i)).fold
  let candidates : Finset Str :=
    (List.range' 2 98).toFinset.image fun i => (numbered base i).fold
  have hlisted : listed.card ≤ 8 := by
    refine Finset.card_image_le.trans ?_
    rw [Finset.card_range]
    exact (directory_header n).2.2
  have hcandidates : candidates.card = 98 := by
    rw [Finset.card_image_of_injective _ fun i j => fold_numbered_injective,
      List.toFinset_card_of_nodup List.nodup_range', List.length_range']
  obtain ⟨name, hname, hfree⟩ := Finset.exists_mem_notMem_of_card_lt_card
    (show listed.card < candidates.card by omega)
  obtain ⟨i, hi, rfl⟩ := Finset.mem_image.mp hname
  rw [List.mem_toFinset] at hi
  refine ⟨i, hi, listsName_eq_false.mpr fun j hj => ?_⟩
  have hi' : i < 100 := by
    rw [List.mem_range'_1] at hi
    omega
  -- a candidate that is listed would be in both sets
  rw [Bool.eq_false_iff, ne_eq,
    Str.equalsIgnoreCase_iff (sanitizedName_numbered h hlen hi').ne_zero]
  exact fun heq => hfree (Finset.mem_image.mpr ⟨j, Finset.mem_range.mpr hj, heq.symm⟩)

/-- The name comes from the search, not from the fallback. -/
def FoundBySearch (n : NvsStore) (base name : Str) : Prop :=
  ((presetNameExists base).eval nvsDevice n).1 = false ∧ name = base ∨
    ((presetNameExists base).eval nvsDevice n).1 = true ∧
      ((nextFreeSuffix base (List.range' 2 98)).eval nvsDevice n).1 = some name

/-- **The search ends** with a sanitized name that the directory does not
list. -/
theorem eval_nextAvailable (n : NvsStore) {baseName : Str}
    (hlen : (sanitizePresetName baseName).length ≤ 20) (millis : UInt32) :
    ∃ name, (nextAvailableCustomModelName baseName millis).eval nvsDevice n = (name, n) ∧
      FoundBySearch n (sanitizePresetName baseName) name ∧ SanitizedName name ∧
      n.listsName name = false := by
  have hbase := sanitizedName_sanitize baseName
  have htaken := eval_presetNameExists n (sanitizePresetName baseName)
  rw [sanitize_sanitize] at htaken
  unfold nextAvailableCustomModelName FoundBySearch
  simp only [Prog.bind_eq, Prog.eval_bind, htaken]
  cases hlists : n.listsName (sanitizePresetName baseName) with
  | false => exact ⟨_, rfl, .inl ⟨rfl, rfl⟩, hbase, hlists⟩
  | true =>
    obtain ⟨i, hi, hfree⟩ := exists_free_suffix n hbase hlen
    have hok : ∀ j ∈ List.range' 2 98, SanitizedName (numbered (sanitizePresetName baseName) j) :=
      fun j hj => sanitizedName_numbered hbase hlen (by
        rw [List.mem_range'_1] at hj
        omega)
    have hloop := eval_nextFreeSuffix n (sanitizePresetName baseName) (List.range' 2 98)
    -- the loop stops, at the latest at the candidate that is free
    cases hfind : ((List.range' 2 98).map (numbered (sanitizePresetName baseName))).find?
        fun name => !n.listsName (sanitizePresetName name) with
    | none =>
      have hmem := List.mem_map_of_mem (f := numbered (sanitizePresetName baseName)) hi
      have hlisted := List.find?_eq_none.mp hfind _ hmem
      rw [sanitize_of_sanitized (hok i hi), hfree] at hlisted
      exact absurd rfl hlisted
    | some name =>
      rw [hfind] at hloop
      obtain ⟨j, hj, rfl⟩ := List.mem_map.mp (List.mem_of_find?_eq_some hfind)
      have hunlisted := List.find?_some hfind
      rw [sanitize_of_sanitized (hok j hj)] at hunlisted
      refine ⟨numbered (sanitizePresetName baseName) j, ?_, .inr ⟨rfl, ?_⟩, hok j hj,
        by simpa using hunlisted⟩
      · simp [Prog.eval_bind, hloop]
      · rw [hloop]

/-! ### Saving under a free name -/

/-- A name that is listed is found in the same slot when the directory gets one
name more. The scan goes from the front and stops at the first match. -/
theorem find_of_larger {dir : PresetDirectory} {name : Str} {slot : ℕ}
    (h : findPresetSlotByName dir name = some slot) (hroom : dir.count < kMaxUserPresets)
    (buf : CharBuf) :
    findPresetSlotByName { dir with
      count := dir.count + 1
      names := dir.names.setIfInBounds dir.count buf } name = some slot := by
  -- the names before the new one are as they were
  have hname : ∀ i < dir.count, ({ dir with
      count := dir.count + 1
      names := dir.names.setIfInBounds dir.count buf } : PresetDirectory).name i = dir.name i := by
    intro i hi
    rw [name_setIfInBounds _ _ _ hroom, if_neg (by omega)]
  obtain ⟨hfound, hslot, hfirst⟩ := List.find?_range_eq_some.mp h
  rw [List.mem_range] at hslot
  unfold findPresetSlotByName
  rw [List.find?_range_eq_some, hname _ hslot]
  refine ⟨hfound, List.mem_range.mpr (Nat.lt_succ_of_lt hslot), fun j hj => ?_⟩
  rw [hname j (by omega)]
  exact hfirst j hj

/-- **A save under a name that is not listed** leaves every preset of the
directory in its slot and loads it as before, on any storage. -/
theorem save_unlisted_keeps {n : NvsStore} {rawName other : Str} {slot : ℕ}
    (h : findPresetSlotByName n.directory (sanitizePresetName rawName) = none)
    (hother : findPresetSlotByName n.directory (sanitizePresetName other) = some slot)
    (cfg : PersistedConfig) :
    SameUnder n ((saveUserPresetBlob rawName cfg).eval nvsDevice n).2 other := by
  have hslot : slot < n.directory.count :=
    List.mem_range.mp (List.mem_of_find?_eq_some hother)
  rw [saveUserPresetBlob_eq, Prog.eval_bind, eval_loadPresetDirectory]
  unfold saveInto saveSlot
  rw [h]
  dsimp only
  -- a full directory writes nothing
  by_cases hfull : kMaxUserPresets ≤ n.directory.count
  · rw [if_pos hfull]
    exact ⟨rfl, rfl⟩
  · obtain ⟨hmagic, hversion, -⟩ := directory_header n
    have hroom := not_le.mp hfull
    have hfind := find_of_larger hother hroom (toCharArray (sanitizePresetName rawName) .zero)
    rw [if_neg hfull]
    dsimp only
    rw [eval_writePreset]
    refine sameUnder_of_find ?_ fun i hi => ?_
    · rw [hother, ← hfind]
      refine congrArg (findPresetSlotByName · _) ?_
      exact directory_of_header rfl (NvsStore.get_set_self ..) hmagic hversion
        (Nat.succ_le_of_lt hroom)
    · -- the blob that is written is that of the new slot
      rw [hother] at hi
      obtain rfl := Option.some.inj hi
      refine (NvsStore.get_set_of_ne _ (by simp) _).trans (NvsStore.get_set_of_ne _ ?_ _)
      simp only [ne_eq, NvsKey.pr.injEq]
      omega

/-- **The suggested name is free**, on any storage and for any base of at most
twenty characters: it comes from the search, is left alone by the sanitizer and
equals no name of the directory up to case. Saving under it leaves every preset
of the directory where it is and as it is. -/
theorem suggested_name_free (n : NvsStore) {baseName : Str}
    (hlen : (sanitizePresetName baseName).length ≤ 20) (millis : UInt32) :
    ∃ name, (nextAvailableCustomModelName baseName millis).eval nvsDevice n = (name, n) ∧
      FoundBySearch n (sanitizePresetName baseName) name ∧
      sanitizePresetName name = name ∧
      (∀ i < n.directory.count, name.equalsIgnoreCase (cstr (n.directory.name i)) = false) ∧
      ∀ cfg other slot, findPresetSlotByName n.directory (sanitizePresetName other) = some slot →
        SameUnder n ((saveUserPresetFromConfig name cfg).eval nvsDevice n).2 other := by
  obtain ⟨name, heval, hsearch, hok, hfree⟩ := eval_nextAvailable n hlen millis
  have hsame := sanitize_of_sanitized hok
  refine ⟨name, heval, hsearch, hsame, listsName_eq_false.mp hfree, fun cfg other slot hother => ?_⟩
  refine save_unlisted_keeps ?_ hother cfg
  rw [hsame]
  exact find_of_not_listsName hfree

/-- The directory lists a car and the suggestion for it. -/
theorem suggested_name_free_car :
    let n := ((saveUserPresetBlob (lit "Car_custom") builtinPresetRcCar).eval nvsDevice {}).2
    ∃ name, (nextAvailableCustomModelName (lit "car_custom") 0).eval nvsDevice n = (name, n) ∧
      FoundBySearch n (sanitizePresetName (lit "car_custom")) name ∧
      sanitizePresetName name = name ∧
      (∀ i < n.directory.count, name.equalsIgnoreCase (cstr (n.directory.name i)) = false) ∧
      ∀ cfg other slot, findPresetSlotByName n.directory (sanitizePresetName other) = some slot →
        SameUnder n ((saveUserPresetFromConfig name cfg).eval nvsDevice n).2 other :=
  suggested_name_free _ (by decide +kernel) 0

end RcController
