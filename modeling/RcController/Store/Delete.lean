import RcController.Store.Shelf

/-!
# Deleting a preset

`deleteUserPreset` copies the presets after the deleted one a slot down each, erases
the last slot and writes the new directory. It overwrites blobs it still needs only
after it has read them: when slot `i` is read, the slots below its destination have
been written and no other (`Compacted`). One loop lemma (`copyPresets_spec`) says how
the loop ends, how many calls it makes and what it leaves behind when it is cut short.

Run to the end, the delete takes the preset off the shelf (`eval_delete`).
-/

namespace RcController

open DeviceProg

/-- The slot that the preset in slot `i` goes to when the one in slot `t` is
deleted: up to `t` nothing moves, and the later ones move down by one. -/
def newSlot (t i : ℕ) : ℕ := if i ≤ t then i else i - 1

/-- No preset moves up. -/
theorem newSlot_le (t i : ℕ) : newSlot t i ≤ i := by
  unfold newSlot
  split <;> omega

/-- The deleted preset takes no slot, and every other one takes the next. -/
theorem newSlot_succ_self (t : ℕ) : newSlot t (t + 1) = newSlot t t := by
  unfold newSlot
  rw [if_neg (by omega), if_pos (le_refl t)]
  omega

/-- A preset that stays takes one slot. -/
theorem newSlot_succ_of_ne {t i : ℕ} (hit : i ≠ t) : newSlot t (i + 1) = newSlot t i + 1 := by
  unfold newSlot
  split <;> split <;> omega

/-- In the end there is one slot less, and that many presets. -/
theorem newSlot_lt {t i n : ℕ} (hi : i < n) (ht : t < n) (hit : i ≠ t) :
    newSlot t i < n - 1 := by
  unfold newSlot
  split <;> omega

theorem newSlot_length {t n : ℕ} (ht : t < n) : newSlot t n = n - 1 := by
  unfold newSlot
  rw [if_neg (by omega)]

/-- The namespace when the slots below `j` have their new presets: from `t` on
each of them holds the preset that comes next, and the others hold what they
held. -/
def compacted (sh : Shelf) (t j : ℕ) (n : NvsStore) : NvsStore where
  created := n.created
  get
    | .pr d =>
      if t ≤ d ∧ d < j then (sh.presets[d + 1]?).map fun p => .config p.cfg else n.get (.pr d)
    | key => n.get key

section Compacted

variable {sh : Shelf} {t j i : ℕ} {n : NvsStore}

/-- Up to the deleted slot nothing has been moved. -/
theorem compacted_of_le (h : j ≤ t) : compacted sh t j n = n := by
  unfold compacted
  obtain ⟨created, get⟩ := n
  congr
  funext key
  cases key with
  | pr d => exact if_neg (by omega)
  | _ => rfl

/-- A slot that was written holds the preset of the next one. -/
theorem get_compacted (d : ℕ) :
    (compacted sh t j n).get (.pr d)
      = if t ≤ d ∧ d < j then (sh.presets[d + 1]?).map fun p => .config p.cfg else n.get (.pr d) :=
  rfl

/-- What the loop still has to read is there: the slots it wrote lie below the
one it reads. -/
theorem getBlob_compacted (h : Stored sh n) (hi : i < sh.presets.length) (hj : j ≤ i) :
    (compacted sh t j n).getBlob (.pr i) = some (.config sh.presets[i].cfg) := by
  unfold NvsStore.getBlob
  rw [get_compacted, if_neg (by omega), h.blob i hi]

/-- Copying one preset more. A preset below the deleted one is copied onto
itself, which changes nothing. -/
theorem set_compacted (h : Stored sh n) (hi : i < sh.presets.length) (hit : i ≠ t) :
    (compacted sh t (newSlot t i) n).set (.pr (newSlot t i)) (.config sh.presets[i].cfg)
      = compacted sh t (newSlot t i + 1) n := by
  -- only the slot that is written differs between the two sides
  unfold NvsStore.set
  simp only [compacted, NvsStore.mk.injEq, true_and]
  funext key
  cases key with
  | pr d =>
    by_cases hd : d = newSlot t i
    · subst hd
      rw [Function.update_self]
      dsimp only
      unfold newSlot
      by_cases hle : i ≤ t
      · -- a preset before the deleted one is written where it was
        rw [if_pos hle, if_neg (by omega), h.blob i hi]
      · have hsource : i - 1 + 1 = i := by omega
        rw [if_neg hle, if_pos (by omega), hsource, List.getElem?_eq_getElem hi, Option.map_some]
    · rw [Function.update_of_ne (by simpa using hd)]
      have hiff : (t ≤ d ∧ d < newSlot t i) ↔ (t ≤ d ∧ d < newSlot t i + 1) := by omega
      simp only [hiff]
  | _ => rw [Function.update_of_ne (by simp)]

end Compacted

/-! ### The copying loop -/

/-- The new list grows by the preset that is copied, and is as long as the
number of slots taken. -/
theorem getElem_mem_take {ps : List Preset} {t i : ℕ} (hi : i < ps.length) (hit : i ≠ t) :
    (ps.take (i + 1)).eraseIdx t = (ps.take i).eraseIdx t ++ [ps[i]] := by
  have hlen : (ps.take i).length = i := by
    rw [List.length_take]
    omega
  rw [List.take_succ_eq_append_getElem hi]
  rcases Nat.lt_or_gt_of_ne hit with hlt | hgt
  · rw [List.eraseIdx_of_length_le (by simp; omega), List.eraseIdx_of_length_le (by omega)]
  · rw [List.eraseIdx_append_of_lt_length (by omega)]

/-- Skipping the deleted preset adds nothing to the new list. -/
theorem take_eraseIdx_self {ps : List Preset} {t : ℕ} (ht : t < ps.length) :
    (ps.take (t + 1)).eraseIdx t = (ps.take t).eraseIdx t := by
  have hlen : (ps.take t).length = t := by
    rw [List.length_take]
    omega
  rw [List.take_succ_eq_append_getElem ht, List.eraseIdx_append_of_length_le (by omega), hlen]
  simp [List.eraseIdx_of_length_le, hlen]

theorem length_take_eraseIdx {ps : List Preset} {t i : ℕ} (hi : i ≤ ps.length) :
    ((ps.take i).eraseIdx t).length = newSlot t i := by
  rw [List.length_eraseIdx, List.length_take, Nat.min_eq_left hi]
  unfold newSlot
  split <;> split <;> omega

/-- The directory with the name of slot `i` of the old one at its end. -/
def PresetDirectory.push (dir newDir : PresetDirectory) (i : ℕ) : PresetDirectory :=
  { newDir with
    names := newDir.names.setIfInBounds newDir.count
      (terminate (strncpy (newDir.name newDir.count) (cstr (dir.name i)) 23))
    count := newDir.count + 1 }

section CopyStep

variable {dir newDir : PresetDirectory} {t i : ℕ} {is : List ℕ} {s : NvsStore}
  {cfg : PersistedConfig}

/-- The slot of the deleted preset is passed over without a call. -/
theorem copyPresets_skip : copyPresets dir i (i :: is) newDir = copyPresets dir i is newDir := by
  rw [copyPresets, if_pos rfl]

/-- A slot that is copied: one read, then one write. -/
theorem copyPresets_read (hit : i ≠ t) :
    copyPresets dir t (i :: is) newDir = (nvsGetBlob (.pr i)).bind fun v =>
      match v with
      | some (.config cfg) =>
        if kMaxUserPresets ≤ newDir.count then .pure (some newDir)
        else (nvsSetBlob (.pr newDir.count) (.config cfg)).bind fun ok =>
          if !ok then .pure none else copyPresets dir t is (dir.push newDir i)
      | _ => copyPresets dir t is newDir := by
  rw [copyPresets, if_neg hit]
  rfl

variable (hit : i ≠ t) (hread : s.getBlob (.pr i) = some (.config cfg))
  (hroom : newDir.count < kMaxUserPresets)

include hit hread hroom

/-- Any other slot is read and written to its new place, which makes two calls. -/
theorem eval_copyPresets_cons :
    (copyPresets dir t (i :: is) newDir).eval nvsDevice s
      = (copyPresets dir t is (dir.push newDir i)).eval nvsDevice
          (s.set (.pr newDir.count) (.config cfg)) := by
  rw [copyPresets_read hit, eval_getBlob, hread]
  dsimp only
  rw [if_neg (by omega), eval_setBlob]
  rfl

theorem calls_copyPresets_cons :
    (copyPresets dir t (i :: is) newDir).calls nvsDevice s
      = (copyPresets dir t is (dir.push newDir i)).calls nvsDevice
          (s.set (.pr newDir.count) (.config cfg)) + 2 := by
  rw [copyPresets_read hit, calls_getBlob, hread]
  dsimp only
  rw [if_neg (by omega), calls_setBlob]
  rfl

/-- Cut before the write of this slot, the slots are as they were. -/
theorem cut_copyPresets_cons (k : ℕ) :
    (copyPresets dir t (i :: is) newDir).cut nvsDevice k s =
      if k < 2 then s
      else (copyPresets dir t is (dir.push newDir i)).cut nvsDevice (k - 2)
        (s.set (.pr newDir.count) (.config cfg)) := by
  rw [copyPresets_read hit]
  match k with
  | 0 => rw [Prog.cut_zero, if_pos (by omega)]
  | 1 => rw [cut_getBlob, Prog.cut_zero, if_pos (by omega)]
  | k + 2 =>
    rw [cut_getBlob, hread, if_neg (by omega)]
    dsimp only
    rw [if_neg (by omega), cut_setBlob]
    rfl

end CopyStep

/-- What a copying loop does when it starts with the slots up to `j` compacted:
it ends with a directory of the presets that stay, and cut after any number of
calls it leaves the slots compacted up to some point, which the number of calls
tells. -/
structure Copies (sh : Shelf) (t : ℕ) (n : NvsStore) (p : NvsM (Option PresetDirectory)) (j : ℕ) :
    Prop where
  ends : ∃ final, Lists final (sh.presets.eraseIdx t) ∧
    p.eval nvsDevice (compacted sh t j n) = (some final, compacted sh t (sh.presets.length - 1) n)
  calls : p.calls nvsDevice (compacted sh t j n) = 2 * (sh.presets.length - 1 - j)
  cut : ∀ k, p.cut nvsDevice k (compacted sh t j n)
    = compacted sh t (min (j + k / 2) (sh.presets.length - 1)) n

/-- Pushing a name of the old directory adds its preset to the list. The old
buffer is terminated, so the copy reads back. -/
theorem Lists.push {sh : Shelf} {dir newDir : PresetDirectory} {ps : List Preset} {i : ℕ}
    (h : Lists newDir ps) (hdir : Lists dir sh.presets) (hi : i < sh.presets.length)
    (hroom : newDir.count < kMaxUserPresets) :
    Lists (dir.push newDir i) (ps ++ [sh.presets[i]]) := by
  have hname : cstr (dir.name i) = sh.presets[i].name := hdir.name i hi
  obtain ⟨hterm, hbuf⟩ := (sh.named _ (List.getElem_mem hi)).copy (newDir.name newDir.count)
  rw [← hname] at hterm hbuf
  have hl := h.append (p := sh.presets[i]) (by rw [← h.count]; exact hroom) (hbuf.trans hname)
    hterm
  rwa [← h.count] at hl

/-- **The loop of the delete**, from slot `i` on. The induction is on the slots
left; the new directory lists the presets before `i` but the deleted one. A step
is either the deleted slot, which makes no call, or a read and a write. -/
theorem copies_copyPresets {sh : Shelf} {n : NvsStore} {dir : PresetDirectory} {t : ℕ}
    (h : Stored sh n) (hdir : Lists dir sh.presets) (ht : t < sh.presets.length) (m : ℕ) :
    ∀ (i : ℕ) (newDir : PresetDirectory), i + m = sh.presets.length →
      Lists newDir ((sh.presets.take i).eraseIdx t) →
      Copies sh t n (copyPresets dir t (List.range' i m) newDir) (newSlot t i) := by
  induction m with
  | zero =>
    intro i newDir him hnew
    obtain rfl : i = sh.presets.length := by omega
    rw [List.take_of_length_le (le_refl _)] at hnew
    rw [newSlot_length ht]
    refine ⟨⟨newDir, hnew, rfl⟩, ?_, fun k => ?_⟩
    · rw [Nat.sub_self]
      rfl
    · rw [Nat.min_eq_right (by omega)]
      exact Prog.cut_pure nvsDevice k _ _
  | succ m ih =>
    intro i newDir him hnew
    have hi : i < sh.presets.length := by omega
    rw [List.range'_succ]
    by_cases hit : i = t
    · -- the deleted preset is skipped
      subst hit
      rw [← take_eraseIdx_self hi] at hnew
      rw [copyPresets_skip, ← newSlot_succ_self]
      exact ih (i + 1) newDir (by omega) hnew
    · have hpos : newSlot t (i + 1) = newSlot t i + 1 := newSlot_succ_of_ne hit
      have hlt : newSlot t i < sh.presets.length - 1 := newSlot_lt hi ht hit
      have hcount : newDir.count = newSlot t i := by
        rw [hnew.count, length_take_eraseIdx (le_of_lt hi)]
      have hroom : newDir.count < kMaxUserPresets := by
        have hshelf := sh.room
        omega
      have hread := getBlob_compacted (t := t) h hi (newSlot_le t i)
      have hwrite :
          (compacted sh t (newSlot t i) n).set (.pr newDir.count) (.config sh.presets[i].cfg)
          = compacted sh t (newSlot t (i + 1)) n := by
        rw [hcount, hpos]
        exact set_compacted h hi hit
      -- the loop goes on with one name more
      have hnext : Lists (dir.push newDir i) ((sh.presets.take (i + 1)).eraseIdx t) := by
        rw [getElem_mem_take hi hit]
        exact hnew.push hdir hi hroom
      obtain ⟨⟨final, hfinal, heval⟩, hcalls, hcut⟩ := ih (i + 1) _ (by omega) hnext
      refine ⟨⟨final, hfinal, ?_⟩, ?_, fun k => ?_⟩
      · rw [eval_copyPresets_cons hit hread hroom, hwrite, heval]
      · rw [calls_copyPresets_cons hit hread hroom, hwrite, hcalls, hpos]
        omega
      · rw [cut_copyPresets_cons hit hread hroom, hwrite, hcut, hpos]
        split
        · rw [Nat.min_eq_left (by omega)]
          congr 1
          omega
        · congr 2
          omega

/-! ### The whole delete -/

/-- The end of `deleteUserPreset`, after the loop. -/
def finishDelete (oldCount : ℕ) (newDir : PresetDirectory) : NvsM (Except String Unit) :=
  (erasePresets (List.range' newDir.count (oldCount - newDir.count))).bind fun _ =>
    (nvsSetBlob .presetDir (.directory newDir)).bind fun ok =>
      if !ok then .pure (.error "Failed to delete preset")
      else nvsCommit.bind fun ok =>
        if !ok then .pure (.error "Failed to delete preset") else .pure (.ok ())

/-- One preset less leaves one slot to erase. -/
theorem finishDelete_one {oldCount : ℕ} {newDir : PresetDirectory}
    (h : newDir.count + 1 = oldCount) :
    finishDelete oldCount newDir = (nvsEraseKey (.pr newDir.count)).bind fun _ =>
      (nvsSetBlob .presetDir (.directory newDir)).bind fun ok =>
        if !ok then .pure (.error "Failed to delete preset")
        else nvsCommit.bind fun ok =>
          if !ok then .pure (.error "Failed to delete preset") else .pure (.ok ()) := by
  have hone : oldCount - newDir.count = 1 := by omega
  unfold finishDelete
  rw [hone]
  rfl

/-- The program of a delete that finds its preset. It reads the directory,
copies, erases and writes, in this order. -/
theorem deleteUserPreset_of_slot (rawName : Str) :
    deleteUserPreset rawName = loadPresetDirectory.bind fun dir =>
      match findPresetSlotByName dir (sanitizePresetName rawName) with
      | none => .pure (.error "Unknown preset")
      | some slot => nvsOpenReadwrite.bind fun ok =>
        if !ok then .pure (.error "NVS unavailable")
        else (copyPresets dir slot (List.range dir.count) freshDirectory).bind fun
          | none => .pure (.error "Failed to delete preset")
          | some newDir => finishDelete dir.count newDir := rfl

/-- Reading the directory of a namespace that exists makes two calls. -/
theorem calls_loadPresetDirectory {n : NvsStore} (h : n.created = true) :
    loadPresetDirectory.calls nvsDevice n = 2 := by
  rw [loadPresetDirectory_eq]
  change Prog.calls nvsDevice (if !n.created then _ else _) n + 1 = 2
  rw [h]
  rfl

/-- Reading the directory writes nothing, so a cut leaves the store as it was. -/
theorem cut_loadPresetDirectory {n : NvsStore} (k : ℕ) :
    loadPresetDirectory.cut nvsDevice k n = n := by
  rw [loadPresetDirectory_eq]
  -- the power can go before the opening, before the read, or after both
  match k with
  | 0 => exact Prog.cut_zero ..
  | k + 1 =>
    rw [cut_openReadonly]
    cases n.created with
    | false => exact Prog.cut_pure ..
    | true =>
      simp only [Bool.not_true, Bool.false_eq_true, if_false]
      match k with
      | 0 => exact Prog.cut_zero ..
      | k + 1 => exact Prog.cut_pure ..

/-- The namespace after the erase, and after the new directory is written. -/
def erased (sh : Shelf) (t : ℕ) (n : NvsStore) : NvsStore :=
  (compacted sh t (sh.presets.length - 1) n).erase (.pr (sh.presets.length - 1))

def renamed (sh : Shelf) (t : ℕ) (final : PresetDirectory) (n : NvsStore) : NvsStore :=
  (erased sh t n).set .presetDir (.directory final)

section Delete

variable {sh : Shelf} {n : NvsStore} {rawName : Str} {t : ℕ}

/-- The loop of a delete, from its start. -/
theorem copies_from_start (h : Stored sh n) (ht : t < sh.presets.length) :
    Copies sh t n (copyPresets n.directory t (List.range n.directory.count) freshDirectory) 0 := by
  have hpos : newSlot t 0 = 0 := if_pos (Nat.zero_le t)
  have hcopies := copies_copyPresets h h.lists ht sh.presets.length 0 freshDirectory (by omega)
    (by simpa using lists_fresh)
  rw [hpos] at hcopies
  rw [h.lists.count, List.range_eq_range']
  exact hcopies

/-- Opening a namespace that exists changes nothing. -/
theorem openReadwrite_of_created (h : n.created = true) :
    ({ n with created := true } : NvsStore) = n := by
  obtain ⟨created, get⟩ := n
  obtain rfl : created = true := h
  rfl

/-- Once the directory is written, the shelf without the preset is stored. The
slots it names were compacted before, and the erased one is not among them. -/
theorem stored_renamed (h : Stored sh n) (ht : t < sh.presets.length) {final : PresetDirectory}
    (hfinal : Lists final (sh.presets.eraseIdx t)) :
    Stored (sh.remove t) (renamed sh t final n) := by
  have hcreated : n.created = true := h.created (List.ne_nil_of_length_pos (by omega))
  refine .of_write hcreated (NvsStore.get_set_self ..) hfinal fun i hi => ?_
  have hlen : i < sh.presets.length - 1 := by
    simpa [Shelf.remove, List.length_eraseIdx_of_lt ht] using hi
  rw [renamed, NvsStore.get_set_of_ne _ (by simp), erased,
    NvsStore.get_erase_of_ne _ (by simp; omega), get_compacted]
  simp only [Shelf.remove, List.getElem_eraseIdx]
  by_cases hti : t ≤ i
  · rw [if_pos ⟨hti, hlen⟩, List.getElem?_eq_getElem (by omega), dif_neg (by omega),
      Option.map_some]
  · rw [if_neg fun hboth => hti hboth.1, dif_pos (by omega)]
    exact h.blob i (by omega)

/-- **The stages of a delete**: what it ends with, and what is left when the
power goes after `k` calls. First the slots are compacted, then the last one is
erased, then the directory is written. -/
theorem delete_stages (h : Stored sh n) (hslot : sh.slot (sanitizePresetName rawName) = some t) :
    ∃ final, Lists final (sh.presets.eraseIdx t) ∧
      (deleteUserPreset rawName).eval nvsDevice n = (.ok (), renamed sh t final n) ∧
      ∀ k, (deleteUserPreset rawName).cut nvsDevice k n =
        if k ≤ 2 * sh.presets.length + 1 then compacted sh t ((k - 3) / 2) n
        else if k = 2 * sh.presets.length + 2 then erased sh t n
        else renamed sh t final n := by
  obtain ⟨ht, -⟩ := Shelf.slot_eq_some.mp hslot
  have hcreated : n.created = true := h.created (List.ne_nil_of_length_pos (by omega))
  have hfind := (h.findSlot (sanitizedName_sanitize rawName)).trans hslot
  have hzero : compacted sh t 0 n = n := compacted_of_le (Nat.zero_le t)
  obtain ⟨⟨final, hfinal, heval⟩, hcalls, hcut⟩ := copies_from_start h ht
  rw [hzero] at heval hcalls hcut
  have hcount : final.count + 1 = n.directory.count := by
    rw [hfinal.count, h.lists.count, List.length_eraseIdx_of_lt ht]
    omega
  have hlast : final.count = sh.presets.length - 1 := by
    rw [hfinal.count, List.length_eraseIdx_of_lt ht]
  refine ⟨final, hfinal, ?_, fun k => ?_⟩
  · rw [deleteUserPreset_of_slot, Prog.eval_bind, eval_loadPresetDirectory]
    dsimp only
    rw [hfind]
    dsimp only
    rw [eval_openReadwrite, openReadwrite_of_created hcreated]
    simp only [Bool.not_true, Bool.false_eq_true, if_false]
    rw [Prog.eval_bind, heval]
    dsimp only
    rw [finishDelete_one hcount, hlast]
    rfl
  · rw [deleteUserPreset_of_slot]
    -- two calls read the directory and one opens it for writing
    by_cases hk2 : k ≤ 2
    · rw [Prog.cut_bind_lt _ _ _ _ (by rw [calls_loadPresetDirectory hcreated]; exact hk2),
        cut_loadPresetDirectory, if_pos (by omega), show (k - 3) / 2 = 0 by omega, hzero]
    obtain ⟨k, rfl⟩ : ∃ r, k = r + 3 := ⟨k - 3, by omega⟩
    rw [Prog.cut_bind_ge _ _ _ _ (by rw [calls_loadPresetDirectory hcreated]; omega),
      calls_loadPresetDirectory hcreated, eval_loadPresetDirectory]
    dsimp only
    rw [hfind]
    dsimp only
    rw [show k + 3 - 2 = k + 1 by omega, cut_openReadwrite, openReadwrite_of_created hcreated]
    simp only [Bool.not_true, Bool.false_eq_true, if_false]
    rw [show k + 3 - 3 = k by omega]
    -- the loop makes two calls for every preset it keeps
    by_cases hloop : k ≤ 2 * (sh.presets.length - 1 - 0)
    · rw [Prog.cut_bind_lt _ _ _ _ (by rw [hcalls]; exact hloop), hcut, if_pos (by omega),
        Nat.min_eq_left (by omega), Nat.zero_add]
    obtain ⟨r, rfl⟩ : ∃ r, k = 2 * (sh.presets.length - 1) + (r + 1) :=
      ⟨k - 2 * (sh.presets.length - 1) - 1, by omega⟩
    rw [Prog.cut_bind_ge _ _ _ _ (by rw [hcalls]; omega), hcalls, heval]
    dsimp only
    rw [finishDelete_one hcount, hlast, if_neg (by omega),
      show 2 * (sh.presets.length - 1) + (r + 1) - 2 * (sh.presets.length - 1 - 0) = r + 1 by omega,
      cut_eraseKey]
    match r with
    | 0 => rw [Prog.cut_zero, if_pos (by omega)]; rfl
    | r + 1 =>
      rw [if_neg (by omega), cut_setBlob]
      simp only [Bool.not_true, Bool.false_eq_true, if_false]
      match r with
      | 0 => rw [Prog.cut_zero]; rfl
      | r + 1 =>
        rw [cut_commit]
        exact Prog.cut_pure ..

/-- **Deleting a preset** takes it off the shelf. This is the last of the
stages, with no cut. -/
theorem eval_delete (h : Stored sh n) (hslot : sh.slot (sanitizePresetName rawName) = some t) :
    ((deleteUserPreset rawName).eval nvsDevice n).1 = .ok () ∧
      Stored (sh.remove t) ((deleteUserPreset rawName).eval nvsDevice n).2 := by
  obtain ⟨ht, -⟩ := Shelf.slot_eq_some.mp hslot
  have hcreated : n.created = true := h.created (List.ne_nil_of_length_pos (by omega))
  obtain ⟨final, hfinal, heval, -⟩ := delete_stages h hslot
  rw [heval]
  exact ⟨rfl, stored_renamed h ht hfinal⟩

/-- A preset that is not there cannot be deleted. -/
theorem eval_delete_unknown (h : Stored sh n)
    (hslot : sh.slot (sanitizePresetName rawName) = none) :
    (deleteUserPreset rawName).eval nvsDevice n = (.error "Unknown preset", n) := by
  have hfind := (h.findSlot (sanitizedName_sanitize rawName)).trans hslot
  rw [deleteUserPreset_of_slot, Prog.eval_bind, eval_loadPresetDirectory]
  dsimp only
  rw [hfind]
  rfl

end Delete

end RcController
