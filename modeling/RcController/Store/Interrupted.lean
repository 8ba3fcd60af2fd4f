import RcController.Store.Delete

/-!
# A delete that is cut short

The delete compacts the blobs first and writes the directory last. In between, the old
directory still maps the names to the slots they had, while the blobs have begun to move:
a preset after the deleted one reads what its successor stored, and once the last slot is
erased the last one cannot be read at all.

`othersLoad_iff` says exactly which cuts lose nothing: those before a second preset was
moved over a different one, and those after the directory was written. A failing
`nvs_set_blob` ends the delete where it is and is such a cut (`CutShort.eq_cut`).
-/

namespace RcController

open DeviceProg

/-- The calls that write a blob, the directory among them. -/
def isSetBlob : nvsInterface.Op → Bool
  | .setBlob _ _ => true
  | _ => false

/-- What a delete leaves that does not come to its end: the power goes after `k`
calls, or the call after them is a write that fails and the delete answers an
error. -/
inductive CutShort (rawName : Str) (n : NvsStore) (k : ℕ) : NvsStore → Prop where
  | power : CutShort rawName n k ((deleteUserPreset rawName).cut nvsDevice k n)
  | failed {e : String} {n' : NvsStore}
      (h : (deleteUserPreset rawName).run nvsDevice (Prog.failAt k isSetBlob) n = (.error e, n')) :
      CutShort rawName n k n'

/-- Every other preset of the shelf still loads what it did. -/
def OthersLoad (sh : Shelf) (t : ℕ) (n n' : NvsStore) : Prop :=
  ∀ i (hi : i < sh.presets.length), i ≠ t →
    ((loadUserPreset sh.presets[i].name).eval nvsDevice n').1
      = ((loadUserPreset sh.presets[i].name).eval nvsDevice n).1

/-- The condition on a cut after `k` calls: the deleted preset is the last one,
or the directory is written, or no slot is erased yet and every other preset
whose slot was overwritten has the configuration of its successor. -/
def LosesNothing (sh : Shelf) (t k : ℕ) : Prop :=
  t + 1 = sh.presets.length ∨ 2 * sh.presets.length + 3 ≤ k ∨
    k ≤ 2 * sh.presets.length + 1 ∧ ∀ i, t < i → i < (k - 3) / 2 →
      (sh.presets[i]?).map Preset.cfg = (sh.presets[i + 1]?).map Preset.cfg

/-! ### A failing write ends the delete -/

section EndsOn

/-- The delete gave up. -/
def GaveUp (r : Except String Unit) : Prop := ∃ e, r = .error e

/-- No write is made while the directory is read. -/
theorem endsOn_loadPresetDirectory :
    loadPresetDirectory.EndsOn nvsDevice isSetBlob fun _ => False := by
  rw [loadPresetDirectory_eq]
  -- opening and reading are no writes: nothing here ends the delete
  refine .of_not rfl fun opened => ?_
  cases opened with
  | false => trivial
  | true => exact .of_not rfl fun _ => trivial

/-- A write that fails in the copying loop ends the loop. Erasing is no such
call. -/
theorem endsOn_copyPresets (dir : PresetDirectory) (t : ℕ) (is : List ℕ)
    (newDir : PresetDirectory) :
    (copyPresets dir t is newDir).EndsOn nvsDevice isSetBlob (· = none) := by
  induction is generalizing newDir with
  | nil => trivial
  | cons i is ih =>
    by_cases hit : i = t
    · subst hit
      -- the deleted preset is passed over
      rw [copyPresets_skip]
      exact ih newDir
    · rw [copyPresets_read hit]
      refine .of_not rfl fun v => ?_
      rcases v with _ | ⟨cfg⟩ | ⟨d⟩ | ⟨size⟩ | ⟨s⟩
      case some.config =>
        dsimp only
        split
        · trivial
        · -- the write: when it fails the loop is left
          refine ⟨fun _ => ⟨none, rfl, rfl⟩, fun ok => ?_⟩
          cases ok with
          | false => trivial
          | true => exact ih _
      all_goals exact ih newDir

theorem endsOn_erasePresets (is : List ℕ) :
    (erasePresets is).EndsOn nvsDevice isSetBlob fun _ => False := by
  induction is with
  | nil => trivial
  | cons i is ih => exact .of_not rfl fun _ => ih

/-- When the directory is not written, nothing is after it. -/
theorem endsOn_finishDelete (oldCount : ℕ) (newDir : PresetDirectory) :
    (finishDelete oldCount newDir).EndsOn nvsDevice isSetBlob GaveUp := by
  refine (endsOn_erasePresets _).bind (fun _ h => h.elim) fun _ => ?_
  refine ⟨fun _ => ⟨_, rfl, _, rfl⟩, fun ok => ?_⟩
  cases ok with
  | false => trivial
  | true =>
    refine .of_not rfl fun ok => ?_
    cases ok <;> trivial

/-- **A failing `nvs_set_blob` ends the delete at once**, with an error. -/
theorem endsOn_deleteUserPreset (rawName : Str) :
    (deleteUserPreset rawName).EndsOn nvsDevice isSetBlob GaveUp := by
  rw [deleteUserPreset_of_slot]
  refine endsOn_loadPresetDirectory.bind (fun _ h => h.elim) fun dir => ?_
  cases findPresetSlotByName dir (sanitizePresetName rawName) with
  | none => trivial
  | some slot =>
    refine .of_not rfl fun ok => ?_
    cases ok with
    | false => trivial
    | true =>
      refine (endsOn_copyPresets dir slot _ _).bind ?_ fun r => ?_
      · -- the loop was left at a failed write
        rintro r rfl
        exact ⟨_, rfl, _, rfl⟩
      · cases r with
        | none => trivial
        | some newDir => exact endsOn_finishDelete _ _

end EndsOn

section Interrupted

variable {sh : Shelf} {n n' : NvsStore} {rawName : Str} {t k : ℕ}

/-- A delete that fails at a write leaves what a power cut leaves there. -/
theorem CutShort.eq_cut (h : Stored sh n) (hslot : sh.slot (sanitizePresetName rawName) = some t)
    (hcut : CutShort rawName n k n') : n' = (deleteUserPreset rawName).cut nvsDevice k n := by
  cases hcut with
  | power => rfl
  | failed hrun =>
    rcases Prog.run_failAt (endsOn_deleteUserPreset rawName) k n with heval | ⟨r, -, hfail⟩
    · -- no write failed, so the delete succeeded
      obtain ⟨hok, -⟩ := eval_delete h hslot
      rw [← heval, hrun] at hok
      cases hok
    · rw [hrun] at hfail
      exact (Prod.mk.inj hfail).2

/-! ### What the other presets read -/

/-- While the directory is the old one, a preset reads the blob of its old slot,
whatever has become of that. -/
theorem load_of_old_directory (h : Stored sh n) (hcreated : n'.created = n.created)
    (hdir : n'.get .presetDir = n.get .presetDir) {i : ℕ} (hi : i < sh.presets.length) :
    ((loadUserPreset sh.presets[i].name).eval nvsDevice n').1 = n'.preset i := by
  have hname := sh.named _ (List.getElem_mem hi)
  have hread : n'.directory = n.directory := by
    unfold NvsStore.directory NvsStore.getBlob
    rw [hcreated, hdir]
  have hfind :
      findPresetSlotByName n'.directory (sanitizePresetName sh.presets[i].name) = some i := by
    rw [hread, sanitize_of_sanitized hname, h.findSlot hname]
    exact Shelf.slot_eq_some.mpr ⟨hi, rfl⟩
  have hexists : n'.created = true :=
    hcreated.trans (h.created (List.ne_nil_of_length_pos (by omega)))
  rw [eval_load_of_slot hexists hfind]

/-- Before the delete a preset loads what is on the shelf. -/
theorem load_before (h : Stored sh n) {i : ℕ} (hi : i < sh.presets.length) :
    ((loadUserPreset sh.presets[i].name).eval nvsDevice n).1 = .ok sh.presets[i].cfg := by
  rw [load_of_old_directory h rfl rfl hi]
  exact preset_of_get (h.blob i hi) (sh.valid _ (List.getElem_mem hi))

/-- **While the slots are being compacted**, a preset whose slot was overwritten
reads the configuration of its successor. It loses nothing by that when the two
are equal. -/
theorem othersLoad_compacted (h : Stored sh n) {j : ℕ} (hj : j ≤ sh.presets.length - 1) :
    OthersLoad sh t n (compacted sh t j n) ↔ ∀ i, t < i → i < j →
      (sh.presets[i]?).map Preset.cfg = (sh.presets[i + 1]?).map Preset.cfg := by
  have hload : ∀ i (hi : i < sh.presets.length),
      ((loadUserPreset sh.presets[i].name).eval nvsDevice (compacted sh t j n)).1
        = (compacted sh t j n).preset i :=
    fun i hi =>
      load_of_old_directory h (show (compacted sh t j n).created = n.created from rfl) rfl hi
  -- what is in a slot that was overwritten
  have hmoved : ∀ i, i < j → t ≤ i → ∀ hnext : i + 1 < sh.presets.length,
      (compacted sh t j n).preset i = .ok sh.presets[i + 1].cfg := by
    intro i hi hti hnext
    refine preset_of_get ?_ (sh.valid _ (List.getElem_mem (by omega)))
    rw [get_compacted, if_pos ⟨hti, hi⟩, List.getElem?_eq_getElem (by omega), Option.map_some]
  constructor
  · intro hothers i hti hij
    have hi := hothers i (by omega) (by omega)
    rw [hload i (by omega), hmoved i hij (by omega) (by omega), load_before h (by omega)] at hi
    rw [List.getElem?_eq_getElem (by omega), List.getElem?_eq_getElem (by omega), Option.map_some,
      Option.map_some, Except.ok.inj hi]
  · intro hsame i hi hit
    rw [hload i hi, load_before h hi]
    by_cases hmove : t < i ∧ i < j
    · obtain ⟨hti, hij⟩ := hmove
      have hcfg := hsame i hti hij
      rw [List.getElem?_eq_getElem hi, List.getElem?_eq_getElem (by omega), Option.map_some,
        Option.map_some] at hcfg
      rw [hmoved i hij (by omega) (by omega), Option.some.inj hcfg]
    · -- its slot was not overwritten
      refine preset_of_get ?_ (sh.valid _ (List.getElem_mem hi))
      rw [get_compacted, if_neg (by omega), h.blob i hi]

/-- **Once the last slot is erased**, the last preset is lost, unless it is the
deleted one. The old directory still names the slot, and there is nothing in
it. -/
theorem othersLoad_erased (h : Stored sh n) (ht : t < sh.presets.length) :
    OthersLoad sh t n (erased sh t n) ↔ t + 1 = sh.presets.length := by
  have hload : ∀ i (hi : i < sh.presets.length),
      ((loadUserPreset sh.presets[i].name).eval nvsDevice (erased sh t n)).1
        = (erased sh t n).preset i :=
    fun i hi => load_of_old_directory h (show (erased sh t n).created = n.created from rfl)
      (NvsStore.get_erase_of_ne _ (by simp)) hi
  constructor
  · intro hothers
    -- the old directory still lists the last preset, whose slot is now empty
    by_contra hlast
    have hbefore := hothers (sh.presets.length - 1) (by omega) (by omega)
    have hgone : (erased sh t n).get (.pr (sh.presets.length - 1)) = none :=
      NvsStore.get_erase_self ..
    rw [hload _ (by omega), preset_of_none hgone, load_before h (by omega)] at hbefore
    cases hbefore
  · intro hlast i hi hit
    -- every other preset comes before the deleted one and was never moved
    rw [hload i hi, load_before h hi]
    refine preset_of_get ?_ (sh.valid _ (List.getElem_mem hi))
    unfold erased
    rw [NvsStore.get_erase_of_ne _ (by simp; omega), get_compacted, if_neg (by omega), h.blob i hi]

/-- **Once the directory is written**, every other preset is found where it was
moved to. -/
theorem othersLoad_renamed (h : Stored sh n) (ht : t < sh.presets.length) {final : PresetDirectory}
    (hfinal : Lists final (sh.presets.eraseIdx t)) : OthersLoad sh t n (renamed sh t final n) := by
  intro i hi hit
  have hname := sh.named _ (List.getElem_mem hi)
  have hfind : sh.find sh.presets[i].name = some sh.presets[i] :=
    Keyed.find_of_slot sh.distinct hi rfl
  have hkept : (sh.remove t).find sh.presets[i].name = some sh.presets[i] := by
    have hother : sh.presets[t].key ≠ sh.presets[i].name.fold := fun heq =>
      hit (sh.distinct.eq_of_getElem ht hi heq).symm
    unfold Shelf.find
    rw [← hfind]
    exact (Keyed.find_eraseIdx sh.distinct ht).trans (if_neg hother)
  rw [eval_loadUserPreset (stored_renamed h ht hfinal), eval_loadUserPreset h,
    sanitize_of_sanitized hname, hkept, hfind]

/-- **When an interrupted delete loses nothing else.** The number of calls tells
the stage, and each stage has its lemma above. -/
theorem othersLoad_iff (h : Stored sh n) (hslot : sh.slot (sanitizePresetName rawName) = some t)
    (hcut : CutShort rawName n k n') : OthersLoad sh t n n' ↔ LosesNothing sh t k := by
  obtain ⟨ht, -⟩ := Shelf.slot_eq_some.mp hslot
  obtain ⟨final, hfinal, -, hstages⟩ := delete_stages h hslot
  rw [hcut.eq_cut h hslot, hstages k]
  unfold LosesNothing
  -- the three stages at which the power can go: moving, erasing, writing the directory
  by_cases hcompacting : k ≤ 2 * sh.presets.length + 1
  · rw [if_pos hcompacting, othersLoad_compacted h (by omega)]
    constructor
    · intro hsame
      exact .inr (.inr ⟨hcompacting, hsame⟩)
    · rintro (hlast | hdone | ⟨-, hsame⟩)
      · -- nothing comes after the deleted preset
        intro i hti hij
        omega
      · omega
      · exact hsame
  · rw [if_neg hcompacting]
    by_cases herased : k = 2 * sh.presets.length + 2
    · rw [if_pos herased, othersLoad_erased h ht]
      constructor
      · exact .inl
      · rintro (hlast | hdone | ⟨hle, -⟩)
        · exact hlast
        · omega
        · omega
    · rw [if_neg herased]
      refine iff_of_true (othersLoad_renamed h ht hfinal) (.inr (.inl ?_))
      omega

end Interrupted

/-- The power goes between the writes: `b` has been copied to slot 0, and
nothing else was written. -/
theorem othersLoad_iff_moved :
    OthersLoad carAndExcavator 0 carAndExcavatorStore
        ((deleteUserPreset (lit "a")).cut nvsDevice 5 carAndExcavatorStore) ↔
      LosesNothing carAndExcavator 0 5 :=
  othersLoad_iff stored_carAndExcavator (by decide +kernel) .power

/-- Deleting `a` copies `b` to slot 0 and erases slot 1; then the directory
cannot be written. The delete answers an error, and `b`, which loaded before, is
gone. -/
theorem failed_delete_loses_other :
    let r :=
      (deleteUserPreset (lit "a")).run nvsDevice (Prog.failAt 6 isSetBlob) carAndExcavatorStore
    r.1 = .error "Failed to delete preset" ∧
      ((loadUserPreset (lit "b")).eval nvsDevice carAndExcavatorStore).1
        = .ok builtinPresetExcavator ∧
      ((loadUserPreset (lit "b")).eval nvsDevice r.2).1 = .error "Preset corrupted" := by
  decide +kernel

end RcController
