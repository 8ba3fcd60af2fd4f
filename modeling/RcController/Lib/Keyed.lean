import Mathlib.Data.Finmap
import Mathlib.Data.List.Dedup
import Mathlib.Data.Finset.Card

/-!
# Keyed lists

A table kept as a list of entries with distinct keys: an entry is found by a scan for
its key, overwritten in place, appended, or removed so that the later ones move down.
The key is a function of the entry, so that entries that spell their key differently
can still be the same one.

`table` is the finite map such a list stands for. The three operations on the list are
the operations of the map (`table_set`, `table_append`, `table_eraseIdx`), and its size
is the length of the list (`card_table`).
-/

namespace Keyed

variable {ε κ α : Type} [DecidableEq κ] (key : ε → κ)

/-- No two entries have one key. -/
def Distinct (es : List ε) : Prop := (es.map key).Nodup

/-- The position of the first entry with a key. -/
def slot (es : List ε) (k : κ) : Option ℕ := es.findIdx? fun e => decide (key e = k)

/-- The first entry with a key. -/
def find (es : List ε) (k : κ) : Option ε := es.find? fun e => decide (key e = k)

/-- The map that the list stands for. Where keys are repeated the first entry
counts, as it does in a scan. -/
def table (val : ε → α) (es : List ε) : Finmap fun _ : κ => α :=
  (es.map fun e => (⟨key e, val e⟩ : Σ _ : κ, α)).toFinmap

variable {key} {es : List ε} {e : ε} {k : κ} {i : ℕ}

/-! ### Finding -/

omit [DecidableEq κ] in
/-- A key tells the position. -/
theorem Distinct.eq_of_getElem {i j : ℕ} (h : Distinct key es) (hi : i < es.length)
    (hj : j < es.length) (hk : key es[i] = key es[j]) : i = j := by
  have hinj := List.nodup_iff_injective_getElem.mp h
  have heq : (⟨i, by simpa using hi⟩ : Fin (es.map key).length) = ⟨j, by simpa using hj⟩ :=
    hinj (by simpa using hk)
  exact congrArg Fin.val heq

/-- In a list with distinct keys the scan stops at the only entry with the
key. -/
theorem slot_eq_some (h : Distinct key es) :
    slot key es k = some i ↔ ∃ hi : i < es.length, key es[i] = k := by
  unfold slot
  rw [List.findIdx?_eq_some_iff_getElem]
  constructor
  · rintro ⟨hi, hk, -⟩
    exact ⟨hi, of_decide_eq_true hk⟩
  · rintro ⟨hi, hk⟩
    refine ⟨hi, decide_eq_true hk, fun j hj => ?_⟩
    intro hkj
    have hkey : key es[j] = key es[i] := (of_decide_eq_true hkj).trans hk.symm
    exact absurd (h.eq_of_getElem (by omega) hi hkey) (by omega)

/-- No slot is found when no entry has the key. -/
theorem slot_eq_none : slot key es k = none ↔ ∀ e ∈ es, key e ≠ k := by
  unfold slot
  rw [List.findIdx?_eq_none_iff]
  simp

/-- With distinct keys an entry is found under its key wherever it stands. -/
theorem find_eq_some (h : Distinct key es) : find key es k = some e ↔ e ∈ es ∧ key e = k := by
  unfold find
  constructor
  · intro hfind
    exact ⟨List.mem_of_find?_eq_some hfind, by simpa using List.find?_some hfind⟩
  · rintro ⟨hmem, hk⟩
    cases hfind : es.find? fun e => decide (key e = k) with
    | none =>
      rw [List.find?_eq_none] at hfind
      exact absurd (decide_eq_true hk) (hfind e hmem)
    | some e' =>
      -- two entries with the key are the same one
      have hmem' := List.mem_of_find?_eq_some hfind
      have hk' : key e' = k := by simpa using List.find?_some hfind
      have heq : e' = e := List.inj_on_of_nodup_map h hmem' hmem (hk'.trans hk.symm)
      rw [heq]

/-- And nothing is found when no entry has the key. -/
theorem find_eq_none : find key es k = none ↔ ∀ e ∈ es, key e ≠ k := by
  unfold find
  rw [List.find?_eq_none]
  simp

/-- The entry found is the one at the slot found. -/
theorem find_of_slot (h : Distinct key es) (hi : i < es.length) (hk : key es[i] = k) :
    find key es k = some es[i] :=
  (find_eq_some h).mpr ⟨List.getElem_mem hi, hk⟩

theorem find_of_slot_none (h : slot key es k = none) : find key es k = none :=
  find_eq_none.mpr (slot_eq_none.mp h)

/-! ### Changing -/

omit [DecidableEq κ] in
theorem map_set (hi : i < es.length) (hk : key e = key es[i]) :
    (es.set i e).map key = es.map key := by
  rw [List.map_set, hk, ← List.getElem_map key (h := by simpa using hi)]
  exact List.set_getElem_self _

omit [DecidableEq κ] in
/-- Overwriting an entry with one of the same key keeps the keys distinct. -/
theorem Distinct.set (h : Distinct key es) (hi : i < es.length) (hk : key e = key es[i]) :
    Distinct key (es.set i e) := by
  unfold Distinct
  rw [map_set hi hk]
  exact h

/-- An entry at the end is found under its key alone. -/
theorem slot_append_of_ne (hk : key e ≠ k) : slot key (es ++ [e]) k = slot key es k := by
  unfold slot
  rw [List.findIdx?_append]
  simp [hk]

/-- Under a new key the appended entry is found, at the end. -/
theorem slot_append_self (hnew : slot key es (key e) = none) :
    slot key (es ++ [e]) (key e) = some es.length := by
  unfold slot at hnew ⊢
  rw [List.findIdx?_append, hnew]
  simp

/-- Appending an entry with a new key keeps the keys distinct, and so does
removing an entry. -/
theorem Distinct.append (h : Distinct key es) (hnew : slot key es (key e) = none) :
    Distinct key (es ++ [e]) := by
  unfold Distinct
  rw [List.map_append, List.map_singleton, List.nodup_append]
  refine ⟨h, List.nodup_singleton _, fun a ha b hb => ?_⟩
  obtain ⟨e', he', rfl⟩ := List.mem_map.mp ha
  rw [List.mem_singleton.mp hb]
  exact slot_eq_none.mp hnew e' he'

omit [DecidableEq κ] in
theorem Distinct.eraseIdx (h : Distinct key es) (i : ℕ) : Distinct key (es.eraseIdx i) :=
  h.sublist ((List.eraseIdx_sublist es i).map key)

/-- What a scan finds after an entry was overwritten. -/
theorem find_set (h : Distinct key es) (hi : i < es.length) (hk : key e = key es[i]) :
    find key (es.set i e) k = if key e = k then some e else find key es k := by
  apply Option.ext
  intro x
  rw [find_eq_some (h.set hi hk)]
  split
  · next hke =>
    -- the new entry is the only one under its key
    rw [Option.some_inj]
    constructor
    · rintro ⟨hmem, hkx⟩
      refine List.inj_on_of_nodup_map (h.set hi hk) ?_ hmem (hke.trans hkx.symm)
      exact List.mem_set hi e
    · rintro rfl
      exact ⟨List.mem_set hi e, hke⟩
  · next hke =>
    rw [find_eq_some h]
    refine and_congr_left fun hkx => ?_
    constructor
    · intro hmem
      rcases List.mem_or_eq_of_mem_set hmem with hmem | rfl
      · exact hmem
      · exact absurd hkx hke
    · intro hmem
      obtain ⟨j, hj, rfl⟩ := List.mem_iff_getElem.mp hmem
      -- an entry under another key is not the replaced one, whose key is that of `e`
      have hij : i ≠ j := by
        rintro rfl
        exact hke (hk.trans hkx)
      rw [List.mem_iff_getElem]
      exact ⟨j, by simpa using hj, List.getElem_set_ne hij _⟩

/-- What a scan finds after an entry was appended. -/
theorem find_append (h : Distinct key es) (hnew : slot key es (key e) = none) :
    find key (es ++ [e]) k = if key e = k then some e else find key es k := by
  apply Option.ext
  intro x
  rw [find_eq_some (h.append hnew), List.mem_append, List.mem_singleton]
  split
  · -- the new entry has the key asked for, and no entry before it does
    next hke =>
    rw [Option.some_inj]
    constructor
    · rintro ⟨hmem | rfl, hkx⟩
      · exact absurd (hkx.trans hke.symm) (slot_eq_none.mp hnew x hmem)
      · rfl
    · rintro rfl
      exact ⟨.inr rfl, hke⟩
  · next hke =>
    rw [find_eq_some h]
    -- the new entry has another key and changes nothing
    refine and_congr_left fun hkx => ?_
    refine or_iff_left fun heq => ?_
    rw [heq] at hkx
    exact hke hkx

/-- What a scan finds after an entry was removed. The later entries have moved
down, which changes their slots and not what is found. -/
theorem find_eraseIdx (h : Distinct key es) (hi : i < es.length) :
    find key (es.eraseIdx i) k = if key es[i] = k then none else find key es k := by
  have hmem : ∀ x, x ∈ es.eraseIdx i ↔ ∃ j, ∃ hj : j < es.length, j ≠ i ∧ es[j] = x := by
    intro x
    rw [List.mem_eraseIdx_iff_getElem]
  apply Option.ext
  intro x
  rw [find_eq_some (h.eraseIdx i), hmem]
  split
  · next hke =>
    -- keys are distinct, so no second entry has the key of the erased one
    simp only [reduceCtorEq, iff_false]
    rintro ⟨⟨j, hj, hne, rfl⟩, hkx⟩
    exact hne (h.eq_of_getElem hj hi (hkx.trans hke.symm))
  · next hke =>
    rw [find_eq_some h]
    refine and_congr_left fun hkx => ?_
    constructor
    · rintro ⟨j, hj, -, rfl⟩
      exact List.getElem_mem hj
    · intro hx
      obtain ⟨j, hj, rfl⟩ := List.mem_iff_getElem.mp hx
      refine ⟨j, hj, ?_, rfl⟩
      rintro rfl
      exact hke hkx

/-! ### The finite map -/

section Table

variable {val : ε → α}

/-- Looking up is scanning. -/
theorem lookup_table : (table key val es).lookup k = (find key es k).map val := by
  unfold table
  rw [Finmap.dlookup_list_toFinmap]
  unfold find
  induction es with
  | nil => rfl
  | cons x xs ih =>
    rw [List.map_cons, List.find?_cons]
    by_cases hx : key x = k
    · subst hx
      rw [List.dlookup_cons_eq]
      simp
    · rw [List.dlookup_cons_ne _ _ (Ne.symm hx), ih]
      simp [hx]

/-- The keys of the map are those of the entries. -/
theorem mem_table : k ∈ table key val es ↔ ∃ e ∈ es, key e = k := by
  rw [← Finmap.lookup_isSome, lookup_table, Option.isSome_map, Option.isSome_iff_ne_none, Ne,
    find_eq_none]
  simp

/-- A slot is found when the map has the key. -/
theorem slot_isSome : (slot key es k).isSome = true ↔ k ∈ table key val es := by
  rw [mem_table, Option.isSome_iff_ne_none, Ne, slot_eq_none]
  simp

/-- The map has as many keys as the list has entries. -/
theorem card_table (h : Distinct key es) : (table key val es).keys.card = es.length := by
  have hkeys : (table key val es).keys = (es.map key).toFinset := by
    ext k
    rw [Finmap.mem_keys, mem_table, List.mem_toFinset, List.mem_map]
  rw [hkeys, List.toFinset_card_of_nodup h, List.length_map]

/-- **The operations of the list are those of the map.** Overwriting in place
inserts. This and the next two are compared key by key, by what the scan finds
afterwards. -/
theorem table_set (h : Distinct key es) (hi : i < es.length) (hk : key e = key es[i]) :
    table key val (es.set i e) = (table key val es).insert (key e) (val e) := by
  apply Finmap.ext_lookup
  intro k
  rw [lookup_table, find_set h hi hk]
  split
  · next hke =>
    subst hke
    rw [Finmap.lookup_insert]
    rfl
  · next hke => rw [Finmap.lookup_insert_of_ne _ (Ne.symm hke), lookup_table]

/-- Appending inserts. -/
theorem table_append (h : Distinct key es) (hnew : slot key es (key e) = none) :
    table key val (es ++ [e]) = (table key val es).insert (key e) (val e) := by
  apply Finmap.ext_lookup
  intro k
  rw [lookup_table, find_append h hnew]
  split
  · next hke =>
    subst hke
    rw [Finmap.lookup_insert]
    rfl
  · next hke => rw [Finmap.lookup_insert_of_ne _ (Ne.symm hke), lookup_table]

/-- Removing erases. -/
theorem table_eraseIdx (h : Distinct key es) (hi : i < es.length) :
    table key val (es.eraseIdx i) = (table key val es).erase (key es[i]) := by
  apply Finmap.ext_lookup
  intro k
  rw [lookup_table, find_eraseIdx h hi]
  split
  · next hke =>
    subst hke
    rw [Finmap.lookup_erase]
    rfl
  · next hke => rw [Finmap.lookup_erase_ne (Ne.symm hke), lookup_table]

end Table

end Keyed
