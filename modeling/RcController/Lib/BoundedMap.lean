import Mathlib.Data.Finmap

/-!
# Maps of bounded size

A finite map with at most `cap` keys. A new key fits as long as fewer than `cap` are
there; a key that is there can always be given another value. `exec` answers the three
calls such a map offers to a client, and is what a store of fixed capacity is compared
with.
-/

/-- A finite map with at most `cap` keys. The bound is part of the map, so what
is too large cannot be written down. -/
structure BoundedMap (κ α : Type) (cap : ℕ) where
  entries : Finmap fun _ : κ => α
  bounded : entries.keys.card ≤ cap

namespace BoundedMap

variable {κ α : Type} {cap : ℕ}

/-- Two such maps are equal when their entries are; the bound is a
proposition. -/
theorem ext_entries {m m' : BoundedMap κ α cap} (h : m.entries = m'.entries) : m = m' := by
  obtain ⟨entries, bounded⟩ := m
  obtain ⟨entries', bounded'⟩ := m'
  obtain rfl : entries = entries' := h
  rfl

/-- The map without keys. -/
def empty : BoundedMap κ α cap := ⟨∅, by simp⟩

variable [DecidableEq κ]

/-- The value under a key. -/
def lookup (m : BoundedMap κ α cap) (k : κ) : Option α := m.entries.lookup k

/-- A key fits when it is there, or when there is room for one more. -/
def Fits (m : BoundedMap κ α cap) (k : κ) : Prop := k ∈ m.entries ∨ m.entries.keys.card < cap

instance (m : BoundedMap κ α cap) (k : κ) : Decidable (m.Fits k) :=
  inferInstanceAs (Decidable (k ∈ m.entries ∨ m.entries.keys.card < cap))

theorem keys_insert (m : Finmap fun _ : κ => α) (k : κ) (v : α) :
    (m.insert k v).keys = insert k m.keys := by
  ext k'
  rw [Finmap.mem_keys, Finmap.mem_insert, Finset.mem_insert, Finmap.mem_keys]

/-- A key that fits does not make the map too large. Overwriting adds no key,
and a new one adds one. -/
theorem card_keys_insert_le {m : BoundedMap κ α cap} {k : κ} (h : m.Fits k) (v : α) :
    (m.entries.insert k v).keys.card ≤ cap := by
  rw [keys_insert]
  rcases h with hmem | hroom
  · rw [Finset.insert_eq_self.mpr (Finmap.mem_keys.mpr hmem)]
    exact m.bounded
  · exact (Finset.card_insert_le k _).trans hroom

/-- The map with a value under a key that fits. The proof that it does is an
argument, for otherwise there is no such map. -/
def insert (m : BoundedMap κ α cap) (k : κ) (v : α) (h : m.Fits k) : BoundedMap κ α cap :=
  ⟨m.entries.insert k v, card_keys_insert_le h v⟩

/-- A key is removed. -/
def erase (m : BoundedMap κ α cap) (k : κ) : BoundedMap κ α cap where
  entries := m.entries.erase k
  bounded := by
    rw [Finmap.keys_erase]
    exact (Finset.card_erase_le).trans m.bounded

theorem mem_iff {m : BoundedMap κ α cap} {k : κ} : k ∈ m.entries ↔ ∃ v, m.lookup k = some v :=
  Finmap.mem_iff

/-- Inserting changes the value under one key. -/
theorem lookup_insert {m : BoundedMap κ α cap} {k : κ} (v : α) (h : m.Fits k) (k' : κ) :
    (m.insert k v h).lookup k' = if k' = k then some v else m.lookup k' := by
  unfold lookup insert
  split
  · next heq =>
    subst heq
    exact Finmap.lookup_insert _
  · next hne => exact Finmap.lookup_insert_of_ne _ hne

/-- Erasing takes the value under one key away. -/
theorem lookup_erase (m : BoundedMap κ α cap) (k k' : κ) :
    (m.erase k).lookup k' = if k' = k then none else m.lookup k' := by
  unfold lookup erase
  split
  · next heq =>
    subst heq
    exact Finmap.lookup_erase _ _
  · next hne => exact Finmap.lookup_erase_ne hne

/-! ### The calls of a client -/

/-- What a client asks for. The two ways in which a call can fail, no room and
nothing there, have one answer. -/
inductive Call (κ α : Type) where
  | save (k : κ) (v : α)
  | load (k : κ)
  | delete (k : κ)

/-- What it is answered. -/
inductive Answer (α : Type) where
  | done
  | found (v : α)
  | refused
  deriving DecidableEq

/-- The same call under another key. -/
def Call.mapKey {κ' : Type} (f : κ → κ') : Call κ α → Call κ' α
  | .save k v => .save (f k) v
  | .load k => .load (f k)
  | .delete k => .delete (f k)

/-- One call. A call that is refused leaves the map as it is. -/
def exec (m : BoundedMap κ α cap) : Call κ α → Answer α × BoundedMap κ α cap
  | .save k v => if h : m.Fits k then (.done, m.insert k v h) else (.refused, m)
  | .load k =>
    match m.lookup k with
    | some v => (.found v, m)
    | none => (.refused, m)
  | .delete k => if k ∈ m.entries then (.done, m.erase k) else (.refused, m)

section Exec

variable {m : BoundedMap κ α cap} {k : κ}

theorem exec_save (v : α) (h : m.Fits k) : m.exec (.save k v) = (.done, m.insert k v h) :=
  dif_pos h

theorem exec_save_refused (v : α) (h : ¬ m.Fits k) : m.exec (.save k v) = (.refused, m) :=
  dif_neg h

theorem exec_delete (h : k ∈ m.entries) : m.exec (.delete k) = (.done, m.erase k) := if_pos h

theorem exec_delete_refused (h : k ∉ m.entries) : m.exec (.delete k) = (.refused, m) := if_neg h

end Exec

end BoundedMap
