import Mathlib.Data.Fintype.Card
import Mathlib.Data.Finset.Card
import Mathlib.Logic.Function.Basic

/-!
# Leases

Holders lease resources. Each side keeps its own record: a holder knows the resource it
has (`held`), and a resource is marked when it is taken (`taken`). The records agree when
no resource has two holders and the marked ones are exactly those that have one
(`Leases`).

Two moves keep them in agreement: a holder without a resource takes a free one
(`Leases.assign`), and a holder returns what it has (`Leases.release`). What a table adds
to the marks, such as a counter for each class of resources, follows them (`countOn`).
-/

/-- The two records agree: no resource has two holders, and the marked ones are
those that have one. -/
structure Leases {ω ρ : Type} (held : ω → Option ρ) (taken : ρ → Bool) : Prop where
  distinct : ∀ {o p r}, held o = some r → held p = some r → o = p
  taken_iff : ∀ r, taken r = true ↔ ∃ o, held o = some r

namespace Leases

section Moves

variable {ω ρ : Type} {held : ω → Option ρ} {taken : ρ → Bool} {o : ω} {r : ρ}

/-- Nothing is leased. -/
theorem none : Leases (fun _ : ω => Option.none) (fun _ : ρ => false) where
  distinct h := by cases h
  taken_iff r := iff_of_false Bool.false_ne_true fun ⟨_, h⟩ => by cases h

/-- What is held is marked. -/
theorem taken_of_held (h : Leases held taken) (ho : held o = some r) : taken r = true :=
  (h.taken_iff r).mpr ⟨o, ho⟩

theorem congr {held' : ω → Option ρ} {taken' : ρ → Bool} (h : Leases held taken)
    (hheld : held' = held) (htaken : taken' = taken) : Leases held' taken' := by
  rw [hheld, htaken]
  exact h

variable [DecidableEq ω] [DecidableEq ρ]

/-- A free resource is taken by a holder that has none. -/
theorem assign (h : Leases held taken) (hheld : held o = Option.none) (hfree : taken r = false) :
    Leases (Function.update held o (some r)) (Function.update taken r true) where
  distinct {p q s} hp hq := by
    -- nobody held `r` before, so whoever holds it now is `o`
    have hnot : ∀ p, held p ≠ some r := fun p hpr => by
      rw [h.taken_of_held hpr] at hfree
      cases hfree
    by_cases hpo : p = o
    · by_cases hqo : q = o
      · rw [hpo, hqo]
      · rw [hpo, Function.update_self] at hp
        rw [Function.update_of_ne hqo, ← hp] at hq
        exact absurd hq (hnot q)
    · rw [Function.update_of_ne hpo] at hp
      by_cases hqo : q = o
      · rw [hqo, Function.update_self] at hq
        rw [← hq] at hp
        exact absurd hp (hnot p)
      · rw [Function.update_of_ne hqo] at hq
        exact h.distinct hp hq
  taken_iff s := by
    by_cases hs : s = r
    · subst hs
      exact iff_of_true (Function.update_self ..) ⟨o, Function.update_self ..⟩
    · rw [Function.update_of_ne hs, h.taken_iff]
      constructor
      · rintro ⟨p, hp⟩
        have hpo : p ≠ o := fun heq => by
          rw [heq, hheld] at hp
          cases hp
        exact ⟨p, by rwa [Function.update_of_ne hpo]⟩
      · rintro ⟨p, hp⟩
        by_cases hpo : p = o
        · rw [hpo, Function.update_self] at hp
          exact absurd (Option.some.inj hp).symm hs
        · exact ⟨p, by rwa [Function.update_of_ne hpo] at hp⟩

/-- A holder returns its resource. -/
theorem release (h : Leases held taken) (ho : held o = some r) :
    Leases (Function.update held o Option.none) (Function.update taken r false) where
  distinct {p q s} hp hq := by
    -- the owner `o` holds nothing any more, and the others hold what they held
    by_cases hpo : p = o
    · rw [hpo, Function.update_self] at hp
      cases hp
    · by_cases hqo : q = o
      · rw [hqo, Function.update_self] at hq
        cases hq
      · rw [Function.update_of_ne hpo] at hp
        rw [Function.update_of_ne hqo] at hq
        exact h.distinct hp hq
  taken_iff s := by
    -- `r` is free, because `o` was the only one to hold it
    by_cases hs : s = r
    · subst hs
      refine iff_of_false (by simp) ?_
      rintro ⟨p, hp⟩
      by_cases hpo : p = o
      · rw [hpo, Function.update_self] at hp
        cases hp
      · rw [Function.update_of_ne hpo] at hp
        exact hpo (h.distinct hp ho)
    · rw [Function.update_of_ne hs, h.taken_iff]
      refine exists_congr fun p => ?_
      by_cases hpo : p = o
      · subst hpo
        rw [Function.update_self, ho]
        exact iff_of_false (fun heq => hs (Option.some.inj heq).symm) (by simp)
      · rw [Function.update_of_ne hpo]

end Moves

/-! ### Counters -/

section Count

variable {ρ : Type} [Fintype ρ] {taken : ρ → Bool} {r : ρ}

/-- How many resources of a class are taken. -/
def countOn (P : ρ → Prop) [DecidablePred P] (taken : ρ → Bool) : ℕ :=
  (Finset.univ.filter fun r => taken r = true ∧ P r).card

variable (P : ρ → Prop) [DecidablePred P]

/-- A class is full exactly when none of its resources is free. This is what
makes a counter as good as a scan of the marks. -/
theorem countOn_lt_card_iff :
    countOn P taken < (Finset.univ.filter P).card ↔ ∃ r, P r ∧ taken r = false := by
  constructor
  · -- if all resources were taken, the count would be the whole
    intro hlt
    by_contra hnone
    refine absurd hlt (Nat.not_lt.mpr (Finset.card_le_card fun r hr => ?_))
    rw [Finset.mem_filter] at hr ⊢
    refine ⟨hr.1, ?_, hr.2⟩
    by_contra hfree
    exact hnone ⟨r, hr.2, by simpa using hfree⟩
  · rintro ⟨r, hr, hfree⟩
    refine Finset.card_lt_card ⟨fun s hs => ?_, fun hsub => ?_⟩
    · rw [Finset.mem_filter] at hs ⊢
      exact ⟨hs.1, hs.2.2⟩
    · have hmem := hsub (Finset.mem_filter.mpr ⟨Finset.mem_univ r, hr⟩)
      rw [Finset.mem_filter, hfree] at hmem
      exact absurd hmem.2.1 Bool.false_ne_true

variable [DecidableEq ρ]

/-- A counter goes up by one when a resource of its class is taken, and comes
down when it is returned. -/
theorem countOn_assign (hfree : taken r = false) :
    countOn P (Function.update taken r true) = countOn P taken + if P r then 1 else 0 := by
  by_cases hr : P r
  · -- the set that is counted gains `r`, or it stays as it is
    have hset : (Finset.univ.filter fun s => Function.update taken r true s = true ∧ P s) =
        insert r (Finset.univ.filter fun s => taken s = true ∧ P s) := by
      ext s
      by_cases hs : s = r
      · simp [hs, hr]
      · simp [hs]
    rw [countOn, hset, Finset.card_insert_of_notMem (by simp [hfree]), if_pos hr, countOn]
  · have hset : (Finset.univ.filter fun s => Function.update taken r true s = true ∧ P s) =
        Finset.univ.filter fun s => taken s = true ∧ P s := by
      ext s
      by_cases hs : s = r
      · simp [hs, hr]
      · simp [hs]
    rw [countOn, hset, if_neg hr, Nat.add_zero, countOn]

theorem countOn_release (hr : taken r = true) :
    countOn P (Function.update taken r false) + (if P r then 1 else 0) = countOn P taken := by
  have hback : Function.update (Function.update taken r false) r true = taken := by
    rw [Function.update_idem, ← hr, Function.update_eq_self]
  conv_rhs => rw [← hback]
  exact (countOn_assign P (Function.update_self ..)).symm

end Count

/-! ### Holders and resources -/

section Card

variable {ω ρ : Type} [Fintype ω] [Fintype ρ] {held : ω → Option ρ} {taken : ρ → Bool}

/-- As many resources are taken as holders have one. -/
theorem card_taken (h : Leases held taken) :
    (Finset.univ.filter fun r => taken r = true).card =
      (Finset.univ.filter fun o => (held o).isSome = true).card := by
  symm
  refine Finset.card_bij (fun o ho => (held o).get (Finset.mem_filter.mp ho).2) ?_ ?_ ?_
  · intro o ho
    rw [Finset.mem_filter]
    exact ⟨Finset.mem_univ _, h.taken_of_held (Option.some_get _).symm⟩
  · intro o ho p hp heq
    refine h.distinct (Option.some_get (Finset.mem_filter.mp ho).2).symm ?_
    rw [heq]
    exact (Option.some_get (Finset.mem_filter.mp hp).2).symm
  · intro r hr
    obtain ⟨o, ho⟩ := (h.taken_iff r).mp (Finset.mem_filter.mp hr).2
    refine ⟨o, Finset.mem_filter.mpr ⟨Finset.mem_univ o, by rw [ho]; rfl⟩, ?_⟩
    simp only [ho, Option.get_some]

/-- While some holder has nothing, and there are no fewer resources than
holders, one is free. For otherwise as many holders would have one as there are
resources, and all of them are fewer. -/
theorem exists_free (h : Leases held taken) (hcard : Fintype.card ω ≤ Fintype.card ρ) {o : ω}
    (ho : held o = Option.none) : ∃ r, taken r = false := by
  -- with everything taken, the owners would be as many as the resources, and `o` holds
  -- none
  by_contra hfull
  have hall : (Finset.univ.filter fun r => taken r = true) = Finset.univ := by
    ext r
    simpa using fun hr => hfull ⟨r, hr⟩
  have hcount := h.card_taken
  rw [hall, Finset.card_univ] at hcount
  have hlt : (Finset.univ.filter fun p => (held p).isSome = true).card < Fintype.card ω := by
    rw [← Finset.card_univ]
    refine Finset.card_lt_card ⟨Finset.filter_subset _ _, fun hsub => ?_⟩
    have hmem := (Finset.mem_filter.mp (hsub (Finset.mem_univ o))).2
    rw [ho] at hmem
    cases hmem
  omega

end Card

end Leases
