import RcController.Lib.Pass
import Mathlib.Data.Fintype.Defs
import Mathlib.Data.List.Basic
import Mathlib.Order.Basic

/-!
# First-fit allocation

Slots claim resources. A claim names the resource it wants and says whether it may be
moved: a movable claim needs a capable resource and takes the first free one in a fixed
order when it cannot have its own; a rigid one takes its own resource or fails.

A claim that has not been settled yet blocks its resource all the same, and so settling
is not monotone: what a slot gets depends on slots that are still to be settled.
`Settled` is the table in which no two slots share a resource and every movable claim
is on a capable one. The facts about a pass over a table (`settleAll`) are

* on a settled table it changes nothing (`settleAll_of_settled`);
* from any table at all, when it reaches the end, the table is settled
  (`settled_settleAll`);
* on a table that is settled but for one slot `e` it fails without changing anything
  (`settleAll_error`), and when it succeeds it keeps the other slots exactly when no
  movable claim before `e` wants the resource of `e` (`settleAll_keeps_iff`).

The last two rest on one observation: the first change such a pass makes, be it to `e`
or to the one slot that clashes with `e`, settles the table.
-/

namespace FirstFit

variable {ι ρ : Type}

/-- The resources: which ones a movable claim may take, and the order they are
tried in. -/
structure Pool (ρ : Type) where
  capable : ρ → Bool
  scan : List ρ

/-- A claim of a slot. -/
structure Claim (ρ : Type) where
  movable : Bool
  res : ρ

/-- The claims of all slots. -/
abbrev Claims (ι ρ : Type) := ι → Option (Claim ρ)

/-- Another slot claims the resource. A claim counts whether it is settled or
not. -/
def Taken (c : Claims ι ρ) (i : ι) (r : ρ) : Prop := ∃ j k, j ≠ i ∧ c j = some k ∧ k.res = r

/-- No two slots claim one resource, and every movable claim is on a capable
one. A rigid claim may be on any. -/
structure Settled (P : Pool ρ) (c : Claims ι ρ) : Prop where
  distinct : ∀ {i j k l}, c i = some k → c j = some l → k.res = l.res → i = j
  capable : ∀ {i k}, c i = some k → k.movable = true → P.capable k.res = true

/-- In a settled table no slot is in the way of another. -/
theorem Settled.not_taken {P : Pool ρ} {c : Claims ι ρ} (h : Settled P c) {i : ι} {k : Claim ρ}
    (hi : c i = some k) : ¬ Taken c i k.res := by
  rintro ⟨j, l, hne, hj, hres⟩
  exact hne (h.distinct hj hi hres)

/-- The empty table is settled. -/
theorem settled_none (P : Pool ρ) : Settled P (fun _ : ι => none) where
  distinct h := by cases h
  capable h := by cases h

section

variable [DecidableEq ι]

/-- What is taken for a slot does not depend on its own claim. -/
theorem taken_update_of_eq {c : Claims ι ρ} {i : ι} {k : Option (Claim ρ)} {r : ρ} :
    Taken (Function.update c i k) i r ↔ Taken c i r := by
  constructor
  · rintro ⟨j, l, hne, hj, hres⟩
    rw [Function.update_of_ne hne] at hj
    exact ⟨j, l, hne, hj, hres⟩
  · rintro ⟨j, l, hne, hj, hres⟩
    refine ⟨j, l, hne, ?_, hres⟩
    rwa [Function.update_of_ne hne]

/-- A settled table stays settled when one slot gets a free resource that suits
its claim. -/
theorem Settled.update {P : Pool ρ} {c : Claims ι ρ} {i : ι} {k : Claim ρ}
    (h : Settled P (Function.update c i none)) (hfree : ¬ Taken c i k.res)
    (hcap : k.movable = true → P.capable k.res = true) :
    Settled P (Function.update c i (some k)) := by
  have hother : ∀ {j l}, j ≠ i → Function.update c i (some k) j = some l →
      Function.update c i none j = some l := by
    intro j l hne hj
    rwa [Function.update_of_ne hne] at hj ⊢
  have hself : ∀ {l}, Function.update c i (some k) i = some l → l = k := by
    intro l hl
    rw [Function.update_self] at hl
    exact (Option.some.inj hl).symm
  have hclash : ∀ {j l}, j ≠ i → Function.update c i (some k) j = some l → l.res ≠ k.res := by
    intro j l hne hj hres
    rw [Function.update_of_ne hne] at hj
    exact hfree ⟨j, l, hne, hj, hres⟩
  constructor
  · intro j₁ j₂ k₁ k₂ h₁ h₂ hres
    -- only a pair that involves the new claim can clash, and `hclash` excludes it
    by_cases hj₁ : j₁ = i
    · by_cases hj₂ : j₂ = i
      · rw [hj₁, hj₂]
      · subst hj₁
        rw [hself h₁] at hres
        exact absurd hres.symm (hclash hj₂ h₂)
    · by_cases hj₂ : j₂ = i
      · subst hj₂
        rw [hself h₂] at hres
        exact absurd hres (hclash hj₁ h₁)
      · exact h.distinct (hother hj₁ h₁) (hother hj₂ h₂) hres
  · intro j l hj hm
    by_cases hji : j = i
    · subst hji
      obtain rfl := hself hj
      exact hcap hm
    · exact h.capable (hother hji hj) hm

/-- Dropping a claim keeps a table settled. -/
theorem Settled.drop {P : Pool ρ} {c : Claims ι ρ} (h : Settled P c) (i : ι) :
    Settled P (Function.update c i none) := by
  have hold : ∀ {j k}, Function.update c i none j = some k → c j = some k := by
    intro j k hj
    by_cases hji : j = i
    · subst hji
      simp at hj
    · rwa [Function.update_of_ne hji] at hj
  exact ⟨fun h₁ h₂ => h.distinct (hold h₁) (hold h₂), fun hj => h.capable (hold hj)⟩

end

/-! ### Settling one claim -/

section Settle

variable [DecidableEq ι] [DecidableEq ρ] [Fintype ι]

instance (c : Claims ι ρ) (i : ι) (r : ρ) : Decidable (Taken c i r) :=
  decidable_of_iff (∃ j, j ≠ i ∧ (c j).any (fun k => k.res = r) = true) <| by
    constructor
    · rintro ⟨j, hne, hj⟩
      obtain ⟨k, hk, hres⟩ := Option.any_eq_true _ _ |>.mp hj
      exact ⟨j, k, hne, hk, by simpa using hres⟩
    · rintro ⟨j, k, hne, hj, hres⟩
      exact ⟨j, hne, by simp [hj, hres]⟩

/-- A resource is available when it is capable and no other slot claims it. -/
def Pool.avail (P : Pool ρ) (c : Claims ι ρ) (i : ι) (r : ρ) : Bool :=
  P.capable r && !decide (Taken c i r)

/-- The resource for a movable claim: the one it wants, or else the first one
that is available. -/
def pick (P : Pool ρ) (c : Claims ι ρ) (i : ι) (r : ρ) : Option ρ :=
  if P.avail c i r then some r else P.scan.find? (P.avail c i)

/-- The resource a claim gets, if any. -/
def settle (P : Pool ρ) (c : Claims ι ρ) (i : ι) (k : Claim ρ) : Option ρ :=
  if k.movable then pick P c i k.res
  else if Taken c i k.res then none else some k.res

variable {P : Pool ρ} {c : Claims ι ρ} {i : ι} {k : Claim ρ} {r : ρ}

theorem Pool.avail_iff : P.avail c i r = true ↔ P.capable r = true ∧ ¬ Taken c i r := by
  simp [Pool.avail]

/-- What is picked is available, be it the wish or a find of the scan. -/
theorem avail_of_pick {q : ρ} (h : pick P c i r = some q) : P.avail c i q = true := by
  unfold pick at h
  split at h
  · next hr =>
    obtain rfl := Option.some.inj h
    exact hr
  · exact List.find?_some h

/-- What a claim gets is free, and capable, when it matters. -/
theorem not_taken_of_settle (h : settle P c i k = some r) : ¬ Taken c i r := by
  unfold settle at h
  split at h
  · exact (Pool.avail_iff.mp (avail_of_pick h)).2
  · split at h
    · cases h
    · next hfree =>
      obtain rfl := Option.some.inj h
      exact hfree

theorem capable_of_settle (h : settle P c i k = some r) (hm : k.movable = true) :
    P.capable r = true := by
  rw [settle, if_pos hm] at h
  exact (Pool.avail_iff.mp (avail_of_pick h)).1

/-- A claim that can have its own resource gets it. -/
theorem settle_eq_self (hfree : ¬ Taken c i k.res)
    (hcap : k.movable = true → P.capable k.res = true) : settle P c i k = some k.res := by
  rw [settle, if_neg hfree]
  split
  · next hm => rw [pick, if_pos (Pool.avail_iff.mpr ⟨hcap hm, hfree⟩)]
  · rfl

/-- A rigid claim gets nothing else. -/
theorem settle_rigid (h : settle P c i k = some r) (hm : k.movable = false) : r = k.res := by
  rw [settle, hm] at h
  split at h
  · contradiction
  · split at h
    · cases h
    · exact (Option.some.inj h).symm

/-- What a slot gets depends on the claims of the others only. -/
theorem settle_congr {c' : Claims ι ρ} (h : ∀ j, j ≠ i → c' j = c j) :
    settle P c' i k = settle P c i k := by
  have htaken : ∀ r, Taken c' i r ↔ Taken c i r := by
    intro r
    constructor
    · rintro ⟨j, l, hne, hj, hres⟩
      exact ⟨j, l, hne, (h j hne).symm.trans hj, hres⟩
    · rintro ⟨j, l, hne, hj, hres⟩
      exact ⟨j, l, hne, (h j hne).trans hj, hres⟩
  -- and so the same resources are available
  have havail : P.avail c' i = P.avail c i := by
    funext r
    simp [Pool.avail, htaken]
  unfold settle pick
  simp only [havail, htaken]

/-! ### A pass over all claims -/

/-- One slot is settled. A slot without a claim has nothing to settle, and the
pass stops at one that gets nothing. -/
def settleStep (P : Pool ρ) (i : ι) (c : Claims ι ρ) : Claims ι ρ × Except Unit Unit :=
  match c i with
  | none => (c, .ok ())
  | some k =>
    match settle P c i k with
    | none => (c, .error ())
    | some r => (Function.update c i (some { k with res := r }), .ok ())

/-- The slots are settled in the order of the list, up to the first failure.
What was settled before the failure stays. -/
def settleAll (P : Pool ρ) (l : List ι) (c : Claims ι ρ) : Claims ι ρ × Except Unit Unit :=
  Pass.run (settleStep P) l c

/-- The cases of a step. A slot without a claim leaves the table as it is; the
next two lemmas are about a claim that gets a resource and one that gets none. -/
theorem settleStep_of_none (h : c i = none) : settleStep P i c = (c, .ok ()) := by
  unfold settleStep
  rw [h]

theorem settleStep_of_settle (hi : c i = some k) (h : settle P c i k = some r) :
    settleStep P i c = (Function.update c i (some { k with res := r }), .ok ()) := by
  unfold settleStep
  rw [hi]
  simp only [h]

theorem settleStep_of_stuck (hi : c i = some k) (h : settle P c i k = none) :
    settleStep P i c = (c, .error ()) := by
  unfold settleStep
  rw [hi]
  simp only [h]

/-- A step changes no slot but the one that it settles. -/
theorem settleStep_of_ne {j : ι} (hne : j ≠ i) : (settleStep P i c).1 j = c j := by
  unfold settleStep
  split
  · rfl
  · split
    · rfl
    · exact Function.update_of_ne hne _ _

/-- A slot whose claim can have its own resource keeps it. So a step may leave
the table as it is although it is a success. -/
theorem settleStep_eq_self
    (h : ∀ k, c i = some k → ¬ Taken c i k.res ∧ (k.movable = true → P.capable k.res = true)) :
    settleStep P i c = (c, .ok ()) := by
  cases hi : c i with
  | none => exact settleStep_of_none hi
  | some k =>
    obtain ⟨hfree, hcap⟩ := h k hi
    rw [settleStep_of_settle hi (settle_eq_self hfree hcap)]
    rw [show ({ k with res := k.res } : Claim ρ) = k from rfl, ← hi, Function.update_eq_self]

theorem settleStep_of_settled (h : Settled P c) (i : ι) : settleStep P i c = (c, .ok ()) :=
  settleStep_eq_self fun _ hi => ⟨h.not_taken hi, h.capable hi⟩

/-- **A settled table is left alone.** -/
theorem settleAll_of_settled (h : Settled P c) (l : List ι) : settleAll P l c = (c, .ok ()) :=
  Pass.run_eq_self fun i _ => settleStep_of_settled h i

/-- Each slot that is done has a resource that no other slot claims, and a
capable one if its claim may be moved. Nothing is asked of the slots that are
still to come. -/
def SettledBehind (P : Pool ρ) (rest : List ι) (c : Claims ι ρ) : Prop :=
  ∀ i k, i ∉ rest → c i = some k → ¬ Taken c i k.res ∧ (k.movable = true → P.capable k.res = true)

/-- A successful step moves one slot from those to come to those that are done.
It gets a resource nobody claims, done or not, and the others are as before. -/
theorem SettledBehind.settleStep {rest : List ι} (h : SettledBehind P (i :: rest) c)
    (hok : (settleStep P i c).2 = .ok ()) : SettledBehind P rest (settleStep P i c).1 := by
  -- only a step that grants something changes the table
  cases hi : c i with
  | none =>
    rw [settleStep_of_none hi]
    intro j k hj (hjk : c j = some k)
    refine h j k ?_ hjk
    rintro (_ | ⟨_, hmem⟩)
    · rw [hi] at hjk
      cases hjk
    · exact hj hmem
  | some k =>
    cases hs : settle P c i k with
    | none =>
      rw [settleStep_of_stuck hi hs] at hok
      cases hok
    | some r =>
      rw [settleStep_of_settle hi hs]
      have hfree : ¬ Taken c i r := not_taken_of_settle hs
      intro j l hj hjl
      dsimp only at hjl ⊢
      by_cases hji : j = i
      · subst hji
        rw [Function.update_self] at hjl
        obtain rfl := Option.some.inj hjl
        exact ⟨by rwa [taken_update_of_eq], fun hm => capable_of_settle hs hm⟩
      · rw [Function.update_of_ne hji] at hjl
        obtain ⟨hfree', hcap⟩ := h j l (by simp [hji, hj]) hjl
        refine ⟨?_, hcap⟩
        rintro ⟨j', l', hne, hj', hres⟩
        -- a clash with `i`'s new resource would make that resource taken before the step
        by_cases hj'i : j' = i
        · subst hj'i
          rw [Function.update_self] at hj'
          obtain rfl := Option.some.inj hj'
          exact hfree ⟨j, l, hji, hjl, hres.symm⟩
        · rw [Function.update_of_ne hj'i] at hj'
          exact hfree' ⟨j', l', hne, hj', hres⟩

/-- **A pass that reaches the end leaves a settled table**, whatever it started
from. At the end nothing is left to come. -/
theorem settled_settleAll {l : List ι} (hl : ∀ i, i ∈ l) (hok : (settleAll P l c).2 = .ok ()) :
    Settled P (settleAll P l c).1 := by
  have h : SettledBehind P [] (settleAll P l c).1 :=
    Pass.run_ok (SettledBehind P) (fun _ _ _ h hok => h.settleStep hok)
      (fun i _ hi => absurd (hl i) hi) hok
  constructor
  · intro i j k k' hi hj hres
    by_contra hne
    exact (h i k (by simp) hi).1 ⟨j, k', Ne.symm hne, hj, hres.symm⟩
  · intro i k hi
    exact (h i k (by simp) hi).2

end Settle

/-! ### One slot out of place -/

section Edit

variable [DecidableEq ι] [DecidableEq ρ] [Fintype ι]
variable {P : Pool ρ} {c : Claims ι ρ} {e : ι}

omit [DecidableEq ρ] [Fintype ι] in
/-- In a table settled but for `e`, only `e` can be in the way of another slot.
The rest is settled, so whoever claims the same resource is not one of the
rest. -/
theorem exists_clash (h : Settled P (Function.update c e none)) {i : ι} {k : Claim ρ} (hie : i ≠ e)
    (hi : c i = some k) (htaken : Taken c i k.res) : ∃ ke, c e = some ke ∧ ke.res = k.res := by
  obtain ⟨j, l, hne, hj, hres⟩ := htaken
  by_cases hje : j = e
  · subst hje
    exact ⟨l, hj, hres⟩
  · have hj' : Function.update c e none j = some l := by rwa [Function.update_of_ne hje]
    have hi' : Function.update c e none i = some k := by rwa [Function.update_of_ne hie]
    exact absurd (h.distinct hj' hi' hres) hne

omit [DecidableEq ρ] [Fintype ι] in
/-- The others are on capable resources. -/
theorem capable_of_ne (h : Settled P (Function.update c e none)) {i : ι} {k : Claim ρ}
    (hie : i ≠ e) (hi : c i = some k) (hm : k.movable = true) : P.capable k.res = true :=
  h.capable (i := i) (by rwa [Function.update_of_ne hie]) hm

/-- A slot other than `e` that does not clash with `e` keeps its claim. -/
theorem settleStep_of_no_clash (h : Settled P (Function.update c e none)) {i : ι} (hie : i ≠ e)
    (hclash : ∀ k ke, c i = some k → c e = some ke → k.res ≠ ke.res) :
    settleStep P i c = (c, .ok ()) := by
  refine settleStep_eq_self fun k hi => ⟨fun htaken => ?_, capable_of_ne h hie hi⟩
  obtain ⟨ke, hke, hres⟩ := exists_clash h hie hi htaken
  exact hclash k ke hi hke hres.symm

/-- **The first change settles the table.** A step from a table settled but for
`e` fails, or changes nothing, or gives one slot a resource nobody else
claims. -/
theorem settleStep_edit (h : Settled P (Function.update c e none)) (i : ι) :
    (settleStep P i c).1 = c ∨
      ((settleStep P i c).2 = .ok () ∧ Settled P (settleStep P i c).1) := by
  cases hi : c i with
  | none => exact .inl (by rw [settleStep_of_none hi])
  | some k =>
    cases hs : settle P c i k with
    | none => exact .inl (by rw [settleStep_of_stuck hi hs])
    | some r =>
      rw [settleStep_of_settle hi hs]
      have hfree : ¬ Taken c i r := not_taken_of_settle hs
      have hcap : k.movable = true → P.capable r = true := capable_of_settle hs
      by_cases hie : i = e
      · subst hie
        -- `e` itself moves: the table is settled but for it
        exact .inr ⟨rfl, h.update hfree hcap⟩
      · by_cases htaken : Taken c i k.res
        · -- the clash is with `e`, and `i` moves out of its way
          obtain ⟨ke, hke, hres⟩ := exists_clash h hie hi htaken
          -- a rigid claim is granted its own resource or nothing
          have hm : k.movable = true := by
            by_contra hm
            have hr := settle_rigid hs (by simpa using hm)
            exact hfree (hr ▸ htaken)
          -- with `i` away `e` clashes with nobody, so the rest is settled
          have hothers : Settled P (Function.update c i none) := by
            have hsettled := h.drop i
            rw [Function.update_comm (Ne.symm hie)] at hsettled
            rw [show c = Function.update c e (some ke) by rw [← hke, Function.update_eq_self],
              Function.update_comm (Ne.symm hie)]
            refine hsettled.update ?_ fun _ => ?_
            · rintro ⟨j, l, hne, hj, hjres⟩
              by_cases hji : j = i
              · subst hji
                simp at hj
              · rw [Function.update_of_ne hji] at hj
                have hj' : Function.update c e none j = some l := by
                  rwa [Function.update_of_ne hne]
                have hi' : Function.update c e none i = some k := by
                  rwa [Function.update_of_ne hie]
                exact hji (h.distinct hj' hi' (hjres.trans hres))
            · rw [hres]
              exact capable_of_ne h hie hi hm
          exact .inr ⟨rfl, hothers.update hfree hcap⟩
        · -- no clash: the step grants what `i` holds already
          refine .inl ?_
          rw [settle_eq_self htaken (capable_of_ne h hie hi)] at hs
          obtain rfl := Option.some.inj hs
          exact Function.update_eq_self_iff.mpr hi.symm

/-- What a pass keeps of a table that is settled but for one slot. -/
theorem settleStep_edit_inv {c₀ : Claims ι ρ} (h : Settled P (Function.update c₀ e none)) {i : ι}
    (hc : c = c₀ ∨ Settled P c) :
    (settleStep P i c).1 = c₀ ∨ Settled P (settleStep P i c).1 := by
  rcases hc with rfl | hc
  · exact (settleStep_edit h i).imp id And.right
  · rw [settleStep_of_settled hc]
    exact .inr hc

/-- **A failed pass changes nothing**, in a table that is settled but for one
slot. Had a step before changed something, the table would be settled and no
later step could fail. -/
theorem settleAll_error (h : Settled P (Function.update c e none)) {l : List ι}
    (herr : (settleAll P l c).2 = .error ()) : (settleAll P l c).1 = c := by
  obtain ⟨i, is, c', hc', hfail, hlast⟩ :=
    Pass.run_error (fun _ c' => c' = c ∨ Settled P c')
      (fun _ _ _ hc _ => settleStep_edit_inv h hc) (.inl rfl) herr
  rw [settleAll, hlast]
  rcases hc' with rfl | hc'
  · rcases settleStep_edit h i with heq | ⟨hok, -⟩
    · exact heq
    · rw [hok] at hfail
      cases hfail
  · rw [settleStep_of_settled hc'] at hfail
    cases hfail

/-- A slot not in the list keeps its claim. -/
theorem settleAll_of_not_mem {l : List ι} {j : ι} (hj : j ∉ l) : (settleAll P l c).1 j = c j :=
  Pass.run_view_of_not_mem (fun c j => c j) (fun _ _ _ hji => settleStep_of_ne hji) hj c

/-- Past `e` a pass over a table settled but for `e` has nothing left to
change. -/
theorem settleAll_from_edit (h : Settled P (Function.update c e none)) {after : List ι}
    (hok : (settleAll P (e :: after) c).2 = .ok ()) {j : ι} (hj : j ≠ e) :
    (settleAll P (e :: after) c).1 j = c j := by
  unfold settleAll at hok ⊢
  cases he : (settleStep P e c).2 with
  | error _ =>
    rw [Pass.run_cons_error he, he] at hok
    cases hok
  | ok _ =>
    rw [Pass.run_cons_ok he]
    -- `e`'s own step settles the table, so the steps after it change nothing
    have hsettled : Settled P (settleStep P e c).1 := by
      cases hce : c e with
      | none =>
        rw [settleStep_of_none hce]
        rwa [show Function.update c e none = c from Function.update_eq_self_iff.mpr hce.symm] at h
      | some k =>
        cases hs : settle P c e k with
        | none =>
          rw [settleStep_of_stuck hce hs] at he
          cases he
        | some r =>
          rw [settleStep_of_settle hce hs]
          exact h.update (not_taken_of_settle hs) fun hm => capable_of_settle hs hm
    rw [show Pass.run (settleStep P) after (settleStep P e c).1 = ((settleStep P e c).1, .ok ())
      from settleAll_of_settled hsettled after]
    exact settleStep_of_ne hj

/-- The slots before `e` are passed over when none of them has to move: a rigid
claim that clashes with `e` would have stopped the pass. -/
theorem settleAll_append_of_no_move (h : Settled P (Function.update c e none))
    {before rest : List ι} (hbefore : ∀ i ∈ before, i ≠ e)
    (hclash : ∀ i ∈ before, ∀ k ke, c i = some k → k.movable = true → c e = some ke →
      k.res ≠ ke.res)
    (hok : (settleAll P (before ++ rest) c).2 = .ok ()) :
    settleAll P (before ++ rest) c = settleAll P rest c := by
  induction before with
  | nil => rfl
  | cons i is ih =>
    have hie : i ≠ e := hbefore i List.mem_cons_self
    have hstep : settleStep P i c = (c, .ok ()) := by
      refine settleStep_of_no_clash h hie fun k ke hik hke hres => ?_
      cases hm : k.movable with
      | true => exact hclash i List.mem_cons_self k ke hik hm hke hres
      | false =>
        -- a rigid claim that clashes with `e` is stuck, against `hok`
        have htaken : Taken c i k.res := ⟨e, ke, Ne.symm hie, hke, hres.symm⟩
        have hs : settle P c i k = none := by simp [settle, hm, htaken]
        have hstuck := settleStep_of_stuck hik hs
        rw [List.cons_append, settleAll, Pass.run_cons_error (by rw [hstuck]), hstuck] at hok
        cases hok
    have hrun : settleAll P (i :: is ++ rest) c = settleAll P (is ++ rest) c := by
      rw [List.cons_append, settleAll, Pass.run_cons_ok (by rw [hstep]), hstep]
      rfl
    rw [hrun] at hok ⊢
    exact ih (fun j hj => hbefore j (List.mem_cons_of_mem i hj))
      (fun j hj => hclash j (List.mem_cons_of_mem i hj)) hok

/-- **What an edit does to the other slots.** A successful pass over a table
settled but for `e` keeps the other slots exactly when no movable claim before
`e` wants the resource of `e`. -/
theorem settleAll_keeps_iff (h : Settled P (Function.update c e none)) {before after : List ι}
    (hnodup : (before ++ e :: after).Nodup)
    (hok : (settleAll P (before ++ e :: after) c).2 = .ok ()) :
    (∀ j, j ≠ e → (settleAll P (before ++ e :: after) c).1 j = c j) ↔
      ∀ i ∈ before, ∀ k ke, c i = some k → k.movable = true → c e = some ke → k.res ≠ ke.res := by
  have hbefore : ∀ i ∈ before, i ≠ e := by
    rintro i hi rfl
    exact (List.nodup_append.mp hnodup).2.2 i hi i List.mem_cons_self rfl
  constructor
  · intro hkeep i hi k ke hik hm hke hres
    -- the slots before `i` do not clash with `e`: `i` does, and claims are distinct
    obtain ⟨l₁, l₂, rfl⟩ := List.append_of_mem hi
    have hie : i ≠ e := hbefore i hi
    have hsplit : l₁ ++ i :: l₂ ++ e :: after = l₁ ++ i :: (l₂ ++ e :: after) := by simp
    rw [hsplit] at hok hkeep hnodup
    have hl₁ : ∀ j ∈ l₁, settleStep P j c = (c, .ok ()) := by
      intro j hj
      have hje : j ≠ e := hbefore j (by simp [hj])
      refine settleStep_of_no_clash h hje fun k' ke' hjk hke' hres' => ?_
      obtain rfl : ke = ke' := Option.some.inj (hke.symm.trans hke')
      have hji : j = i := h.distinct (i := j) (j := i) (by rwa [Function.update_of_ne hje])
        (by rwa [Function.update_of_ne hie]) (hres'.trans hres.symm)
      exact (List.nodup_append.mp hnodup).2.2 j hj i List.mem_cons_self hji
    have htaken : Taken c i k.res := ⟨e, ke, Ne.symm hie, hke, hres.symm⟩
    have hrun : settleAll P (l₁ ++ i :: (l₂ ++ e :: after)) c
        = settleAll P (i :: (l₂ ++ e :: after)) c := by
      rw [settleAll, Pass.run_append, Pass.run_eq_self hl₁]
      rfl
    rw [hrun] at hok hkeep
    cases hs : settle P c i k with
    | none =>
      have hstuck := settleStep_of_stuck hik hs
      rw [settleAll, Pass.run_cons_error (by rw [hstuck]), hstuck] at hok
      cases hok
    | some r =>
      have hstep := settleStep_of_settle hik hs
      have hmoved := hkeep i hie
      have hnot : i ∉ l₂ ++ e :: after :=
        (List.nodup_cons.mp (List.nodup_append.mp hnodup).2.1).1
      rw [settleAll, Pass.run_cons_ok (by rw [hstep]), hstep,
        show Pass.run (settleStep P) = settleAll P from rfl, settleAll_of_not_mem hnot] at hmoved
      dsimp only at hmoved
      rw [Function.update_self, hik] at hmoved
      have hrk : r = k.res := congrArg Claim.res (Option.some.inj hmoved)
      exact not_taken_of_settle hs (hrk ▸ htaken)
  · intro hclash
    have hrun := settleAll_append_of_no_move h hbefore hclash hok
    rw [hrun] at hok ⊢
    exact fun j hj => settleAll_from_edit h hok hj

end Edit

end FirstFit
