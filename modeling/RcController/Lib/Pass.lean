import Mathlib.Data.List.Nodup
import Mathlib.Logic.Function.Basic

/-!
# Loops over slots

Two shapes of loop over a list of slots, each with the rules its proofs need.

`Pass.run` is the loop that stops at the first slot that fails. Its invariants are
indexed by the slots still to do: what is known before a slot is reached usually
differs from what is known after. `run_ok` is the rule for a pass that reaches the
end; `run_error` finds the slot a failed pass stopped at. `run_simulates` relates
two passes over the same slots.

`foldl_view` is for loops that cannot fail and whose step at a slot reads and writes
that slot alone. Such a loop is a simultaneous update of the slots of its list.
-/

namespace Pass

variable {ι σ τ α ε δ : Type}

/-- The slots are done in the order of the list, up to the first one that fails.
The state in which the pass stopped is part of its result. -/
def run (step : ι → σ → σ × Except ε Unit) : List ι → σ → σ × Except ε Unit
  | [], s => (s, .ok ())
  | i :: is, s =>
    match step i s with
    | (s, .ok ()) => run step is s
    | (s, .error e) => (s, .error e)

section Run

variable {step : ι → σ → σ × Except ε Unit}

@[simp] theorem run_nil (s : σ) : run step [] s = (s, .ok ()) := rfl

/-- A step that succeeds is followed by the rest, and one that fails by
nothing. -/
theorem run_cons_ok {i : ι} {is : List ι} {s : σ} (h : (step i s).2 = .ok ()) :
    run step (i :: is) s = run step is (step i s).1 := by
  rw [run]
  split
  · next heq => rw [heq]
  · next heq => simp [heq] at h

theorem run_cons_error {i : ι} {is : List ι} {s : σ} {e : ε} (h : (step i s).2 = .error e) :
    run step (i :: is) s = step i s := by
  rw [run]
  split
  · next heq => simp [heq] at h
  · next heq => exact heq.symm

/-- A pass over slots whose steps do nothing does nothing. -/
theorem run_eq_self {l : List ι} {s : σ} (h : ∀ i ∈ l, step i s = (s, .ok ())) :
    run step l s = (s, .ok ()) := by
  induction l with
  | nil => rfl
  | cons i is ih =>
    have hi := h i List.mem_cons_self
    rw [run_cons_ok (by rw [hi]), hi]
    exact ih fun j hj => h j (List.mem_cons_of_mem i hj)

/-- A pass over two lists is a pass over the first and then, unless that failed,
one over the second. -/
theorem run_append (l₁ l₂ : List ι) (s : σ) :
    run step (l₁ ++ l₂) s =
      match run step l₁ s with
      | (s', .ok ()) => run step l₂ s'
      | (s', .error e) => (s', .error e) := by
  induction l₁ generalizing s with
  | nil => rfl
  | cons i is ih =>
    rw [List.cons_append]
    cases hstep : (step i s).2 with
    | ok _ => rw [run_cons_ok hstep, run_cons_ok hstep, ih]
    | error e =>
      rw [run_cons_error hstep, run_cons_error hstep]
      rw [show step i s = ((step i s).1, .error e) from Prod.ext rfl hstep]

/-- **A pass that reaches the end.** `motive` takes the slots still to do and
the state. It holds with the whole list at the start and has to be kept by the
steps that succeed; at the end it holds with no slot to do. -/
theorem run_ok (motive : List ι → σ → Prop)
    (hstep : ∀ i is s, motive (i :: is) s → (step i s).2 = .ok () → motive is (step i s).1)
    {l : List ι} {s : σ} (h : motive l s) (hok : (run step l s).2 = .ok ()) :
    motive [] (run step l s).1 := by
  induction l generalizing s with
  | nil => exact h
  | cons i is ih =>
    cases hi : (step i s).2 with
    | ok _ =>
      rw [run_cons_ok hi] at hok ⊢
      exact ih (hstep i is s h hi) hok
    | error e =>
      rw [run_cons_error hi, hi] at hok
      cases hok

/-- **A pass that fails** stopped at the step of some slot, and everything it
did is what that step did last. -/
theorem run_error (motive : List ι → σ → Prop)
    (hstep : ∀ i is s, motive (i :: is) s → (step i s).2 = .ok () → motive is (step i s).1)
    {l : List ι} {s : σ} {e : ε} (h : motive l s) (herr : (run step l s).2 = .error e) :
    ∃ i is s', motive (i :: is) s' ∧ (step i s').2 = .error e ∧ run step l s = step i s' := by
  induction l generalizing s with
  | nil => cases herr
  | cons i is ih =>
    cases hi : (step i s).2 with
    | ok _ =>
      rw [run_cons_ok hi] at herr ⊢
      exact ih (hstep i is s h hi) herr
    | error e' =>
      rw [run_cons_error hi] at herr ⊢
      exact ⟨i, is, s, h, herr, rfl⟩

/-- An invariant of every step, failed or not, is an invariant of the pass. Here
the slots still to do do not matter. -/
theorem run_invariant (motive : σ → Prop) (hstep : ∀ i s, motive s → motive (step i s).1)
    (l : List ι) {s : σ} (h : motive s) : motive (run step l s).1 := by
  induction l generalizing s with
  | nil => exact h
  | cons i is ih =>
    cases hi : (step i s).2 with
    | ok _ =>
      rw [run_cons_ok hi]
      exact ih (hstep i s h)
    | error e =>
      rw [run_cons_error hi]
      exact hstep i s h

/-- **A pass that cannot fail** under its invariant. -/
theorem run_total (motive : List ι → σ → Prop)
    (hstep : ∀ i is s, motive (i :: is) s → (step i s).2 = .ok () ∧ motive is (step i s).1)
    {l : List ι} {s : σ} (h : motive l s) :
    (run step l s).2 = .ok () ∧ motive [] (run step l s).1 := by
  induction l generalizing s with
  | nil => exact ⟨rfl, h⟩
  | cons i is ih =>
    obtain ⟨hok, hnext⟩ := hstep i is s h
    rw [run_cons_ok hok]
    exact ih hnext

/-- **A pass that follows another one.** When every step follows a step that
succeeds, a pass follows a pass that succeeds. Nothing is said of the other
passes. -/
theorem run_follows (step : ι → σ → σ × Except ε Unit) (step' : ι → τ → τ × Except δ Unit)
    (R : List ι → σ → τ → Prop)
    (hstep : ∀ i is s t, R (i :: is) s t → (step' i t).2 = .ok () →
      (step i s).2 = .ok () ∧ R is (step i s).1 (step' i t).1)
    {l : List ι} {s : σ} {t : τ} (h : R l s t) (hok : (run step' l t).2 = .ok ()) :
    (run step l s).2 = .ok () ∧ R [] (run step l s).1 (run step' l t).1 := by
  induction l generalizing s t with
  | nil => exact ⟨rfl, h⟩
  | cons i is ih =>
    -- a step of the second run that fails ends it, which `hok` rules out
    cases hi : (step' i t).2 with
    | error e =>
      rw [run_cons_error hi, hi] at hok
      cases hok
    | ok _ =>
      obtain ⟨hi', hR⟩ := hstep i is s t h hi
      rw [run_cons_ok hi] at hok ⊢
      rw [run_cons_ok hi']
      exact ih hR hok

/-- **Two passes in step.** Steps from related states agree on whether they
fail, and lead to related states when they succeed. `Q` is what is known at the
end, be it of the list or at a step that fails. -/
theorem run_in_step (step : ι → σ → σ × Except ε Unit) (step' : ι → τ → τ × Except δ Unit)
    (R : List ι → σ → τ → Prop) (Q : σ → τ → Prop) (hend : ∀ s t, R [] s t → Q s t)
    (hstep : ∀ i is s t, R (i :: is) s t →
      ((step i s).2 = .ok () ↔ (step' i t).2 = .ok ()) ∧
        ((step i s).2 = .ok () → R is (step i s).1 (step' i t).1) ∧
        ((step i s).2 ≠ .ok () → Q (step i s).1 (step' i t).1))
    {l : List ι} {s : σ} {t : τ} (h : R l s t) :
    Q (run step l s).1 (run step' l t).1 ∧
      ((run step l s).2 = .ok () ↔ (run step' l t).2 = .ok ()) := by
  induction l generalizing s t with
  | nil => exact ⟨hend s t h, by simp⟩
  | cons i is ih =>
    obtain ⟨hiff, hok, hfail⟩ := hstep i is s t h
    cases hi : (step i s).2 with
    | ok _ =>
      rw [run_cons_ok hi, run_cons_ok (hiff.mp hi)]
      exact ih (hok hi)
    | error e =>
      -- the passes agree on failing, so the second one stops here as well
      have hne : (step i s).2 ≠ .ok () := by
        rw [hi]
        exact nofun
      obtain ⟨d, hd⟩ : ∃ d, (step' i t).2 = .error d := by
        cases ht : (step' i t).2 with
        | ok _ => exact absurd (hiff.mpr ht) hne
        | error d => exact ⟨d, rfl⟩
      rw [run_cons_error hi, run_cons_error hd]
      exact ⟨hfail hne, hiff⟩

/-- Two passes whose steps keep a relation, failed or not. -/
theorem run_simulates (step : ι → σ → σ × Except ε Unit) (step' : ι → τ → τ × Except δ Unit)
    (R : List ι → σ → τ → Prop)
    (hstep : ∀ i is s t, R (i :: is) s t →
      R is (step i s).1 (step' i t).1 ∧ ((step i s).2 = .ok () ↔ (step' i t).2 = .ok ()))
    {l : List ι} {s : σ} {t : τ} (h : R l s t) :
    (∃ rest, R rest (run step l s).1 (run step' l t).1) ∧
      ((run step l s).2 = .ok () ↔ (run step' l t).2 = .ok ()) :=
  run_in_step step step' R (fun s t => ∃ rest, R rest s t) (fun _ _ hR => ⟨[], hR⟩)
    (fun i is s t hR => ⟨(hstep i is s t hR).2, fun _ => (hstep i is s t hR).1,
      fun _ => ⟨is, (hstep i is s t hR).1⟩⟩) h

/-! #### Steps that touch one slot -/

/-- A pass does not touch the slots outside its list. -/
theorem run_view_of_not_mem (view : σ → ι → α)
    (hlocal : ∀ i s j, j ≠ i → view (step i s).1 j = view s j) {l : List ι} {j : ι} (hj : j ∉ l)
    (s : σ) : view (run step l s).1 j = view s j := by
  induction l generalizing s with
  | nil => rfl
  | cons i is ih =>
    have hji : j ≠ i := List.ne_of_not_mem_cons hj
    have hjis : j ∉ is := List.not_mem_of_not_mem_cons hj
    cases hi : (step i s).2 with
    | ok _ => rw [run_cons_ok hi, ih hjis, hlocal i s j hji]
    | error _ => rw [run_cons_error hi, hlocal i s j hji]

/-- **One slot of a pass**, from outside. The slot ends as its own step leaves
it, and that step found it as it was before the pass; or the pass failed before
it came to the slot. -/
theorem run_slot (view : σ → ι → α) (hlocal : ∀ i s j, j ≠ i → view (step i s).1 j = view s j)
    {l : List ι} {j : ι} (hl : l.Nodup) (hj : j ∈ l) (s : σ) :
    (run step l s).2 ≠ .ok () ∧ view (run step l s).1 j = view s j ∨
      ∃ t, view t j = view s j ∧ view (run step l s).1 j = view (step j t).1 j ∧
        ((run step l s).2 = .ok () → (step j t).2 = .ok ()) := by
  induction l generalizing s with
  | nil => cases hj
  | cons i is ih =>
    obtain ⟨hi, his⟩ := List.nodup_cons.mp hl
    by_cases hji : j = i
    · -- the turn of slot `j`: after it no step of the pass looks at this slot
      subst hji
      refine .inr ⟨s, rfl, ?_⟩
      cases hstep : (step j s).2 with
      | ok _ =>
        rw [run_cons_ok hstep]
        exact ⟨run_view_of_not_mem view hlocal hi _, fun _ => rfl⟩
      | error _ =>
        rw [run_cons_error hstep, hstep]
        exact ⟨rfl, id⟩
    · -- the turn of an earlier slot, which either ends the pass or leaves `j` alone
      have hview : view (step i s).1 j = view s j := hlocal i s j hji
      cases hstep : (step i s).2 with
      | error _ =>
        rw [run_cons_error hstep, hstep]
        exact .inl ⟨nofun, hview⟩
      | ok _ =>
        rw [run_cons_ok hstep]
        rcases ih his (List.mem_of_ne_of_mem hji hj) (step i s).1 with ⟨herr, hsame⟩ | ⟨t, ht, hend⟩
        · exact .inl ⟨herr, hsame.trans hview⟩
        · exact .inr ⟨t, ht.trans hview, hend⟩

end Run

/-! ### Loops that touch one slot at a time -/

section View

variable [DecidableEq ι]

/-- **A loop of slot-local steps** changes each slot of its list once, and no
other slot. -/
theorem foldl_view (view : σ → ι → α) (op : ι → σ → σ) (f : ι → α → α)
    (hop : ∀ i s, view (op i s) = Function.update (view s) i (f i (view s i))) {l : List ι}
    (hl : l.Nodup) (s : σ) (j : ι) :
    view (l.foldl (fun s i => op i s) s) j = if j ∈ l then f j (view s j) else view s j := by
  induction l generalizing s with
  | nil => simp
  | cons i is ih =>
    obtain ⟨hi, his⟩ := List.nodup_cons.mp hl
    rw [List.foldl_cons, ih his, hop]
    by_cases hji : j = i
    · subst hji
      simp [hi]
    · simp [hji]

omit [DecidableEq ι] in
/-- **One step of a loop**, from outside. When a step changes the view of its
own slot alone, the slot `i` ends as its own step leaves it; that step sees the
earlier slots as they are after the loop, and all others as they were before
it. -/
theorem foldl_step (view : σ → ι → α) (op : ι → σ → σ)
    (hlocal : ∀ i s j, j ≠ i → view (op i s) j = view s j) {before after : List ι} {i : ι}
    (hl : (before ++ i :: after).Nodup) (s : σ) :
    ∃ t, view ((before ++ i :: after).foldl (fun s i => op i s) s) i = view (op i t) i ∧
      (∀ j, j ∉ before → view t j = view s j) ∧
      ∀ j ∈ before, view t j = view ((before ++ i :: after).foldl (fun s i => op i s) s) j := by
  -- a loop does not touch the slots outside its list
  have hskip : ∀ (l : List ι) (s : σ) (j : ι), j ∉ l →
      view (l.foldl (fun s i => op i s) s) j = view s j := by
    intro l
    induction l with
    | nil => intros; rfl
    | cons k ks ih =>
      intro s j hj
      rw [List.foldl_cons, ih _ _ fun hmem => hj (List.mem_cons_of_mem k hmem)]
      exact hlocal k s j fun heq => hj (heq ▸ List.mem_cons_self)
  obtain ⟨-, hcons, hdisjoint⟩ := List.nodup_append.mp hl
  have hi : i ∉ after := (List.nodup_cons.mp hcons).1
  refine ⟨before.foldl (fun s i => op i s) s, ?_, fun j hj => ?_, fun j hj => ?_⟩
  · rw [List.foldl_append, List.foldl_cons, hskip _ _ _ hi]
  · exact hskip _ _ _ hj
  · have hji : j ≠ i := hdisjoint j hj i List.mem_cons_self
    have hjafter : j ∉ after := fun hmem => hdisjoint j hj j (List.mem_cons_of_mem i hmem) rfl
    rw [List.foldl_append, List.foldl_cons, hskip _ _ _ hjafter, hlocal _ _ _ hji]

omit [DecidableEq ι] in
/-- One slot of a loop: it ends as its own step leaves it. -/
theorem foldl_slot (view : σ → ι → α) (op : ι → σ → σ)
    (hlocal : ∀ i s j, j ≠ i → view (op i s) j = view s j) {l : List ι} (hl : l.Nodup) {i : ι}
    (hi : i ∈ l) (s : σ) :
    ∃ t, view (l.foldl (fun s i => op i s) s) i = view (op i t) i ∧ view t i = view s i := by
  obtain ⟨before, after, rfl⟩ := List.append_of_mem hi
  obtain ⟨t, hend, hsame, -⟩ := foldl_step view op hlocal hl s
  exact ⟨t, hend, hsame i fun hmem =>
    (List.nodup_append.mp hl).2.2 i hmem i List.mem_cons_self rfl⟩

end View

/-- What every step keeps, the loop keeps. -/
theorem foldl_keeps {op : ι → σ → σ} (motive : σ → Prop) (hop : ∀ i s, motive s → motive (op i s))
    (l : List ι) {s : σ} (h : motive s) : motive (l.foldl (fun s i => op i s) s) := by
  induction l generalizing s with
  | nil => exact h
  | cons i is ih => exact ih (hop i s h)

end Pass
