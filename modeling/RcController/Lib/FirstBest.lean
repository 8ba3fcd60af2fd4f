import Mathlib.Data.List.Induction
import Mathlib.Order.Lattice

/-!
# The first of the best

A scan keeps the best candidate so far and replaces it by a better one only, so among equals
the first stays (`scan_spec`). Candidates that do not qualify are passed over.
-/

variable {α β : Type} [LinearOrder β]

/-- The candidate qualifies, no candidate before it is as good, and none after
it is better. -/
structure FirstBest (P : α → Prop) (f : α → β) (l : List α) (c : α) : Prop where
  qualifies : P c
  split : ∃ before after, l = before ++ c :: after ∧ (∀ e ∈ before, P e → f e < f c) ∧
    ∀ e ∈ after, P e → f e ≤ f c

namespace FirstBest

variable {P : α → Prop} {f : α → β} {l : List α} {c e : α}

/-- The first of the best is one of the list. -/
theorem mem (h : FirstBest P f l c) : c ∈ l := by
  obtain ⟨before, after, rfl, -, -⟩ := h.split
  exact List.mem_append_right _ List.mem_cons_self

/-- It is as good as any that qualifies. -/
theorem le (h : FirstBest P f l c) (he : e ∈ l) (hP : P e) : f e ≤ f c := by
  obtain ⟨before, after, rfl, hbefore, hafter⟩ := h.split
  obtain hmem | hmem := List.mem_append.mp he
  · exact (hbefore e hmem hP).le
  · obtain rfl | hmem := List.mem_cons.mp hmem
    · exact le_rfl
    · exact hafter e hmem hP

/-- A candidate that is no better, or does not qualify, comes last. -/
theorem concat (h : FirstBest P f l c) (he : P e → f e ≤ f c) : FirstBest P f (l ++ [e]) c := by
  obtain ⟨before, after, rfl, hbefore, hafter⟩ := h.split
  refine ⟨h.qualifies, before, after ++ [e], by simp, hbefore, fun d hd hP => ?_⟩
  obtain hmem | hmem := List.mem_append.mp hd
  · exact hafter d hmem hP
  · obtain rfl := List.mem_singleton.mp hmem
    exact he hP

/-- A candidate that is better than all before it. -/
theorem last (hP : P c) (h : ∀ e ∈ l, P e → f e < f c) : FirstBest P f (l ++ [c]) c :=
  ⟨hP, l, [], rfl, h, fun _ hmem => absurd hmem List.not_mem_nil⟩

/-- The scan: the best candidate so far, and how good it is. -/
def scan (P : α → Prop) [DecidablePred P] (f : α → β) (bot : β) (l : List α) : Option α × β :=
  l.foldl (fun best c => if P c ∧ best.2 < f c then (some c, f c) else best) (none, bot)

variable [DecidablePred P] {bot : β}

/-- What the scan has found. -/
def Found (P : α → Prop) (f : α → β) (bot : β) (l : List α) : Option α × β → Prop
  | (none, v) => v = bot ∧ ∀ e ∈ l, ¬ P e
  | (some c, v) => v = f c ∧ FirstBest P f l c

/-- **The scan finds the first of the best**, by induction on the list from its
end. The last candidate either takes the lead, and then it is better than all
before it, or it does not, and then it comes last. -/
theorem scan_spec (hbot : ∀ c ∈ l, P c → bot < f c) :
    Found P f bot l (scan P f bot l) := by
  induction l using List.reverseRecOn with
  | nil => exact ⟨rfl, fun _ hmem => absurd hmem List.not_mem_nil⟩
  | append_singleton l c ih =>
    have hstep : scan P f bot (l ++ [c]) =
        if P c ∧ (scan P f bot l).2 < f c then (some c, f c) else scan P f bot l := by
      unfold scan
      rw [List.foldl_append]
      rfl
    rw [hstep]
    generalize scan P f bot l = best at ih
    have hl := ih fun e he => hbot e (List.mem_append_left _ he)
    -- the scan kept nothing so far, or it kept `d`
    obtain ⟨kept, v⟩ := best
    cases kept with
    | none =>
      obtain ⟨rfl, hnone⟩ := hl
      by_cases hc : P c
      · rw [if_pos ⟨hc, hbot c (List.mem_append_right _ List.mem_cons_self) hc⟩]
        exact ⟨rfl, .last hc fun e he hP => absurd hP (hnone e he)⟩
      · rw [if_neg fun h => hc h.1]
        refine ⟨rfl, fun e he => ?_⟩
        obtain hmem | hmem := List.mem_append.mp he
        · exact hnone e hmem
        · exact List.mem_singleton.mp hmem ▸ hc
    | some d =>
      obtain ⟨rfl, hd⟩ := hl
      split
      · -- the candidate beats `d`, or it does not and `d` stays the first of the best
        next hbetter =>
        exact ⟨rfl, .last hbetter.1 fun e he hP => (hd.le he hP).trans_lt hbetter.2⟩
      · next hworse =>
        exact ⟨rfl, hd.concat fun hP => not_lt.mp fun hlt => hworse ⟨hP, hlt⟩⟩

end FirstBest
