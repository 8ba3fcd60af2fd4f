import Mathlib.Algebra.Order.Field.Basic
import Mathlib.Order.Interval.Set.Basic
import Mathlib.Tactic.Linarith

/-!
# Response curves

A stick curve on `[-1, 1]`: odd, increasing, fixed at full deflection, and flat at zero
on a dead zone around the centre. Oddness lets every law be stated and checked on
`[0, 1]` only. Curves compose, and the dead zone of a composition is the dead zone of its
first stage when the later stages have none.
-/

namespace RcController

open Set

variable {K : Type*} [Field K] [LinearOrder K] [IsStrictOrderedRing K]

/-- A curve with dead zone `r`. The laws are on the positive half, and oddness
carries them to the other. -/
structure Curve (r : K) (f : K → K) : Prop where
  odd : ∀ x, f (-x) = -f x
  mono : MonotoneOn f (Icc 0 1)
  full : f 1 = 1
  dead : ∀ x ∈ Icc (0 : K) 1, f x = 0 ↔ x ≤ r

namespace Curve

variable {r x y : K} {f g : K → K}

/-- An odd function is zero at zero. -/
theorem zero (h : Curve r f) : f 0 = 0 := by
  have hodd := h.odd 0
  rw [neg_zero] at hodd
  linarith

omit [IsStrictOrderedRing K] in
theorem full_neg (h : Curve r f) : f (-1) = -1 := by rw [h.odd, h.full]

/-- The positive half stays positive and below full deflection. -/
theorem mem_unit (h : Curve r f) (hx : x ∈ Icc (0 : K) 1) : f x ∈ Icc (0 : K) 1 := by
  have hlo : f 0 ≤ f x := h.mono ⟨le_refl 0, zero_le_one⟩ hx hx.1
  have hhi : f x ≤ f 1 := h.mono hx ⟨zero_le_one, le_refl 1⟩ hx.2
  rw [h.zero] at hlo
  rw [h.full] at hhi
  exact ⟨hlo, hhi⟩

/-- A point of the negative half is the mirror of one of the positive half. -/
theorem mirror (hx : x ∈ Icc (-1 : K) 1) (hneg : x < 0) : -x ∈ Icc (0 : K) 1 :=
  ⟨by linarith, by linarith [hx.1]⟩

/-- So the curve maps the whole range into itself. -/
theorem mem (h : Curve r f) (hx : x ∈ Icc (-1 : K) 1) : f x ∈ Icc (-1 : K) 1 := by
  rcases lt_or_ge x 0 with hneg | hpos
  · obtain ⟨hlo, hhi⟩ := h.mem_unit (mirror hx hneg)
    rw [h.odd] at hlo hhi
    exact ⟨by linarith, by linarith⟩
  · obtain ⟨hlo, hhi⟩ := h.mem_unit ⟨hpos, hx.2⟩
    exact ⟨by linarith, hhi⟩

/-- The curve increases on the whole range: its two halves meet at zero, where
it is zero. -/
theorem monotoneOn (h : Curve r f) : MonotoneOn f (Icc (-1) 1) := by
  intro x hx y hy hxy
  rcases lt_or_ge x 0 with hxneg | hxpos
  · rcases lt_or_ge y 0 with hyneg | hypos
    -- two points of the negative half: their mirrors are in the other order
    · have hle := h.mono (mirror hy hyneg) (mirror hx hxneg) (by linarith)
      rw [h.odd, h.odd] at hle
      linarith
    · have hx' := (h.mem_unit (mirror hx hxneg)).1
      have hy' := (h.mem_unit ⟨hypos, hy.2⟩).1
      rw [h.odd] at hx'
      linarith
  · exact h.mono ⟨hxpos, hx.2⟩ ⟨le_trans hxpos hxy, hy.2⟩ hxy

/-- **The dead zone**: the curve is zero exactly there. -/
theorem eq_zero_iff (h : Curve r f) (hx : x ∈ Icc (-1 : K) 1) : f x = 0 ↔ |x| ≤ r := by
  rcases lt_or_ge x 0 with hneg | hpos
  · rw [abs_of_neg hneg, ← h.dead (-x) (mirror hx hneg), h.odd, neg_eq_zero]
  · rw [abs_of_nonneg hpos, h.dead x ⟨hpos, hx.2⟩]

/-- **Stages compose**, and a stage without a dead zone adds none: it is zero at
zero alone, so the composition is zero exactly where the first stage is. -/
theorem comp (hg : Curve 0 g) (hf : Curve r f) : Curve r (fun x => g (f x)) where
  odd x := by rw [hf.odd, hg.odd]
  mono := by
    intro x hx y hy hxy
    exact hg.mono (hf.mem_unit hx) (hf.mem_unit hy) (hf.mono hx hy hxy)
  full := by rw [hf.full, hg.full]
  dead x hx := by
    have hmem := hf.mem_unit hx
    rw [hg.dead (f x) hmem, ← hf.dead x hx]
    exact ⟨fun hle => le_antisymm hle hmem.1, fun heq => le_of_eq heq⟩

end Curve

end RcController
