import RcController.Model.Signals
import Mathlib.Tactic.Linarith
import Mathlib.Tactic.NormNum

/-!
# The mixer

`evaluateOutputSignal` in three steps: the terms of a channel are mixed, the result is
clamped to `[-1, 1]`, and an inverted channel is negated. Only the first step depends on
the mix mode (`mixed`).
-/

namespace RcController

/-- Whether a term counts at all: it has a source, or an offset. -/
def takesPart (source offset : Int8) : Bool := 0 ≤ source.toInt || offset ≠ 0

/-- A term as a factor of a product. One that does not take part is one. -/
def factor (runtime : InputIdx → ℚ) (source weight offset : Int8) : ℚ :=
  if takesPart source offset then mixTerm runtime source weight offset else 1

/-- The mix of the terms, before it is clamped. -/
def mixed (runtime : InputIdx → ℚ) (out : OutputChannelConfig) : ℚ :=
  match out.mixMode with
  | .multiply =>
    if takesPart out.sourceA out.offsetA || takesPart out.sourceB out.offsetB ||
        takesPart out.sourceC out.offsetC then
      factor runtime out.sourceA out.weightA out.offsetA *
        factor runtime out.sourceB out.weightB out.offsetB *
        factor runtime out.sourceC out.weightC out.offsetC
    else 0
  | .add =>
    mixTerm runtime out.sourceA out.weightA out.offsetA +
      mixTerm runtime out.sourceB out.weightB out.offsetB +
      mixTerm runtime out.sourceC out.weightC out.offsetC

/-- **The signal of a used channel** is its mix, clamped and then inverted. The
clamp comes first, and it is symmetric. -/
theorem evaluateOutputSignal_of_used {out : OutputChannelConfig} (h : out.used = true)
    (runtime : InputIdx → ℚ) :
    evaluateOutputSignal runtime out =
      if out.inverted then -constrain (mixed runtime out) (-1) 1
      else constrain (mixed runtime out) (-1) 1 := by
  unfold evaluateOutputSignal mixed
  rw [if_neg (by simp [h])]
  cases out.mixMode <;> rfl

/-- Any other channel is at rest. -/
theorem evaluateOutputSignal_of_unused {out : OutputChannelConfig} (h : out.used = false)
    (runtime : InputIdx → ℚ) : evaluateOutputSignal runtime out = 0 := by
  unfold evaluateOutputSignal
  rw [if_pos (by simp [h])]

/-- A signal is always within the range of a servo. -/
theorem evaluateOutputSignal_mem (runtime : InputIdx → ℚ) (out : OutputChannelConfig) :
    -1 ≤ evaluateOutputSignal runtime out ∧ evaluateOutputSignal runtime out ≤ 1 := by
  cases hused : out.used with
  | false =>
    rw [evaluateOutputSignal_of_unused hused]
    norm_num
  | true =>
    obtain ⟨hlo, hhi⟩ := constrain_mem (mixed runtime out) (show (-1 : ℚ) ≤ 1 by norm_num)
    rw [evaluateOutputSignal_of_used hused]
    split
    · exact ⟨by linarith, by linarith⟩
    · exact ⟨hlo, hhi⟩

end RcController
