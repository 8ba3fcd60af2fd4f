import Mathlib.Data.Int.Order.Basic
import Mathlib.Tactic.Linarith

/-!
# A clock that wraps

A counter modulo `w`, started with an offset `c`, reads `(t + c) % w` at time `t`. Code
that compares two readings of such a counter means to compare the times. It does so as
long as the counter does not wrap in between, and whether it does depends on the offset.

`same_order_iff` is the exact statement for two counters of one modulus: they order two
times alike if and only if they wrap equally often between them.
-/

namespace WrapClock

variable {w c c' d t : ℕ}

/-- What a clock with offset `c` shows at time `t`. -/
def reading (w c t : ℕ) : ℕ := (t + c) % w

/-- How often such a clock has wrapped by time `t`. -/
def epoch (w c t : ℕ) : ℕ := (t + c) / w

/-- How often it wraps between two times. The number is negative when the second
time is the earlier one. -/
def wraps (w c d t : ℕ) : ℤ := (epoch w c t : ℤ) - epoch w c d

/-- Together the two give back the time. -/
theorem reading_add_epoch (w c t : ℕ) : reading w c t + w * epoch w c t = t + c :=
  Nat.mod_add_div (t + c) w

/-- The difference of two readings: the time between them, less what was lost by
wrapping. -/
theorem reading_sub (w c d t : ℕ) :
    (reading w c t : ℤ) - reading w c d = (t : ℤ) - d - w * wraps w c d t := by
  have ht : ((reading w c t + w * epoch w c t : ℕ) : ℤ) = ((t + c : ℕ) : ℤ) := by
    rw [reading_add_epoch]
  have hd : ((reading w c d + w * epoch w c d : ℕ) : ℤ) = ((d + c : ℕ) : ℤ) := by
    rw [reading_add_epoch]
  push_cast at ht hd
  unfold wraps
  rw [mul_sub]
  linarith

/-- Between two times taken the other way round it wraps backwards. -/
theorem wraps_swap (w c d t : ℕ) : wraps w c d t = -wraps w c t d := by
  unfold wraps
  omega

theorem reading_lt (hw : 0 < w) : reading w c t < w := Nat.mod_lt _ hw

/-- **Two counters order two times alike** exactly when they wrap equally often
between them. The difference of two readings is the time between them less the
wraps; readings of one turn cannot differ by a turn, so its sign tells the
number of wraps. -/
theorem same_order_iff (hw : 0 < w) :
    (reading w c t < reading w c d ↔ reading w c' t < reading w c' d) ↔
      wraps w c d t = wraps w c' d t := by
  have hsub := reading_sub w c d t
  have hsub' := reading_sub w c' d t
  have hlt : ((reading w c t : ℤ) < w ∧ (reading w c d : ℤ) < w) ∧
      (reading w c' t : ℤ) < w ∧ (reading w c' d : ℤ) < w := by
    simp only [Nat.cast_lt]
    exact ⟨⟨reading_lt hw, reading_lt hw⟩, reading_lt hw, reading_lt hw⟩
  constructor
  · intro hiff
    -- the time between, less the wraps, stays within one turn on either side
    rcases lt_trichotomy (wraps w c d t) (wraps w c' d t) with hless | heq | hmore
    · have hturn : (w : ℤ) * wraps w c d t + w ≤ w * wraps w c' d t := by
        have hle := mul_le_mul_of_nonneg_left (Int.add_one_le_of_lt hless) (Int.natCast_nonneg w)
        linarith [mul_add (w : ℤ) (wraps w c d t) 1]
      omega
    · exact heq
    · have hturn : (w : ℤ) * wraps w c' d t + w ≤ w * wraps w c d t := by
        have hle := mul_le_mul_of_nonneg_left (Int.add_one_le_of_lt hmore) (Int.natCast_nonneg w)
        linarith [mul_add (w : ℤ) (wraps w c' d t) 1]
      omega
  · intro heq
    rw [heq] at hsub
    omega

end WrapClock
