import RcController.Lib.Curve
import RcController.Model.Signals
import Mathlib.Tactic.NormNum
import Mathlib.Tactic.Positivity

/-!
# The response of a direct input

`evaluateVirtualInput` clamps the difference of the two sticks and sends it through dead
zone, expo and a last clamp. Each of the three stages is a response curve, so their
composition is one, with the dead zone of the first stage.
-/

namespace RcController

open Set

variable {powf : ℚ → ℚ → ℚ} {inp : VirtualInputConfig} {c c' : Snapshot} {d e : ℤ}

/-- What is used of `powf`: for exponents from above 1 to 3 it increases on the
unit interval and keeps both its ends. -/
structure PowerLike (powf : ℚ → ℚ → ℚ) : Prop where
  strictMono : ∀ p, 1 < p → p ≤ 3 → StrictMonoOn (fun x => powf x p) (Icc 0 1)
  zero : ∀ p, 1 < p → p ≤ 3 → powf 0 p = 0
  one : ∀ p, 1 < p → p ≤ 3 → powf 1 p = 1

/-! ### The stages -/

/-- The last clamp is a curve without a dead zone. -/
theorem curve_constrain : Curve (0 : ℚ) (fun v => constrain v (-1) 1) where
  odd v := by
    unfold constrain
    split_ifs <;> linarith
  mono := by
    intro x hx y hy hxy
    show constrain x (-1) 1 ≤ constrain y (-1) 1
    rw [constrain_eq_self (by linarith [hx.1]) hx.2, constrain_eq_self (by linarith [hy.1]) hy.2]
    exact hxy
  full := constrain_eq_self (by norm_num) (le_refl 1)
  dead x hx := by
    show constrain x (-1) 1 = 0 ↔ x ≤ 0
    rw [constrain_eq_self (by linarith [hx.1]) hx.2]
    exact ⟨fun h => le_of_eq h, fun h => le_antisymm h hx.1⟩

/-- The dead zone on the positive half. -/
theorem applyDeadzoneSigned_of_nonneg (hlo : 0 ≤ d) (hhi : d ≤ 95) {v : ℚ} (hv : 0 ≤ v) :
    applyDeadzoneSigned v d =
      if v ≤ (d : ℚ) / 100 then 0 else (v - (d : ℚ) / 100) / (1 - (d : ℚ) / 100) := by
  unfold applyDeadzoneSigned
  simp only [constrain_eq_self hlo hhi, abs_of_nonneg hv, if_neg (not_lt.mpr hv)]

/-- **The dead zone is a curve.** Outside it the magnitude is stretched, so that
full deflection stays full. -/
theorem curve_applyDeadzoneSigned (hlo : 0 ≤ d) (hhi : d ≤ 95) :
    Curve ((d : ℚ) / 100) (fun v => applyDeadzoneSigned v d) := by
  have hlo' : (0 : ℚ) ≤ (d : ℚ) / 100 := by
    have : (0 : ℚ) ≤ (d : ℚ) := by exact_mod_cast hlo
    positivity
  -- the scale of the live part is positive because a dead zone stops at 95 %
  have hscale : (0 : ℚ) < 1 - (d : ℚ) / 100 := by
    have : (d : ℚ) ≤ 95 := by exact_mod_cast hhi
    linarith
  constructor
  case odd =>
    intro v
    unfold applyDeadzoneSigned
    simp only [constrain_eq_self hlo hhi, abs_neg]
    by_cases hdead : |v| ≤ (d : ℚ) / 100
    · rw [if_pos hdead, if_pos hdead, neg_zero]
    · rw [if_neg hdead, if_neg hdead]
      have hv : v ≠ 0 := by
        rintro rfl
        rw [abs_zero] at hdead
        exact hdead hlo'
      rcases lt_or_gt_of_ne hv with hneg | hpos
      · rw [if_neg (by linarith), if_pos hneg, neg_neg]
      · rw [if_pos (by linarith), if_neg (by linarith)]
  case mono =>
    intro x hx y hy hxy
    show applyDeadzoneSigned x d ≤ applyDeadzoneSigned y d
    rw [applyDeadzoneSigned_of_nonneg hlo hhi hx.1, applyDeadzoneSigned_of_nonneg hlo hhi hy.1]
    split_ifs with hxd hyd hyd
    · exact le_refl 0
    · exact div_nonneg (by linarith) (le_of_lt hscale)
    · exact absurd (le_trans hxy hyd) hxd
    · exact div_le_div_of_nonneg_right (by linarith) (le_of_lt hscale)
  case full =>
    rw [applyDeadzoneSigned_of_nonneg hlo hhi zero_le_one, if_neg (by linarith)]
    exact div_self (ne_of_gt hscale)
  case dead =>
    intro x hx
    rw [applyDeadzoneSigned_of_nonneg hlo hhi hx.1]
    split_ifs with hxd
    · exact ⟨fun _ => hxd, fun _ => rfl⟩
    · constructor
      · intro hzero
        have : 0 < (x - (d : ℚ) / 100) / (1 - (d : ℚ) / 100) := div_pos (by linarith) hscale
        linarith
      · intro hle
        exact absurd hle hxd

/-- Without expo the stage is a clamp. -/
theorem applyExpoSigned_zero (v : ℚ) : applyExpoSigned powf v 0 = constrain v (-1) 1 := by
  unfold applyExpoSigned
  rw [constrain_eq_self (le_refl (0 : ℤ)) (by norm_num)]
  norm_num

/-- With expo the magnitude is raised to a power between 1 and 3. -/
theorem applyExpoSigned_of_pos (hlo : 0 < e) (hhi : e ≤ 100) (v : ℚ) :
    applyExpoSigned powf v e =
      constrain (if v < 0 then -powf |v| (1 + (e : ℚ) / 100 * 2)
        else powf |v| (1 + (e : ℚ) / 100 * 2)) (-1) 1 := by
  unfold applyExpoSigned
  have hpos : (0 : ℚ) < (e : ℚ) := by exact_mod_cast hlo
  simp only [constrain_eq_self (le_of_lt hlo) hhi]
  rw [if_neg (by rw [not_le]; positivity)]

/-- **Expo is a curve** without a dead zone, when the power is one. -/
theorem curve_applyExpoSigned (hpow : PowerLike powf) (hlo : 0 ≤ e) (hhi : e ≤ 100) :
    Curve (0 : ℚ) (fun v => applyExpoSigned powf v e) := by
  rcases hlo.eq_or_lt with rfl | hpos
  · simp only [applyExpoSigned_zero]
    exact curve_constrain
  -- the power with its sign is a curve of its own, and the clamp after it changes nothing
  have hp1 : 1 < 1 + (e : ℚ) / 100 * 2 := by
    have : (0 : ℚ) < (e : ℚ) := by exact_mod_cast hpos
    linarith
  have hp3 : 1 + (e : ℚ) / 100 * 2 ≤ 3 := by
    have : (e : ℚ) ≤ 100 := by exact_mod_cast hhi
    linarith
  generalize hp : 1 + (e : ℚ) / 100 * 2 = p at hp1 hp3
  have hmono := hpow.strictMono p hp1 hp3
  have hzero := hpow.zero p hp1 hp3
  have hsigned : Curve (0 : ℚ) (fun v => if v < 0 then -powf |v| p else powf |v| p) := by
    have hnonneg : ∀ {v : ℚ}, 0 ≤ v →
        (if v < 0 then -powf |v| p else powf |v| p) = powf v p := by
      intro v hv
      rw [if_neg (not_lt.mpr hv), abs_of_nonneg hv]
    constructor
    case odd =>
      intro v
      rw [abs_neg]
      rcases lt_trichotomy v 0 with hneg | rfl | hpos
      · rw [if_neg (by linarith), if_pos hneg, neg_neg]
      · rw [neg_zero, if_neg (lt_irrefl _), abs_zero, hzero, neg_zero]
      · rw [if_pos (by linarith), if_neg (by linarith)]
    case mono =>
      intro x hx y hy hxy
      show ite _ _ _ ≤ ite _ _ _
      rw [hnonneg hx.1, hnonneg hy.1]
      exact hmono.monotoneOn hx hy hxy
    case full =>
      rw [hnonneg zero_le_one]
      exact hpow.one p hp1 hp3
    case dead =>
      intro x hx
      rw [hnonneg hx.1]
      constructor
      · intro h
        by_contra hx0
        have := hmono ⟨le_refl 0, zero_le_one⟩ hx (not_le.mp hx0)
        simp only [hzero, h] at this
        exact lt_irrefl _ this
      · intro h
        rw [le_antisymm h hx.1, hzero]
  have hcomp := curve_constrain.comp hsigned
  simp only [applyExpoSigned_of_pos hpos hhi, hp]
  exact hcomp

/-! ### The whole response -/

/-- The three stages, one after the other. -/
def response (powf : ℚ → ℚ → ℚ) (d e : ℤ) (v : ℚ) : ℚ :=
  constrain (applyExpoSigned powf (applyDeadzoneSigned v d) e) (-1) 1

/-- So they are a curve together, with the dead zone of the first. -/
theorem curve_response (hpow : PowerLike powf) (hd : 0 ≤ d ∧ d ≤ 95) (he : 0 ≤ e ∧ e ≤ 100) :
    Curve ((d : ℚ) / 100) (response powf d e) :=
  curve_constrain.comp
    ((curve_applyExpoSigned hpow he.1 he.2).comp (curve_applyDeadzoneSigned hd.1 hd.2))

/-- What is subtracted: the second stick, or nothing when there is none. -/
def secondaryPart (inp : VirtualInputConfig) (c : Snapshot) : ℚ :=
  if inp.secondary ≠ InputId.none then normalizedForInput inp.secondary c else 0

/-- The difference of the two sticks, clamped. -/
def difference (inp : VirtualInputConfig) (c : Snapshot) : ℚ :=
  constrain (normalizedForInput inp.primary c - secondaryPart inp c) (-1) 1

/-- Whether the modifier turns the response round. -/
def reversed (inp : VirtualInputConfig) (c : Snapshot) : Bool :=
  inp.modifierFunction = .reverse && modifierPressed inp c

/-- Whether the modifier lets anything through at all. -/
def enabledAt (inp : VirtualInputConfig) (c : Snapshot) : Bool :=
  isInputEnabledByModifier inp (modifierPressed inp c)

/-- The difference is in range. -/
theorem difference_mem (inp : VirtualInputConfig) (c : Snapshot) :
    difference inp c ∈ Icc (-1 : ℚ) 1 := constrain_mem _ (by norm_num)

/-- It grows with the first stick and falls with the second. -/
theorem difference_le (hprimary : normalizedForInput inp.primary c ≤
      normalizedForInput inp.primary c')
    (hsecondary : secondaryPart inp c' ≤ secondaryPart inp c) :
    difference inp c ≤ difference inp c' := by
  unfold difference constrain
  split_ifs <;> linarith

/-- **The value of a configured input**: zero when gated off, else the response
to the difference, which Reverse turns round. -/
theorem evaluateVirtualInput_of_used (hused : inp.used = true)
    (hprimary : inp.primary ≠ InputId.none) (c : Snapshot) :
    evaluateVirtualInput powf inp c =
      if enabledAt inp c then
        response powf inp.deadzonePercent inp.expoPercent
          (if reversed inp c then -difference inp c else difference inp c)
      else 0 := by
  have hdiff : constrain
      (if inp.secondary ≠ InputId.none then
        normalizedForInput inp.primary c - normalizedForInput inp.secondary c
      else normalizedForInput inp.primary c) (-1) 1 = difference inp c := by
    unfold difference secondaryPart
    split_ifs
    · rfl
    · rw [sub_zero]
  unfold evaluateVirtualInput
  rw [if_neg (by simp [hused, hprimary])]
  simp only [hdiff]
  unfold enabledAt reversed response
  cases isInputEnabledByModifier inp (modifierPressed inp c) <;> rfl

/-- **Reverse is exact negation** of the response to the difference. -/
theorem evaluateVirtualInput_of_enabled (hpow : PowerLike powf) (hused : inp.used = true)
    (hprimary : inp.primary ≠ InputId.none)
    (hd : 0 ≤ inp.deadzonePercent ∧ inp.deadzonePercent ≤ 95)
    (he : 0 ≤ inp.expoPercent ∧ inp.expoPercent ≤ 100) (hc : enabledAt inp c = true) :
    evaluateVirtualInput powf inp c =
      if reversed inp c then -response powf inp.deadzonePercent inp.expoPercent (difference inp c)
      else response powf inp.deadzonePercent inp.expoPercent (difference inp c) := by
  rw [evaluateVirtualInput_of_used hused hprimary, if_pos hc]
  split_ifs
  · exact (curve_response hpow hd he).odd _
  · rfl

/-- The input without its modifier. -/
def unmodified (inp : VirtualInputConfig) : VirtualInputConfig :=
  { inp with modifierFunction := .none }

/-- Without a modifier an input is neither gated nor reversed. -/
theorem evaluateVirtualInput_unmodified (hused : inp.used = true)
    (hprimary : inp.primary ≠ InputId.none) (c : Snapshot) :
    evaluateVirtualInput powf (unmodified inp) c =
      response powf inp.deadzonePercent inp.expoPercent (difference inp c) := by
  have hused' : (unmodified inp).used = true := hused
  have hprimary' : (unmodified inp).primary ≠ InputId.none := hprimary
  have henabled : enabledAt (unmodified inp) c = true := by
    unfold enabledAt isInputEnabledByModifier
    split_ifs <;> rfl
  have hreversed : reversed (unmodified inp) c = false := rfl
  rw [evaluateVirtualInput_of_used hused' hprimary', if_pos henabled, hreversed]
  rfl

/-- The laws of a direct input, as one statement. The gate is part of it: with
Activate or Desactivate an input may be zero outside its dead zone. -/
structure DirectResponse (powf : ℚ → ℚ → ℚ) (inp : VirtualInputConfig) : Prop where
  bounded : ∀ c, evaluateVirtualInput powf inp c ∈ Icc (-1 : ℚ) 1
  gated : ∀ c, enabledAt inp c = false → evaluateVirtualInput powf inp c = 0
  dead : ∀ c, enabledAt inp c = true →
    (evaluateVirtualInput powf inp c = 0 ↔
      |difference inp c| ≤ (inp.deadzonePercent : ℚ) / 100)
  full_right : ∀ c, enabledAt inp c = true → difference inp c = 1 →
    evaluateVirtualInput powf inp c = if reversed inp c then -1 else 1
  full_left : ∀ c, enabledAt inp c = true → difference inp c = -1 →
    evaluateVirtualInput powf inp c = if reversed inp c then 1 else -1
  reverse : ∀ c, reversed inp c = true →
    evaluateVirtualInput powf inp c =
      -evaluateVirtualInput powf (unmodified inp) c
  mono : ∀ c c', enabledAt inp c = true → enabledAt inp c' = true →
    reversed inp c = reversed inp c' →
    normalizedForInput inp.primary c ≤ normalizedForInput inp.primary c' →
    secondaryPart inp c' ≤ secondaryPart inp c →
    if reversed inp c then evaluateVirtualInput powf inp c' ≤ evaluateVirtualInput powf inp c
    else evaluateVirtualInput powf inp c ≤ evaluateVirtualInput powf inp c'

/-- Reverse does not gate. -/
theorem enabledAt_of_reversed (h : reversed inp c = true) : enabledAt inp c = true := by
  unfold reversed at h
  rw [Bool.and_eq_true, decide_eq_true_eq] at h
  unfold enabledAt isInputEnabledByModifier
  rw [h.1]
  split_ifs <;> rfl

/-- **The response of a direct input**: bounded, flat at zero exactly on the
dead zone, full at full deflection, monotone in both sticks, and odd under
Reverse. -/
theorem direct_response (hpow : PowerLike powf) (inp : VirtualInputConfig)
    (hused : inp.used = true) (hprimary : inp.primary ≠ InputId.none)
    (hd : 0 ≤ inp.deadzonePercent ∧ inp.deadzonePercent ≤ 95)
    (he : 0 ≤ inp.expoPercent ∧ inp.expoPercent ≤ 100) : DirectResponse powf inp := by
  have hcurve := curve_response hpow hd he
  have hgated : ∀ c, enabledAt inp c = false → evaluateVirtualInput powf inp c = 0 := by
    intro c hc
    rw [evaluateVirtualInput_of_used hused hprimary, hc]
    rfl
  have hvalue : ∀ c, enabledAt inp c = true → evaluateVirtualInput powf inp c =
      if reversed inp c then -response powf inp.deadzonePercent inp.expoPercent (difference inp c)
      else response powf inp.deadzonePercent inp.expoPercent (difference inp c) :=
    fun c hc => evaluateVirtualInput_of_enabled hpow hused hprimary hd he hc
  -- an open input is the curve or its negative, so each part follows from the curve's
  constructor
  case bounded =>
    intro c
    cases hc : enabledAt inp c with
    | false =>
      rw [hgated c hc]
      exact ⟨by norm_num, by norm_num⟩
    | true =>
      obtain ⟨hlo, hhi⟩ := hcurve.mem (difference_mem inp c)
      rw [hvalue c hc]
      split_ifs
      · exact ⟨by linarith, by linarith⟩
      · exact ⟨hlo, hhi⟩
  case gated => exact hgated
  case dead =>
    intro c hc
    rw [hvalue c hc, ← hcurve.eq_zero_iff (difference_mem inp c)]
    split_ifs
    · exact neg_eq_zero
    · exact Iff.rfl
  case full_right =>
    intro c hc hfull
    rw [hvalue c hc, hfull, hcurve.full]
  case full_left =>
    intro c hc hfull
    rw [hvalue c hc, hfull, hcurve.full_neg, neg_neg]
  case reverse =>
    intro c hc
    rw [hvalue c (enabledAt_of_reversed hc), if_pos hc,
      evaluateVirtualInput_unmodified hused hprimary]
  case mono =>
    -- the second stick counts against the first, so its order is the other way round
    intro c c' hc hc' hrev hp hs
    have hle := hcurve.monotoneOn (difference_mem inp c) (difference_mem inp c')
      (difference_le hp hs)
    rw [hvalue c hc, hvalue c' hc', ← hrev]
    split_ifs
    · exact neg_le_neg hle
    · exact hle

/-- A power for the examples: with exponent 3, whatever is asked for. -/
def cube (x _p : ℚ) : ℚ := x ^ 3

/-- It is one. -/
theorem powerLike_cube : PowerLike cube where
  strictMono p _ _ := by
    intro x hx y _ hxy
    exact pow_lt_pow_left₀ hxy hx.1 (by norm_num)
  zero p _ _ := by norm_num [cube]
  one p _ _ := by norm_num [cube]

/-- An input that is the difference of two sticks. -/
def crossedSticks : VirtualInputConfig where
  used := true
  primary := InputId.axisX
  secondary := InputId.axisRX
  modifier := InputId.buttonB
  modifierFunction := .reverse
  expoPercent := 100

/-- The laws, of this one. -/
theorem direct_response_crossedSticks : DirectResponse cube crossedSticks :=
  direct_response powerLike_cube crossedSticks rfl (by decide) (by decide) (by decide)

/-- A stick that a button has to activate. -/
def gatedStick : VirtualInputConfig where
  used := true
  primary := InputId.axisX
  modifier := InputId.buttonA
  modifierFunction := .activate

/-- At full deflection with the button up the value of a gated stick is zero,
outside the dead zone. -/
theorem gatedStick_outside_deadzone :
    gatedStick.used = true ∧ gatedStick.inputType = .direct ∧
      difference gatedStick { axisX := 512 } = 1 ∧
      ¬ |difference gatedStick { axisX := 512 }| ≤ (gatedStick.deadzonePercent : ℚ) / 100 ∧
      evaluateVirtualInput cube gatedStick { axisX := 512 } = 0 := by
  refine ⟨rfl, rfl, by decide +kernel, by decide +kernel, by decide +kernel⟩

end RcController
