import RcController.Model.Sketch
import RcController.Signals.Mixer
import RcController.Wiring.Setup
import Mathlib.Algebra.BigOperators.Ring.List

/-!
# Neutral channels and deleted inputs

With every virtual input at zero a term of the mixer is its offset. A sum of terms is then
neutral when the offsets cancel, a product when no term takes part in it or one that does
has no offset. Deleting an input takes its terms out of both, so whether a neutral channel
stays neutral depends on what the other terms are left with.
-/

namespace RcController

/-- All inputs at zero. -/
def atRest : InputIdx → ℚ := fun _ => 0

/-- One of the two terms of a channel: the input it reads, what that weighs, and
what is added. -/
structure Term where
  source : Int8
  weight : Int8
  offset : Int8

namespace Term

def TakesPart (t : Term) : Prop := takesPart t.source t.offset = true

instance (t : Term) : Decidable t.TakesPart := inferInstanceAs (Decidable (_ = _))

/-- The term reads input `k`. -/
def FedBy (k : InputIdx) (t : Term) : Prop := t.source.toInt = k.val

instance (k : InputIdx) (t : Term) : Decidable (t.FedBy k) := inferInstanceAs (Decidable (_ = _))

/-- What deleting input `k` makes of a term: one that reads it is emptied. -/
def clear (k : InputIdx) (t : Term) : Term :=
  if t.FedBy k then { source := -1, weight := 0, offset := 0 } else t

/-- The term reads an input and adds nothing to it. -/
def Plain (t : Term) : Prop := 0 ≤ t.source.toInt ∧ t.offset = 0

instance (t : Term) : Decidable t.Plain := inferInstanceAs (Decidable (_ ∧ _))

variable {k : InputIdx} {t : Term}

/-- A cleared term is out of the product. -/
theorem takesPart_clear : (t.clear k).TakesPart ↔ ¬ t.FedBy k ∧ t.TakesPart := by
  unfold clear
  split_ifs with h
  · constructor
    · intro hcleared
      exact absurd hcleared (by decide)
    · intro h'
      exact absurd h h'.1
  · exact ⟨fun h' => ⟨h, h'⟩, fun h' => h'.2⟩

/-- A cleared term is not plain. -/
theorem plain_clear : (t.clear k).Plain ↔ ¬ t.FedBy k ∧ t.Plain := by
  unfold clear
  split_ifs with h
  · constructor
    · intro hcleared
      exact absurd hcleared.1 (by decide)
    · intro h'
      exact absurd h h'.1
  · exact ⟨fun h' => ⟨h, h'⟩, fun h' => h'.2⟩

/-- A term that takes part without an offset has a source, since one of the two
it must have. -/
theorem plain_iff : t.Plain ↔ t.TakesPart ∧ t.offset = 0 := by
  unfold Plain TakesPart takesPart
  rw [Bool.or_eq_true, decide_eq_true_eq, decide_eq_true_eq]
  tauto

/-- **The offsets that deletion leaves** are those of the terms fed by other
inputs. An emptied term has no offset. -/
theorem sum_clear (k : InputIdx) (ts : List Term) :
    ((ts.map (clear k)).map fun t => t.offset.toInt).sum +
      ((ts.filter (FedBy k)).map fun t => t.offset.toInt).sum =
      (ts.map fun t => t.offset.toInt).sum := by
  induction ts with
  | nil => rfl
  | cons t ts ih =>
    by_cases h : t.FedBy k
    -- a term fed by `k` moves its offset from the first sum to the second
    · have hoffset : (t.clear k).offset.toInt = 0 := by
        rw [clear, if_pos h]
        rfl
      rw [List.filter_cons_of_pos (by simpa using h)]
      simp only [List.map_cons, List.sum_cons, hoffset]
      linarith
    · have hsame : t.clear k = t := by rw [clear, if_neg h]
      rw [List.filter_cons_of_neg (by simpa using h)]
      simp only [List.map_cons, List.sum_cons, hsame]
      linarith

end Term

/-- The three terms of a channel. -/
def OutputChannelConfig.terms (out : OutputChannelConfig) : List Term :=
  [⟨out.sourceA, out.weightA, out.offsetA⟩, ⟨out.sourceB, out.weightB, out.offsetB⟩,
    ⟨out.sourceC, out.weightC, out.offsetC⟩]

variable {k : InputIdx} {out : OutputChannelConfig}

/-- **Deletion clears the terms one by one** and leaves the rest of the
channel. -/
theorem terms_clearSource (hused : out.used = true) :
    (clearSource k out).terms = out.terms.map (Term.clear k) ∧
      (clearSource k out).mixMode = out.mixMode ∧ (clearSource k out).used = true := by
  unfold clearSource OutputChannelConfig.terms
  rw [if_neg (by simp [hused])]
  simp only [List.map_cons, List.map_nil, Term.clear, Term.FedBy]
  -- the source tests its three terms one after the other
  split_ifs <;> simp_all

/-! ### Rest -/

/-- At rest every source is zero. -/
theorem sourceValueByIndex_atRest (idx : Int8) : sourceValueByIndex atRest idx = 0 := by
  unfold sourceValueByIndex atRest
  split <;> rfl

/-- At rest a term is its offset. -/
theorem mixTerm_atRest (source weight offset : Int8) :
    mixTerm atRest source weight offset = (offset.toInt : ℚ) / 100 := by
  rw [mixTerm, sourceValueByIndex_atRest, zero_mul, zero_add]

/-- A clamp to a range around zero does not make anything zero. -/
theorem constrain_eq_zero_iff {v : ℚ} : constrain v (-1) 1 = 0 ↔ v = 0 := by
  unfold constrain
  split_ifs with hlo hhi
  -- a value that is clamped lies beyond a bound, and neither bound is zero
  · exact ⟨fun h => by norm_num at h, fun h => by linarith⟩
  · exact ⟨fun h => by norm_num at h, fun h => by linarith⟩
  · exact Iff.rfl

/-- Clamping and inverting keep zero apart from the rest. So a channel is
neutral when its mix is. -/
theorem evaluateOutputSignal_eq_zero_iff (hused : out.used = true) (runtime : InputIdx → ℚ) :
    evaluateOutputSignal runtime out = 0 ↔ mixed runtime out = 0 := by
  rw [evaluateOutputSignal_of_used hused]
  split_ifs
  · rw [neg_eq_zero, constrain_eq_zero_iff]
  · exact constrain_eq_zero_iff

/-- **A sum is neutral** when the offsets cancel. They are integers in percent,
so it is enough to add them up. -/
theorem mixed_add_eq_zero_iff (hadd : out.mixMode = .add) :
    mixed atRest out = 0 ↔ (out.terms.map fun t => t.offset.toInt).sum = 0 := by
  have hsum : mixed atRest out = (((out.terms.map fun t => t.offset.toInt).sum : ℤ) : ℚ) / 100 := by
    simp only [mixed, hadd, mixTerm_atRest, OutputChannelConfig.terms, List.map_cons, List.map_nil,
      List.sum_cons, List.sum_nil]
    push_cast
    ring
  rw [hsum, div_eq_zero_iff, Int.cast_eq_zero]
  exact or_iff_left (by norm_num)

/-- A factor is zero at rest exactly when the term takes part without an
offset. -/
theorem factor_eq_zero_iff (t : Term) :
    factor atRest t.source t.weight t.offset = 0 ↔ t.Plain := by
  rw [Term.plain_iff]
  unfold factor
  split_ifs with h
  -- a term that does not take part is replaced by the factor one
  · have hzero : (t.offset.toInt : ℚ) / 100 = 0 ↔ t.offset = 0 := by
      have hzero : t.offset = 0 ↔ t.offset.toInt = 0 := Int8.toInt_inj.symm
      rw [div_eq_zero_iff, Int.cast_eq_zero, hzero]
      norm_num
    rw [mixTerm_atRest, hzero]
    exact ⟨fun h' => ⟨h, h'⟩, fun h' => h'.2⟩
  · exact ⟨fun h' => absurd h' one_ne_zero, fun h' => absurd h'.1 h⟩

/-- The mix of a product, term by term. -/
theorem mixed_multiply (hmul : out.mixMode = .multiply) (runtime : InputIdx → ℚ) :
    mixed runtime out =
      if out.terms.any fun t => takesPart t.source t.offset then
        (out.terms.map fun t => factor runtime t.source t.weight t.offset).prod
      else 0 := by
  unfold mixed OutputChannelConfig.terms
  simp only [hmul, List.any_cons, List.any_nil, Bool.or_false, ← Bool.or_assoc, List.map_cons,
    List.map_nil, List.prod_cons, List.prod_nil, mul_one, ← mul_assoc]

/-- **A product is neutral** when no term takes part or a plain one does. A
product is zero when a factor is, and a factor is when its term is plain. -/
theorem mixed_multiply_eq_zero_iff (hmul : out.mixMode = .multiply) :
    mixed atRest out = 0 ↔
      (∀ t ∈ out.terms, ¬ t.TakesPart) ∨ ∃ t ∈ out.terms, t.Plain := by
  have hprod : (out.terms.map fun t => factor atRest t.source t.weight t.offset).prod = 0 ↔
      ∃ t ∈ out.terms, t.Plain := by
    rw [List.prod_eq_zero_iff, List.mem_map]
    simp only [factor_eq_zero_iff]
  have hany : (out.terms.any fun t => takesPart t.source t.offset) = true ↔
      ¬ ∀ t ∈ out.terms, ¬ t.TakesPart := by
    rw [List.any_eq_true]
    push Not
    exact Iff.rfl
  rw [mixed_multiply hmul]
  split_ifs with hterm
  · rw [hprod]
    exact ⟨fun h => .inr h, fun h => h.resolve_left (hany.mp hterm)⟩
  · have hnone : ∀ t ∈ out.terms, ¬ t.TakesPart := not_not.mp fun h => hterm (hany.mpr h)
    exact ⟨fun _ => .inl hnone, fun _ => rfl⟩

/-! ### Deletion -/

/-- What the deletion has to leave: in a sum, offsets of the deleted terms that
cancel among themselves; in a product, a plain term, or no term at all that
takes part. -/
def StaysNeutral (k : InputIdx) (out : OutputChannelConfig) : Prop :=
  match out.mixMode with
  | .add => ((out.terms.filter (Term.FedBy k)).map fun t => t.offset.toInt).sum = 0
  | .multiply =>
    (∀ t ∈ out.terms, ¬ t.FedBy k → ¬ t.TakesPart) ∨ ∃ t ∈ out.terms, ¬ t.FedBy k ∧ t.Plain

/-- A neutral channel stays neutral exactly then. -/
theorem neutral_clearSource_iff (hused : out.used = true)
    (hrest : evaluateOutputSignal atRest out = 0) :
    evaluateOutputSignal atRest (clearSource k out) = 0 ↔ StaysNeutral k out := by
  obtain ⟨hterms, hmode, hused'⟩ := terms_clearSource hused (k := k)
  rw [evaluateOutputSignal_eq_zero_iff hused] at hrest
  rw [evaluateOutputSignal_eq_zero_iff hused']
  unfold StaysNeutral
  cases hmix : out.mixMode with
  | add =>
    -- the offsets cancelled before, so what is left cancels when what goes does
    rw [mixed_add_eq_zero_iff hmix] at hrest
    rw [mixed_add_eq_zero_iff (hmode.trans hmix), hterms]
    have hsum := Term.sum_clear k out.terms
    constructor
    · intro h
      linarith
    · intro h
      have h' : ((out.terms.filter (Term.FedBy k)).map fun t => t.offset.toInt).sum = 0 := h
      linarith
  | multiply =>
    -- how the product was neutral before does not matter
    have hplain : (∃ t ∈ out.terms.map (Term.clear k), t.Plain) ↔
        ∃ t ∈ out.terms, ¬ t.FedBy k ∧ t.Plain := by
      simp only [List.mem_map, exists_exists_and_eq_and, Term.plain_clear]
    rw [mixed_multiply_eq_zero_iff (hmode.trans hmix), hterms, hplain]
    simp only [List.forall_mem_map, Term.takesPart_clear, not_and]

/-- **Deleting an input and neutral channels.** After `virtual_delete` of input
`k`, a used channel that was zero at rest is still zero at rest exactly when
`StaysNeutral` holds of it. -/
theorem delete_neutral_iff {args : Args} {s : Sketch} {k : InputIdx}
    (hindex : parseIndex args kMaxVirtualInputs = some k)
    (hinput : (s.rc.virtualInputs k).used = true) (i : OutputIdx)
    (hused : (s.rc.bank.outputs i).used = true)
    (hrest : evaluateOutputSignal atRest (s.rc.bank.outputs i) = 0) :
    evaluateOutputSignal atRest ((handleApiVirtualDelete args s).1.rc.bank.outputs i) = 0 ↔
      StaysNeutral k (s.rc.bank.outputs i) := by
  have houtput : (handleApiVirtualDelete args s).1.rc.bank.outputs i =
      clearSource k (s.rc.bank.outputs i) := by
    unfold handleApiVirtualDelete
    rw [hindex]
    show (if !(s.rc.virtualInputs k).used then (s, _) else _).1.rc.bank.outputs i = _
    rw [if_neg (by simp [hinput])]
    rfl
  rw [houtput]
  exact neutral_clearSource_iff hused hrest

/-- Deleting an input by its index. -/
def deleteInput (index : String) : Request where
  endpoint := .virtualDelete
  args p := if p = .index then some (lit index) else none

/-- In the built-in car the throttle channel is the throttle times a dual rate.
Without the dual rate it stays neutral. -/
theorem delete_neutral_iff_dual_rate :
    let s := (System.boot smallBoard {} (fun _ _ => false) 0).sketch
    evaluateOutputSignal atRest
        ((handleApiVirtualDelete (deleteInput "2").args s).1.rc.bank.outputs 1) = 0 ↔
      StaysNeutral 2 (s.rc.bank.outputs 1) :=
  delete_neutral_iff (by decide +kernel) (by decide +kernel) 1 (by decide +kernel)
    (by decide +kernel)

/-- Without the throttle the dual rate is left alone, at full deflection. -/
theorem delete_throttle_deflects :
    let s := (System.boot smallBoard {} (fun _ _ => false) 0).sketch
    let s' := (handleApiVirtualDelete (deleteInput "1").args s).1
    (handleApiVirtualDelete (deleteInput "1").args s).2.ok = true ∧
      (s.rc.bank.outputs 1).used = true ∧
      evaluateOutputSignal atRest (s.rc.bank.outputs 1) = 0 ∧
      evaluateOutputSignal atRest (s'.rc.bank.outputs 1) = -1 := by
  decide +kernel

end RcController
