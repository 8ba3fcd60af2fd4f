import Mathlib.Data.Nat.Init
import Mathlib.Logic.Basic

/-!
# Programs over a device whose calls can fail

A program is a tree of calls to a device, each continued by a function of the
reply (`Prog`). Three readings of the same tree are used:

* `Prog.eval` — every call succeeds;
* `Prog.run` — a fault plan decides, call by call, which ones fail. A failing
  call leaves the device as it is and answers `Device.fail`;
* `Prog.cut` — the power goes after a given number of calls, and only the state
  of the device is left.

`Prog.Always` is the fourth, and needs no device: a property of the result that
holds whatever every call answers. It is what a caller uses when the result does
not depend on the device at all.

`Prog.Makes` bounds the calls a program can make; a program that only reads leaves the
device alone. `Prog.Leaves` takes the second and the third together: some calls may fail
and the power may go, in any combination.

A single failing call lies between the second and the third: when a program ends at
once because a call failed, it leaves the device as a power cut at that point does
(`Prog.run_failAt`).

What stands behind a device is often something simpler than its state. `Prog.Ensures`
speaks of programs in terms of that: a relation says which abstract state the device
stands for, before and after.

Each reading comes with its rule for sequencing (`eval_bind`, `run_bind`,
`cut_bind_lt`, `cut_bind_ge`, `Always.bind`, `Ensures.bind`). The number of calls a program makes
when none fails is `Prog.calls`. It is what separates the two `cut` rules.
-/

namespace DeviceProg

/-- What a device can be called for. The type of the reply depends on the
call. -/
structure Interface where
  /-- The calls. -/
  Op : Type
  /-- What a call answers. -/
  Reply : Op → Type

/-- How a device answers, when a call succeeds and when it fails. A call that
fails does not change the state, so its reply is all there is to say. -/
structure Device (I : Interface) (σ : Type) where
  /-- The reply and the next state of a call that succeeds. -/
  exec : (o : I.Op) → σ → I.Reply o × σ
  /-- The reply of a call that fails. -/
  fail : (o : I.Op) → I.Reply o

/-- A program over an interface: it returns, or makes a call and goes on with
the reply. A tree of this kind has no more to it than its calls, so it can be
read in several ways. -/
inductive Prog (I : Interface) (α : Type) : Type where
  | pure (a : α) : Prog I α
  | call (o : I.Op) (k : I.Reply o → Prog I α) : Prog I α

namespace Prog

variable {I : Interface} {σ α β : Type}

/-- One program after another. The second is grafted onto every end of the
first. -/
def bind : Prog I α → (α → Prog I β) → Prog I β
  | .pure a, f => f a
  | .call o k, f => .call o fun r => bind (k r) f

/-- The program that makes one call and returns its reply. -/
def perform (o : I.Op) : Prog I (I.Reply o) := .call o .pure

instance : Monad (Prog I) where
  pure := .pure
  bind := bind

@[simp] theorem pure_eq (a : α) : (Pure.pure a : Prog I α) = .pure a := rfl

@[simp] theorem bind_eq (p : Prog I α) (f : α → Prog I β) : (p >>= f) = p.bind f := rfl

@[simp] theorem pure_bind (a : α) (f : α → Prog I β) : (Prog.pure a).bind f = f a := rfl

@[simp] theorem call_bind (o : I.Op) (k : I.Reply o → Prog I α) (f : α → Prog I β) :
    (Prog.call o k).bind f = .call o fun r => (k r).bind f := rfl

@[simp] theorem perform_bind (o : I.Op) (f : I.Reply o → Prog I β) :
    (perform o).bind f = .call o f := rfl

/-- Sequencing is associative, by induction on the first program. -/
theorem bind_assoc {γ : Type} (p : Prog I α) (f : α → Prog I β) (g : β → Prog I γ) :
    (p.bind f).bind g = p.bind fun a => (f a).bind g := by
  induction p with
  | pure a => rfl
  | call o k ih => exact congrArg (Prog.call o) (funext ih)

/-! ### Every call succeeds -/

/-- The evaluation: every call succeeds. -/
def eval (D : Device I σ) : Prog I α → σ → α × σ
  | .pure a, s => (a, s)
  | .call o k, s => eval D (k (D.exec o s).1) (D.exec o s).2

/-- The number of calls that the evaluation makes. -/
def calls (D : Device I σ) : Prog I α → σ → ℕ
  | .pure _, _ => 0
  | .call o k, s => calls D (k (D.exec o s).1) (D.exec o s).2 + 1

section Eval

variable (D : Device I σ)

@[simp] theorem eval_pure (a : α) (s : σ) : (Prog.pure a : Prog I α).eval D s = (a, s) := rfl

@[simp] theorem eval_call (o : I.Op) (k : I.Reply o → Prog I α) (s : σ) :
    (Prog.call o k).eval D s = (k (D.exec o s).1).eval D (D.exec o s).2 := rfl

/-- A sequence is evaluated one program after the other. -/
theorem eval_bind (p : Prog I α) (f : α → Prog I β) (s : σ) :
    (p.bind f).eval D s = (f (p.eval D s).1).eval D (p.eval D s).2 := by
  induction p generalizing s with
  | pure a => rfl
  | call o k ih => exact ih (D.exec o s).1 (D.exec o s).2

@[simp] theorem calls_pure (a : α) (s : σ) : (Prog.pure a : Prog I α).calls D s = 0 := rfl

@[simp] theorem calls_call (o : I.Op) (k : I.Reply o → Prog I α) (s : σ) :
    (Prog.call o k).calls D s = (k (D.exec o s).1).calls D (D.exec o s).2 + 1 := rfl

end Eval

/-! ### A plan of faults -/

/-- A plan of faults says of each call, by its number and what it asks for,
whether it fails. -/
abbrev Plan (I : Interface) := ℕ → I.Op → Bool

/-- The plan seen after one call. -/
def Plan.shift (plan : Plan I) : Plan I := fun n => plan (n + 1)

/-- The result and the final state under a plan of faults. -/
def run (D : Device I σ) : Plan I → Prog I α → σ → α × σ
  | _, .pure a, s => (a, s)
  | plan, .call o k, s =>
    if plan 0 o then run D plan.shift (k (D.fail o)) s
    else run D plan.shift (k (D.exec o s).1) (D.exec o s).2

section Run

variable (D : Device I σ)

@[simp] theorem run_pure (plan : Plan I) (a : α) (s : σ) :
    (Prog.pure a : Prog I α).run D plan s = (a, s) := by
  simp [run]

/-- What is left of a plan after a run. -/
def rest : Plan I → Prog I α → σ → Plan I
  | plan, .pure _, _ => plan
  | plan, .call o k, s =>
    if plan 0 o then rest plan.shift (k (D.fail o)) s
    else rest plan.shift (k (D.exec o s).1) (D.exec o s).2

/-- A run of a sequence is a run of the first program followed by a run of the
second, under what is left of the plan. -/
theorem run_bind_rest (plan : Plan I) (p : Prog I α) (f : α → Prog I β) (s : σ) :
    (p.bind f).run D plan s
      = (f (p.run D plan s).1).run D (p.rest D plan s) (p.run D plan s).2 := by
  induction p generalizing plan s with
  | pure a => simp [rest]
  | call o k ih =>
    by_cases h : plan 0 o = true
    · simpa [run, rest, h] using ih (D.fail o) plan.shift s
    · simpa [run, rest, h] using ih (D.exec o s).1 plan.shift (D.exec o s).2

/-- The same when it does not matter what is left of the plan, as when the claim
is about every plan. -/
theorem run_bind (plan : Plan I) (p : Prog I α) (f : α → Prog I β) (s : σ) :
    ∃ plan' : Plan I, (p.bind f).run D plan s
      = (f (p.run D plan s).1).run D plan' (p.run D plan s).2 := ⟨_, run_bind_rest D plan p f s⟩

/-- Without faults a run is the evaluation. The plan that is left after a call
is without faults too. -/
theorem run_of_noFault {plan : Plan I} (h : ∀ n o, plan n o = false) (p : Prog I α) (s : σ) :
    p.run D plan s = p.eval D s := by
  induction p generalizing plan s with
  | pure a => simp
  | call o k ih =>
    simp only [run, h, Bool.false_eq_true, if_false, eval_call]
    exact ih _ (fun n => h (n + 1)) _

end Run

/-! ### The power goes -/

/-- The state of the device after at most `n` calls, none of which fails. -/
def cut (D : Device I σ) : ℕ → Prog I α → σ → σ
  | 0, _, s => s
  | _ + 1, .pure _, s => s
  | n + 1, .call o k, s => cut D n (k (D.exec o s).1) (D.exec o s).2

section Cut

variable (D : Device I σ)

/-- Nothing has happened yet, and at the end nothing more can. -/
@[simp] theorem cut_zero (p : Prog I α) (s : σ) : p.cut D 0 s = s := by
  cases p <;> rfl

@[simp] theorem cut_pure (n : ℕ) (a : α) (s : σ) : (Prog.pure a : Prog I α).cut D n s = s := by
  cases n <;> rfl

@[simp] theorem cut_call_succ (n : ℕ) (o : I.Op) (k : I.Reply o → Prog I α) (s : σ) :
    (Prog.call o k).cut D (n + 1) s = (k (D.exec o s).1).cut D n (D.exec o s).2 := rfl

/-- A cut inside the first program of a sequence does not see the second. At the
boundary, with every call of the first made, the two rules agree. -/
theorem cut_bind_lt {n : ℕ} (p : Prog I α) (f : α → Prog I β) (s : σ) (h : n ≤ p.calls D s) :
    (p.bind f).cut D n s = p.cut D n s := by
  induction p generalizing n s with
  | pure a =>
    obtain rfl : n = 0 := by simpa using h
    simp
  | call o k ih =>
    obtain _ | n := n
    · simp
    · exact ih _ _ (by simpa using h)

/-- A cut past the first program of a sequence is a cut of the second. -/
theorem cut_bind_ge {n : ℕ} (p : Prog I α) (f : α → Prog I β) (s : σ) (h : p.calls D s ≤ n) :
    (p.bind f).cut D n s
      = (f (p.eval D s).1).cut D (n - p.calls D s) (p.eval D s).2 := by
  induction p generalizing n s with
  | pure a => simp
  | call o k ih =>
    obtain _ | n := n
    · simp at h
    · rw [call_bind, cut_call_succ, ih _ _ (by simpa using h)]
      simp

end Cut

/-! ### Programs that make certain calls only -/

/-- Every call the program can make, whatever the replies, is in `A`. -/
def Makes (A : I.Op → Prop) : Prog I α → Prop
  | .pure _ => True
  | .call o k => A o ∧ ∀ r, Makes A (k r)

section Makes

variable {A : I.Op → Prop}

theorem makes_pure (a : α) : (Prog.pure a : Prog I α).Makes A := trivial

theorem makes_perform {o : I.Op} (h : A o) : (perform o).Makes A := ⟨h, fun _ => trivial⟩

/-- The sequencing rule, and weakening. -/
theorem Makes.bind {p : Prog I α} {f : α → Prog I β} (hp : p.Makes A) (hf : ∀ a, (f a).Makes A) :
    (p.bind f).Makes A := by
  induction p with
  | pure a => exact hf a
  | call o k ih => exact ⟨hp.1, fun r => ih r (hp.2 r)⟩

theorem Makes.mono {B : I.Op → Prop} (h : ∀ o, A o → B o) {p : Prog I α} (hp : p.Makes A) :
    p.Makes B := by
  induction p with
  | pure a => trivial
  | call o k ih => exact ⟨h o hp.1, fun r => ih r (hp.2 r)⟩

/-- **What every call keeps** the program keeps, whatever fails. A call that
fails keeps everything. -/
theorem Makes.run_invariant {D : Device I σ} {J : σ → Prop}
    (hA : ∀ o s, A o → J s → J (D.exec o s).2) {p : Prog I α} (hp : p.Makes A) (plan : Plan I)
    {s : σ} (hs : J s) : J (p.run D plan s).2 := by
  induction p generalizing plan s with
  | pure a =>
    rw [run_pure]
    exact hs
  | call o k ih =>
    simp only [Prog.run]
    split
    · exact ih _ (hp.2 _) plan.shift hs
    · exact ih _ (hp.2 _) plan.shift (hA o s hp.1 hs)

/-- **A program that makes no call that changes the device** leaves it as it is,
whatever fails. -/
theorem Makes.run_snd {D : Device I σ} (hA : ∀ o s, A o → (D.exec o s).2 = s) {p : Prog I α}
    (hp : p.Makes A) (plan : Plan I) (s : σ) : (p.run D plan s).2 = s :=
  hp.run_invariant (fun o t ho ht => (hA o t ho).trans ht) plan rfl

/-- In particular when nothing fails. -/
theorem Makes.eval_snd {D : Device I σ} (hA : ∀ o s, A o → (D.exec o s).2 = s) {p : Prog I α}
    (hp : p.Makes A) (s : σ) : (p.eval D s).2 = s := by
  induction p with
  | pure a => rfl
  | call o k ih =>
    rw [eval_call, hA o s hp.1]
    exact ih _ (hp.2 _)

end Makes

/-! ### Whatever goes wrong -/

/-- The states in which a program can leave the device when calls in `A` may
fail and the power may go at any point. -/
inductive Leaves (D : Device I σ) (A : I.Op → Prop) : Prog I α → σ → σ → Prop where
  | stop (p : Prog I α) (s : σ) : Leaves D A p s s
  | exec {o : I.Op} {k : I.Reply o → Prog I α} {s s' : σ}
      (h : Leaves D A (k (D.exec o s).1) (D.exec o s).2 s') : Leaves D A (.call o k) s s'
  | fail {o : I.Op} {k : I.Reply o → Prog I α} {s s' : σ} (ho : A o)
      (h : Leaves D A (k (D.fail o)) s s') : Leaves D A (.call o k) s s'

section Leaves

variable {D : Device I σ} {A B : I.Op → Prop} {s s' : σ}

/-- The power may go after any number of calls. So a cut is one of these
ends. -/
theorem leaves_cut (p : Prog I α) (n : ℕ) (s : σ) : Leaves D A p s (p.cut D n s) := by
  induction p generalizing n s with
  | pure a =>
    rw [cut_pure]
    exact .stop _ s
  | call o k ih =>
    cases n with
    | zero => exact .stop _ s
    | succ n => exact .exec (ih _ n _)

/-- Any plan may decide which of the calls in `A` fail. So a run is another. -/
theorem leaves_run {plan : Plan I} (h : ∀ n o, plan n o = true → A o) (p : Prog I α) (s : σ) :
    Leaves D A p s (p.run D plan s).2 := by
  induction p generalizing plan s with
  | pure a => exact .stop _ s
  | call o k ih =>
    simp only [Prog.run]
    split
    · next hfail => exact .fail (h 0 o hfail) (ih _ (fun n => h (n + 1)) s)
    · exact .exec (ih _ (fun n => h (n + 1)) _)

/-- A program that makes no call leaves the device as it is. -/
theorem Leaves.eq_of_pure {a : α} (h : Leaves D A (.pure a) s s') : s' = s := by
  cases h
  rfl

/-- A call that cannot fail leaves the device alone, or it is made. This is the
inversion the proofs go by: the power goes before the call, or it succeeds, or
it is one of those that may fail. -/
theorem Leaves.of_call {o : I.Op} {k : I.Reply o → Prog I α} (h : Leaves D A (.call o k) s s') :
    s' = s ∨ Leaves D A (k (D.exec o s).1) (D.exec o s).2 s' ∨
      A o ∧ Leaves D A (k (D.fail o)) s s' := by
  cases h with
  | stop => exact .inl rfl
  | exec h => exact .inr (.inl h)
  | fail ho h => exact .inr (.inr ⟨ho, h⟩)

/-- A program whose calls neither fail nor change the device answers as it
always does. -/
theorem Leaves.after_reads (hB : ∀ o, B o → ¬ A o) (hread : ∀ o s, B o → (D.exec o s).2 = s)
    {p : Prog I α} {f : α → Prog I β} (hp : p.Makes B) (h : Leaves D A (p.bind f) s s') :
    Leaves D A (f (p.eval D s).1) s s' := by
  induction p with
  | pure a => exact h
  | call o k ih =>
    rcases h.of_call with rfl | h | ⟨ho, -⟩
    · exact .stop _ _
    · rw [hread o s hp.1] at h
      rw [eval_call, hread o s hp.1]
      exact ih _ (hp.2 _) h
    · exact absurd ho (hB o hp.1)

end Leaves

/-! ### Results that do not depend on the device -/

/-- The property holds of the result whatever every call answers. The device
does not matter, nor does what fails. -/
def Always (Q : α → Prop) : Prog I α → Prop
  | .pure a => Q a
  | .call _ k => ∀ r, Always Q (k r)

@[simp] theorem always_pure {Q : α → Prop} (a : α) :
    (Prog.pure a : Prog I α).Always Q ↔ Q a := Iff.rfl

@[simp] theorem always_call {Q : α → Prop} (o : I.Op) (k : I.Reply o → Prog I α) :
    (Prog.call o k).Always Q ↔ ∀ r, (k r).Always Q := Iff.rfl

/-- Weakening. -/
theorem Always.mono {Q R : α → Prop} (h : ∀ a, Q a → R a) {p : Prog I α} (hp : p.Always Q) :
    p.Always R := by
  induction p with
  | pure a => exact h a hp
  | call o k ih => exact fun r => ih r (hp r)

/-- The sequencing rule: what always holds of the first result is all the second
program may assume. -/
theorem Always.bind {Q : α → Prop} {R : β → Prop} {p : Prog I α} {f : α → Prog I β}
    (hp : p.Always Q) (hf : ∀ a, Q a → (f a).Always R) : (p.bind f).Always R := by
  induction p with
  | pure a => exact hf a hp
  | call o k ih => exact fun r => ih r (hp r)

/-- Nothing is known of the first result. -/
theorem always_bind_of_forall {R : β → Prop} (p : Prog I α) {f : α → Prog I β}
    (hf : ∀ a, (f a).Always R) : (p.bind f).Always R := by
  induction p with
  | pure a => exact hf a
  | call o k ih => exact fun r => ih r

/-- What always holds of the result holds of the result of every run. -/
theorem Always.run {Q : α → Prop} {p : Prog I α} (hp : p.Always Q) (D : Device I σ)
    (plan : Plan I) (s : σ) : Q (p.run D plan s).1 := by
  induction p generalizing plan s with
  | pure a => simpa using hp
  | call o k ih =>
    simp only [Prog.run]
    split
    · exact ih _ (hp _) _ _
    · exact ih _ (hp _) _ _

/-- What always holds of the result holds of the evaluated result. -/
theorem Always.eval {Q : α → Prop} {p : Prog I α} (hp : p.Always Q) (D : Device I σ) (s : σ) :
    Q (p.eval D s).1 := by
  induction p generalizing s with
  | pure a => exact hp
  | call o k ih => exact ih _ (hp _) _

/-! ### A failing call that ends the program -/

section EndsOn

variable (D : Device I σ)

/-- The plan under which call number `k` fails, if it is of the given kind. -/
def failAt (k : ℕ) (kind : I.Op → Bool) : Plan I := fun n o => decide (n = k) && kind o

/-- A call of the given kind that fails ends the program at once, with a result
in `Q`. -/
def EndsOn (kind : I.Op → Bool) (Q : α → Prop) : Prog I α → Prop
  | .pure _ => True
  | .call o k => (kind o = true → ∃ a, k (D.fail o) = .pure a ∧ Q a) ∧ ∀ r, EndsOn kind Q (k r)

variable {D} {kind : I.Op → Bool}

/-- A program that makes no call of the kind. -/
theorem EndsOn.of_not {Q : α → Prop} {o : I.Op} {k : I.Reply o → Prog I α} (h : kind o = false)
    (hk : ∀ r, (k r).EndsOn D kind Q) : (Prog.call o k).EndsOn D kind Q := by
  refine ⟨fun hkind => ?_, hk⟩
  rw [h] at hkind
  cases hkind

/-- The sequencing rule: where the first program ends early, the second one does
nothing. -/
theorem EndsOn.bind {Q : α → Prop} {R : β → Prop} {p : Prog I α} {f : α → Prog I β}
    (hp : p.EndsOn D kind Q) (hend : ∀ a, Q a → ∃ c, f a = .pure c ∧ R c)
    (hf : ∀ a, (f a).EndsOn D kind R) : (p.bind f).EndsOn D kind R := by
  induction p with
  | pure a => exact hf a
  | call o k ih =>
    obtain ⟨hfail, hk⟩ := hp
    refine ⟨fun hkind => ?_, fun r => ih r (hk r)⟩
    obtain ⟨a, ha, hQ⟩ := hfail hkind
    obtain ⟨c, hc, hR⟩ := hend a hQ
    refine ⟨c, ?_, hR⟩
    change (k (D.fail o)).bind f = .pure c
    rw [ha]
    exact hc

/-- **One failing call.** Either the call is not of the kind and nothing fails,
or the program ends there, and the device is left as if the power had gone. -/
theorem run_failAt {Q : α → Prop} {p : Prog I α} (h : p.EndsOn D kind Q) (k : ℕ) (s : σ) :
    p.run D (failAt k kind) s = p.eval D s ∨
      ∃ a, Q a ∧ p.run D (failAt k kind) s = (a, p.cut D k s) := by
  induction p generalizing k s with
  | pure a => exact .inl (by simp)
  | call o c ih =>
    obtain ⟨hfail, hc⟩ := h
    cases k with
    | zero =>
      cases hkind : kind o with
      | true =>
        obtain ⟨a, ha, hQ⟩ := hfail hkind
        refine .inr ⟨a, hQ, ?_⟩
        simp [run, failAt, hkind, ha]
      | false =>
        -- the only call that could fail does not
        have hrest : ∀ n o, (failAt 0 kind).shift n o = false := by
          intro n o
          simp [Plan.shift, failAt]
        refine .inl ?_
        rw [run, if_neg (by simp [failAt, hkind]), run_of_noFault D hrest]
        rfl
    | succ k =>
      have hshift : (failAt (k + 1) kind).shift = failAt k kind := by
        funext n o
        simp [Plan.shift, failAt]
      rw [run, if_neg (by simp [failAt]), hshift, eval_call, cut_call_succ]
      exact ih _ (hc _) k _

end EndsOn

/-! ### A device seen through an abstract state -/

section Ensures

variable (D : Device I σ) {τ : Type} (R : σ → τ → Prop)

/-- **What a program ensures.** Started where the device stands for `t`, and
without faults, it ends where the device stands for a `t'` that `Q` allows
together with the result. -/
def Ensures (t : τ) (p : Prog I α) (Q : α → τ → Prop) : Prop :=
  ∀ s, R s t → ∃ t', R (p.eval D s).2 t' ∧ Q (p.eval D s).1 t'

variable {D R} {t : τ}

theorem ensures_pure {Q : α → τ → Prop} {a : α} (h : Q a t) :
    (Prog.pure a : Prog I α).Ensures D R t Q := fun _ hs => ⟨t, hs, h⟩

theorem Ensures.mono {Q Q' : α → τ → Prop} {p : Prog I α} (hp : p.Ensures D R t Q)
    (h : ∀ a t', Q a t' → Q' a t') : p.Ensures D R t Q' := by
  intro s hs
  obtain ⟨t', ht', hQ⟩ := hp s hs
  exact ⟨t', ht', h _ _ hQ⟩

/-- The sequencing rule: the second program starts from what the first
ensures. -/
theorem Ensures.bind {Q : α → τ → Prop} {Q' : β → τ → Prop} {p : Prog I α} {f : α → Prog I β}
    (hp : p.Ensures D R t Q) (hf : ∀ a t', Q a t' → (f a).Ensures D R t' Q') :
    (p.bind f).Ensures D R t Q' := by
  intro s hs
  obtain ⟨t', ht', hQ⟩ := hp s hs
  rw [eval_bind]
  exact hf _ t' hQ _ ht'

/-- A program that answers the same wherever the device stands for `t`, and
leaves that alone. -/
theorem ensures_eq {p : Prog I α} {a : α}
    (h : ∀ s, R s t → (p.eval D s).1 = a ∧ R (p.eval D s).2 t) :
    p.Ensures D R t fun r t' => r = a ∧ t' = t := fun s hs => ⟨t, (h s hs).2, (h s hs).1, rfl⟩

end Ensures

end Prog

end DeviceProg
