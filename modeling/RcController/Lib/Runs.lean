import Mathlib.Data.List.Infix

/-!
# Runs of an event machine

A machine is a step function on states and events. A run is a list of events from a
given state (`run`). Two properties of a run are kept apart: that every step is taken
under a condition, read in the state before it (`StepsMeet`), and that every state
visited satisfies a predicate (`StatesMeet`).

`run_invariant` is the induction every safety result goes through.
`statesMeet_iff_stepsMeet` is its exact form: when a step keeps the invariant under the
condition, and breaks the observed property without it, the property holds along a run
exactly when the condition does.

A machine whose steps are idempotent ends in the same state when events are repeated
(`run_of_stutters`).

A machine whose steps answer something is compared with another one by a simulation
(`answers_eq_of_simulates`): the answers of a run agree, and so do the states after it.

What a run emits is its `trace`. When the emissions of a step are events of a second
machine that match the step, the trace matches the run (`run_refines`); read as a ghost
variable, the trace takes part in invariants (`trace_invariant`).
-/

namespace Runs

variable {σ ε : Type}

/-- The state after the events of a run. -/
def run (step : σ → ε → σ) (s : σ) (es : List ε) : σ := es.foldl step s

/-- Every step of the run is taken under a condition, which may look at the
state before it and at the event. -/
def StepsMeet (step : σ → ε → σ) (C : σ → ε → Prop) : σ → List ε → Prop
  | _, [] => True
  | s, e :: es => C s e ∧ StepsMeet step C (step s e) es

/-- Every state of the run satisfies a predicate, the first and the last
included. -/
def StatesMeet (step : σ → ε → σ) (P : σ → Prop) : σ → List ε → Prop
  | s, [] => P s
  | s, e :: es => P s ∧ StatesMeet step P (step s e) es

variable {step : σ → ε → σ} {C A : σ → ε → Prop} {I : σ → Prop} {s : σ} {es : List ε}

@[simp] theorem run_nil (s : σ) : run step s [] = s := rfl

@[simp] theorem run_cons (s : σ) (e : ε) (es : List ε) :
    run step s (e :: es) = run step (step s e) es := rfl

/-- A condition that holds of every step holds along every run. -/
theorem stepsMeet_of_forall (h : ∀ s e, C s e) (s : σ) (es : List ε) : StepsMeet step C s es := by
  induction es generalizing s with
  | nil => trivial
  | cons e es ih => exact ⟨h s e, ih _⟩

/-- A condition on the events alone. -/
theorem stepsMeet_of_mem {E : ε → Prop} (h : ∀ e ∈ es, E e) (s : σ) :
    StepsMeet step (fun _ e => E e) s es := by
  induction es generalizing s with
  | nil => trivial
  | cons e es ih =>
    exact ⟨h e List.mem_cons_self, ih (fun e' he' => h e' (List.mem_cons_of_mem e he')) _⟩

/-- The condition may be replaced by an equivalent one, and two conditions taken
together. -/
theorem stepsMeet_congr {D : σ → ε → Prop} (h : ∀ s e, C s e ↔ D s e) (s : σ) (es : List ε) :
    StepsMeet step C s es ↔ StepsMeet step D s es := by
  induction es generalizing s with
  | nil => exact Iff.rfl
  | cons e es ih => exact and_congr (h s e) (ih _)

theorem stepsMeet_and (h : StepsMeet step C s es) (h' : StepsMeet step A s es) :
    StepsMeet step (fun s e => C s e ∧ A s e) s es := by
  induction es generalizing s with
  | nil => trivial
  | cons e es ih => exact ⟨⟨h.1, h'.1⟩, ih h.2 h'.2⟩

/-- **The invariant rule.** What holds at the start and is kept by every step
taken under `C` holds after a run taken under `C`. The induction is over the
events. -/
theorem run_invariant (hstep : ∀ s e, I s → C s e → I (step s e)) (h : I s)
    (hC : StepsMeet step C s es) : I (run step s es) := by
  induction es generalizing s with
  | nil => exact h
  | cons e es ih => exact ih (hstep s e h hC.1) hC.2

/-- The invariant rule for machines without a condition. -/
theorem run_invariant_of_step (hstep : ∀ s e, I s → I (step s e)) (h : I s) (es : List ε) :
    I (run step s es) :=
  run_invariant (C := fun _ _ => True) (fun s e hI _ => hstep s e hI) h
    (stepsMeet_of_forall (fun _ _ => trivial) s es)

/-- **The two-run rule.** A relation between two states that every step keeps
holds after the same events. -/
theorem run_related {R : σ → σ → Prop} (hstep : ∀ s t e, R s t → R (step s e) (step t e)) {t : σ}
    (h : R s t) (es : List ε) : R (run step s es) (run step t es) := by
  induction es generalizing s t with
  | nil => exact h
  | cons e es ih => exact ih (hstep s t e h)

/-- The states of a run are those its prefixes end in. -/
theorem statesMeet_iff : StatesMeet step I s es ↔ ∀ p, p <+: es → I (run step s p) := by
  induction es generalizing s with
  | nil =>
    constructor
    · intro h p hp
      rw [List.prefix_nil.mp hp]
      exact h
    · intro h
      exact h [] (List.nil_prefix)
  | cons e es ih =>
    constructor
    · rintro ⟨hs, hrest⟩ p hp
      -- the empty prefix is the state itself, a longer one begins with `e`
      cases p with
      | nil => exact hs
      | cons e' p =>
        obtain ⟨rfl, hp'⟩ := List.cons_prefix_cons.mp hp
        exact ih.mp hrest p hp'
    · intro h
      refine ⟨h [] List.nil_prefix, ih.mpr fun p hp => ?_⟩
      exact h (e :: p) (List.cons_prefix_cons.mpr ⟨rfl, hp⟩)

/-- The invariant rule for every state visited. -/
theorem statesMeet_of_stepsMeet {P : σ → Prop} (hobs : ∀ s, I s → P s)
    (hkeep : ∀ s e, I s → C s e → I (step s e)) (h : I s) (hC : StepsMeet step C s es) :
    StatesMeet step P s es := by
  induction es generalizing s with
  | nil => exact hobs s h
  | cons e es ih => exact ⟨hobs s h, ih (hkeep s e h hC.1) hC.2⟩

/-- **The exact form of the invariant rule.** `A` is what is granted of every
step. `C` is what a step needs to keep the invariant `I`, and without it the
step breaks the observed property `P`. So `P` holds along a run exactly when
every step is taken under `C`. -/
theorem statesMeet_iff_stepsMeet {P : σ → Prop} (hobs : ∀ s, I s → P s)
    (hkeep : ∀ s e, I s → A s e → C s e → I (step s e))
    (hbreak : ∀ s e, I s → A s e → P (step s e) → C s e) (h : I s)
    (hA : StepsMeet step A s es) : StatesMeet step P s es ↔ StepsMeet step C s es := by
  induction es generalizing s with
  | nil => exact ⟨fun _ => trivial, fun _ => hobs s h⟩
  | cons e es ih =>
    obtain ⟨hAe, hAes⟩ := hA
    constructor
    · rintro ⟨-, hrest⟩
      have hnext : P (step s e) := statesMeet_iff.mp hrest [] List.nil_prefix
      have hC := hbreak s e h hAe hnext
      exact ⟨hC, (ih (hkeep s e h hAe hC) hAes).mp hrest⟩
    · rintro ⟨hC, hrest⟩
      exact ⟨hobs s h, (ih (hkeep s e h hAe hC) hAes).mpr hrest⟩

/-! ### Repeated events -/

/-- The second list is the first with some events repeated on the spot. -/
inductive Stutters : List ε → List ε → Prop
  | nil : Stutters [] []
  | cons (e : ε) (k : ℕ) {es ws : List ε} :
      Stutters es ws → Stutters (e :: es) (List.replicate (k + 1) e ++ ws)

/-- **A machine whose steps are idempotent does not see repetitions.** -/
theorem run_of_stutters (hidem : ∀ s e, step (step s e) e = step s e) {ws : List ε}
    (h : Stutters es ws) (s : σ) : run step s ws = run step s es := by
  induction h generalizing s with
  | nil => rfl
  | @cons e k es ws _ ih =>
    -- the repetitions of `e` after its first occurrence do nothing
    have hrep : ∀ k s, run step (step s e) (List.replicate k e) = step s e := by
      intro k
      induction k with
      | zero => exact fun s => rfl
      | succ k ihk =>
        intro s
        rw [List.replicate_succ, run_cons, hidem]
        exact ihk s
    rw [run, List.foldl_append, ← run, ← run, List.replicate_succ, run_cons, hrep, run_cons]
    exact ih _

/-! ### Machines that answer -/

section Answers

variable {τ ε' ρ : Type} {exec : σ → ε → ρ × σ} {exec' : τ → ε' → ρ × τ}

/-- The answers to a list of calls. -/
def answers (exec : σ → ε → ρ × σ) : σ → List ε → List ρ
  | _, [] => []
  | s, e :: es => (exec s e).1 :: answers exec (exec s e).2 es

/-- The state after a list of calls. -/
def after (exec : σ → ε → ρ × σ) : σ → List ε → σ := run fun s e => (exec s e).2

/-- **Simulation of one machine by another.** When related states answer a call
alike and stay related, they answer every list of calls alike, and the states
after it are related. -/
theorem answers_eq_of_simulates {R : σ → τ → Prop} {ok : ε → Prop} {f : ε → ε'}
    (hstep : ∀ s t e, R s t → ok e →
      (exec s e).1 = (exec' t (f e)).1 ∧ R (exec s e).2 (exec' t (f e)).2)
    {s : σ} {t : τ} (h : R s t) {es : List ε} (hok : ∀ e ∈ es, ok e) :
    answers exec s es = answers exec' t (es.map f) ∧
      R (after exec s es) (after exec' t (es.map f)) := by
  induction es generalizing s t with
  | nil => exact ⟨rfl, h⟩
  | cons e es ih =>
    obtain ⟨hanswer, hnext⟩ := hstep s t e h (hok e List.mem_cons_self)
    obtain ⟨hrest, hend⟩ := ih hnext fun e' he' => hok e' (List.mem_cons_of_mem e he')
    refine ⟨?_, hend⟩
    rw [List.map_cons, answers, answers, hanswer, hrest]

end Answers

/-! ### Machines that emit -/

section Trace

/-- A run of two lists of events is a run of one after the other, and the steps
of both meet the condition when each do. -/
theorem run_append (s : σ) (es fs : List ε) :
    run step s (es ++ fs) = run step (run step s es) fs := List.foldl_append

theorem stepsMeet_append {fs : List ε} (h : StepsMeet step C s es)
    (h' : StepsMeet step C (run step s es) fs) : StepsMeet step C s (es ++ fs) := by
  induction es generalizing s with
  | nil => exact h'
  | cons e es ih => exact ⟨h.1, ih h.2 h'⟩

variable {τ ε' α : Type} {emit : σ → ε → List α}

/-- What a run emits: the emissions of its steps, in order. -/
def trace (step : σ → ε → σ) (emit : σ → ε → List α) : σ → List ε → List α
  | _, [] => []
  | s, e :: es => emit s e ++ trace step emit (step s e) es

@[simp] theorem trace_nil (s : σ) : trace step emit s [] = [] := rfl

@[simp] theorem trace_cons (s : σ) (e : ε) (es : List ε) :
    trace step emit s (e :: es) = emit s e ++ trace step emit (step s e) es := rfl

/-- What a run emits, some step emits. -/
theorem exists_of_mem_trace {x : α} {es : List ε} {s : σ} (h : x ∈ trace step emit s es) :
    ∃ t e, x ∈ emit t e := by
  induction es generalizing s with
  | nil => cases h
  | cons e es ih => exact (List.mem_append.mp h).elim (fun hmem => ⟨s, e, hmem⟩) ih

/-- **Refinement, step by step.** When every step from a state of the invariant
is matched by the events it emits, a run is matched by its trace. -/
theorem run_refines_of {step' : τ → ε' → τ} {emit : σ → ε → List ε'} (abs : σ → τ)
    (hkeep : ∀ s e, I s → I (step s e))
    (hstep : ∀ s e, I s → abs (step s e) = run step' (abs s) (emit s e)) {s : σ} (h : I s)
    (es : List ε) : abs (run step s es) = run step' (abs s) (trace step emit s es) := by
  induction es generalizing s with
  | nil => rfl
  | cons e es ih =>
    rw [run_cons, trace_cons, run_append, ih (hkeep s e h), hstep s e h]

/-- The same without an invariant. -/
theorem run_refines {step' : τ → ε' → τ} {emit : σ → ε → List ε'} (abs : σ → τ)
    (hstep : ∀ s e, abs (step s e) = run step' (abs s) (emit s e)) (s : σ) (es : List ε) :
    abs (run step s es) = run step' (abs s) (trace step emit s es) :=
  run_refines_of (I := fun _ => True) abs (fun _ _ _ => trivial) (fun s e _ => hstep s e) trivial es

/-- What the abstract machine does along the trace is done under `C` when every
step of the concrete machine, from a state of the invariant, emits events that
are. -/
theorem stepsMeet_trace {step' : τ → ε' → τ} {emit : σ → ε → List ε'} {C' : τ → ε' → Prop}
    (abs : σ → τ) (hkeep : ∀ s e, I s → I (step s e))
    (hstep : ∀ s e, I s → abs (step s e) = run step' (abs s) (emit s e))
    (hmeet : ∀ s e, I s → StepsMeet step' C' (abs s) (emit s e)) {s : σ} (h : I s) (es : List ε) :
    StepsMeet step' C' (abs s) (trace step emit s es) := by
  induction es generalizing s with
  | nil => trivial
  | cons e es ih =>
    have hrest := ih (hkeep s e h)
    rw [hstep s e h] at hrest
    exact stepsMeet_append (hmeet s e h) hrest

/-- **The ghost rule.** An invariant that relates the state to what has been
emitted so far, of two kinds: it holds at the start, and every step keeps it
when its emissions are appended. -/
theorem trace_invariant {β : Type} {emit' : σ → ε → List β} {J : List α → List β → σ → Prop}
    (hstep : ∀ l m s e, J l m s → J (l ++ emit s e) (m ++ emit' s e) (step s e)) {l : List α}
    {m : List β} {s : σ} (h : J l m s) (es : List ε) :
    J (l ++ trace step emit s es) (m ++ trace step emit' s es) (run step s es) := by
  induction es generalizing l m s with
  | nil => rwa [trace_nil, trace_nil, List.append_nil, List.append_nil]
  | cons e es ih =>
    rw [trace_cons, trace_cons, ← List.append_assoc, ← List.append_assoc]
    exact ih (hstep l m s e h)

end Trace

end Runs
