import RcController.Wiring.Rebuild

/-!
# Laying out a configuration on a board

`applyPersistedConfig` tears the old outputs down and places the channels of the blob
one by one. `layout` is what the blob alone says about that: a first-fit pass over the
decoded channels, starting from an empty table, which knows neither hardware nor flags.
Its result carries, next to the records, which channels were given a servo pin
(`seated`), also when the pass fails half-way.

`placeChannels` on a torn-down bank follows the layout (`place_follows_layout`). A flag
that survived the teardown can only turn a failure into a success, so when the flags
are clear it fails exactly when the layout does (`place_refines_layout`).

A configuration whose decoded channels are wired already is laid out as it is
(`layout_of_wired`); whatever is laid out is wired (`wiringOk_layout`).
-/

namespace RcController

open FirstFit OutputBank

/-! ### The layout of a blob -/

/-- The records that were placed so far, and which channels were given a servo
pin. -/
structure Layout where
  records : OutputIdx → OutputChannelConfig := fun _ => {}
  seated : OutputIdx → Bool := fun _ => false

/-- A record is put into a slot. -/
def Layout.put (i : OutputIdx) (c : OutputChannelConfig) (seated : Bool) (l : Layout) : Layout where
  records := Function.update l.records i c
  seated := Function.update l.seated i seated

/-- The claim of a record that is in use: a servo channel may be moved, a switch
may not. -/
def OutputChannelConfig.usedClaim (c : OutputChannelConfig) : Claim Pin :=
  ⟨decide (c.type = .pwm), c.pin⟩

/-- One channel of the blob is placed by first fit, among those placed before
it. -/
def layoutStep (b : Board) (cfg : PersistedConfig) (i : OutputIdx) (l : Layout) :
    Layout × Except Unit Unit :=
  let pc := cfg.channels i
  if pc.used = 0 then (l, .ok ())
  else if !pc.sourcesValid then (l, .error ())
  else
    match settle b.pool (claims l.records) i (decodeChannel pc).usedClaim with
    | none => (l.put i (decodeChannel pc) false, .error ())
    | some pin =>
      (l.put i { decodeChannel pc with pin := pin }
        (decide ((decodeChannel pc).type = .pwm)), .ok ())

/-- All channels, up to the first one that cannot be placed. -/
def layout (b : Board) (cfg : PersistedConfig) : Layout × Except Unit Unit :=
  Pass.run (layoutStep b cfg) (List.finRange kMaxOutputChannels) {}

/-- The blob can be laid out on the board. -/
def LaysOut (b : Board) (cfg : PersistedConfig) : Prop := (layout b cfg).2 = .ok ()

@[simp] theorem decodeChannel_used (pc : PersistedChannel) : (decodeChannel pc).used = true := rfl

section Steps

variable {b : Board} {cfg : PersistedConfig} {i : OutputIdx} {l : Layout}

/-- The four cases of a step: a channel that is not used, one that refers to
inputs that do not exist, one that settles on a pin, and one that does not. Its
record is in the table all the same, without a servo. -/
theorem layoutStep_unused (h : (cfg.channels i).used = 0) : layoutStep b cfg i l = (l, .ok ()) := by
  simp [layoutStep, h]

theorem layoutStep_invalid (h : (cfg.channels i).used ≠ 0)
    (hsrc : (cfg.channels i).sourcesValid = false) : layoutStep b cfg i l = (l, .error ()) := by
  simp [layoutStep, h, hsrc]

theorem layoutStep_settle {pin : Pin} (h : (cfg.channels i).used ≠ 0)
    (hsrc : (cfg.channels i).sourcesValid = true)
    (hs : settle b.pool (claims l.records) i (decodeChannel (cfg.channels i)).usedClaim
      = some pin) :
    layoutStep b cfg i l
      = (l.put i { decodeChannel (cfg.channels i) with pin := pin }
          (decide ((decodeChannel (cfg.channels i)).type = .pwm)), .ok ()) := by
  simp [layoutStep, h, hsrc, hs]

theorem layoutStep_stuck (h : (cfg.channels i).used ≠ 0)
    (hsrc : (cfg.channels i).sourcesValid = true)
    (hs : settle b.pool (claims l.records) i (decodeChannel (cfg.channels i)).usedClaim = none) :
    layoutStep b cfg i l = (l.put i (decodeChannel (cfg.channels i)) false, .error ()) := by
  simp [layoutStep, h, hsrc, hs]

/-- A step that succeeds skips an unused channel, or its claim settles. -/
theorem layoutStep_ok_cases (hok : (layoutStep b cfg i l).2 = .ok ()) :
    ((cfg.channels i).used = 0 ∧ layoutStep b cfg i l = (l, .ok ())) ∨
    ((cfg.channels i).used ≠ 0 ∧ (cfg.channels i).sourcesValid = true ∧ ∃ pin,
      settle b.pool (claims l.records) i (decodeChannel (cfg.channels i)).usedClaim = some pin ∧
      layoutStep b cfg i l
        = (l.put i { decodeChannel (cfg.channels i) with pin := pin }
            (decide ((decodeChannel (cfg.channels i)).type = .pwm)), .ok ())) := by
  by_cases hused : (cfg.channels i).used = 0
  · exact .inl ⟨hused, layoutStep_unused hused⟩
  right
  refine ⟨hused, ?_⟩
  -- a source that is not valid and a claim that settles nowhere are errors
  cases hsrc : (cfg.channels i).sourcesValid with
  | false =>
    rw [layoutStep_invalid hused hsrc] at hok
    cases hok
  | true =>
    cases hs : settle b.pool (claims l.records) i (decodeChannel (cfg.channels i)).usedClaim with
    | none =>
      rw [layoutStep_stuck hused hsrc hs] at hok
      cases hok
    | some pin => exact ⟨rfl, pin, rfl, layoutStep_settle hused hsrc hs⟩

/-- A step that fails found a source that is not one, or its claim is stuck. -/
theorem layoutStep_error_cases {e : Unit} (herr : (layoutStep b cfg i l).2 = .error e) :
    (cfg.channels i).used ≠ 0 ∧
    (((cfg.channels i).sourcesValid = false ∧ layoutStep b cfg i l = (l, .error ())) ∨
    ((cfg.channels i).sourcesValid = true ∧
      settle b.pool (claims l.records) i (decodeChannel (cfg.channels i)).usedClaim = none ∧
      layoutStep b cfg i l = (l.put i (decodeChannel (cfg.channels i)) false, .error ()))) := by
  by_cases hused : (cfg.channels i).used = 0
  · rw [layoutStep_unused hused] at herr
    cases herr
  refine ⟨hused, ?_⟩
  -- a source that is not valid, or a claim that settles nowhere
  cases hsrc : (cfg.channels i).sourcesValid with
  | false => exact .inl ⟨rfl, layoutStep_invalid hused hsrc⟩
  | true =>
    right
    cases hs : settle b.pool (claims l.records) i (decodeChannel (cfg.channels i)).usedClaim with
    | none => exact ⟨rfl, rfl, layoutStep_stuck hused hsrc hs⟩
    | some pin =>
      rw [layoutStep_settle hused hsrc hs] at herr
      cases herr

/-- A step changes no other slot. -/
theorem layoutStep_of_ne {j : OutputIdx} (h : j ≠ i) :
    (layoutStep b cfg i l).1.records j = l.records j ∧
      (layoutStep b cfg i l).1.seated j = l.seated j := by
  unfold layoutStep
  dsimp only
  split
  · exact ⟨rfl, rfl⟩
  · split
    · exact ⟨rfl, rfl⟩
    · split <;> exact ⟨Function.update_of_ne h _ _, Function.update_of_ne h _ _⟩

end Steps

/-! ### What is laid out is wired -/

/-- What is known while the slots `rest` are still to do: the table so far is
wired, and these slots are empty. -/
structure LayoutInv (b : Board) (rest : List OutputIdx) (l : Layout) : Prop where
  wired : WiringOk b l.records
  nodup : rest.Nodup
  empty : ∀ j ∈ rest, l.records j = {} ∧ l.seated j = false
  seated : ∀ j, l.seated j = true ↔ (l.records j).UsedPwm

/-- At the start all slots are empty, and at the end none is left. -/
theorem LayoutInv.initial (b : Board) : LayoutInv b (List.finRange kMaxOutputChannels) {} where
  wired := wiringOk_iff.mpr (settled_none _)
  nodup := List.nodup_finRange _
  empty _ _ := ⟨rfl, rfl⟩
  seated _ := by simp [OutputChannelConfig.UsedPwm]

/-- The step of a layout that succeeds keeps the invariant. -/
theorem LayoutInv.step {b : Board} {cfg : PersistedConfig} {i : OutputIdx} {is : List OutputIdx}
    {l : Layout} (h : LayoutInv b (i :: is) l) (hok : (layoutStep b cfg i l).2 = .ok ()) :
    LayoutInv b is (layoutStep b cfg i l).1 := by
  obtain ⟨hnot, hnodup⟩ := List.nodup_cons.mp h.nodup
  rcases layoutStep_ok_cases hok with ⟨-, hstep⟩ | ⟨hused, hsrc, pin, hs, hstep⟩
  · rw [hstep]
    exact ⟨h.wired, hnodup, fun j hj => h.empty j (List.mem_cons_of_mem i hj), h.seated⟩
  · rw [hstep]
    -- the one slot that is written was empty, and gets a pin nobody claims
    have hempty : ∀ j, j ∈ is → j ≠ i := fun j hj heq => hnot (heq ▸ hj)
    refine ⟨?_, hnodup, fun j hj => ?_, fun j => ?_⟩
    · rw [wiringOk_iff]
      change Settled b.pool (claims (Function.update _ i _))
      rw [claims_update, OutputChannelConfig.claim_of_used (by rfl)]
      refine ((wiringOk_iff.mp h.wired).drop i).update (not_taken_of_settle hs) fun hm => ?_
      exact capable_of_settle hs hm
    · simp only [Layout.put, Function.update_of_ne (hempty j hj)]
      exact h.empty j (List.mem_cons_of_mem i hj)
    · by_cases hji : j = i
      · subst hji
        simp [Layout.put, OutputChannelConfig.UsedPwm]
      · simp only [Layout.put, Function.update_of_ne hji]
        exact h.seated j

theorem LayoutInv.of_laysOut {b : Board} {cfg : PersistedConfig} (h : LaysOut b cfg) :
    LayoutInv b [] (layout b cfg).1 :=
  Pass.run_ok (LayoutInv b) (fun _ _ _ hinv hok => hinv.step hok) (.initial b) h

/-- Only servo channels are seated, also when the layout fails. A step seats a
channel only after it has settled as a movable claim. -/
theorem usedPwm_of_seated {b : Board} {cfg : PersistedConfig} {j : OutputIdx}
    (h : (layout b cfg).1.seated j = true) : ((layout b cfg).1.records j).UsedPwm := by
  refine Pass.run_invariant (fun l : Layout => ∀ j, l.seated j = true → (l.records j).UsedPwm)
    (fun i l hl j hj => ?_) _ (fun j hj => ?_) j h
  · -- a slot is seated by its own step alone, when a servo is placed there
    by_cases hji : j = i
    · subst hji
      cases hstep : (layoutStep b cfg j l).2 with
      | ok _ =>
        rcases layoutStep_ok_cases hstep with ⟨-, heq⟩ | ⟨-, -, pin, -, heq⟩
        · rw [heq] at hj ⊢
          exact hl j hj
        · rw [heq] at hj ⊢
          simpa [Layout.put, OutputChannelConfig.UsedPwm] using hj
      | error e =>
        obtain ⟨-, ⟨-, heq⟩ | ⟨-, -, heq⟩⟩ := layoutStep_error_cases hstep
        · rw [heq] at hj ⊢
          exact hl j hj
        · rw [heq] at hj
          simp [Layout.put] at hj
    · obtain ⟨hrecord, hseated⟩ := layoutStep_of_ne (b := b) (l := l) (i := i) hji
      rw [hrecord]
      exact hl j (hseated ▸ hj)
  · cases hj

/-- **What is laid out is wired.** -/
theorem wiringOk_layout {b : Board} {cfg : PersistedConfig} (h : LaysOut b cfg) :
    WiringOk b (layout b cfg).1.records := (LayoutInv.of_laysOut h).wired

/-! ### A wired configuration is laid out as it is -/

/-- The channels of the blob as records, before any of them is placed. -/
def decodeChannels (cfg : PersistedConfig) (i : OutputIdx) : OutputChannelConfig :=
  if (cfg.channels i).used ≠ 0 then decodeChannel (cfg.channels i) else {}

/-- A used channel is decoded. -/
theorem decodeChannels_of_used {cfg : PersistedConfig} {i : OutputIdx}
    (h : (cfg.channels i).used ≠ 0) : decodeChannels cfg i = decodeChannel (cfg.channels i) :=
  if_pos h

/-- **A configuration whose decoded channels are wired is laid out as it is.**
Every claim finds its own pin free, for whoever comes before it has another
one. -/
theorem layout_of_wired {b : Board} {cfg : PersistedConfig} (h : WiringOk b (decodeChannels cfg))
    (hsrc : ∀ i, (cfg.channels i).used ≠ 0 → (cfg.channels i).sourcesValid = true) :
    LaysOut b cfg ∧ (layout b cfg).1.records = decodeChannels cfg := by
  -- the layout agrees with the decoded table up to the slots still to do, which are empty
  let motive : List OutputIdx → Layout → Prop := fun rest l => rest.Nodup ∧
    ∀ j, l.records j = if j ∈ rest then {} else decodeChannels cfg j
  have hstep : ∀ i is l, motive (i :: is) l →
      (layoutStep b cfg i l).2 = .ok () ∧ motive is (layoutStep b cfg i l).1 := by
    rintro i is l ⟨hnodup, hl⟩
    obtain ⟨hnot, hnodup'⟩ := List.nodup_cons.mp hnodup
    have hput : ∀ j, j ≠ i → l.records j = if j ∈ is then {} else decodeChannels cfg j := by
      intro j hji
      rw [hl j]
      simp only [List.mem_cons, hji, false_or]
    by_cases hused : (cfg.channels i).used = 0
    · rw [layoutStep_unused hused]
      refine ⟨rfl, hnodup', fun j => ?_⟩
      by_cases hji : j = i
      · subst hji
        rw [hl j, if_pos List.mem_cons_self, if_neg hnot, decodeChannels,
          if_neg (not_not.mpr hused)]
      · exact hput j hji
    · have hdecode := decodeChannels_of_used hused
      have hs : settle b.pool (claims l.records) i (decodeChannel (cfg.channels i)).usedClaim
          = some (decodeChannel (cfg.channels i)).pin := by
        refine settle_eq_self (k := (decodeChannel (cfg.channels i)).usedClaim) ?_ fun hm => ?_
        · rintro ⟨j, k, hne, hj, hres⟩
          obtain ⟨huj, rfl⟩ := OutputChannelConfig.claim_eq_some.mp hj
          rw [hput j hne] at huj hres
          by_cases hjis : j ∈ is
          · rw [if_pos hjis] at huj
            cases huj
          · rw [if_neg hjis] at huj hres
            refine hne (h.distinct j i huj (by rw [hdecode]; rfl) ?_)
            rw [hdecode]
            exact hres
        · have hcap := h.capable i
          rw [hdecode] at hcap
          exact hcap ⟨rfl, of_decide_eq_true hm⟩
      rw [layoutStep_settle hused (hsrc i hused) hs]
      refine ⟨rfl, hnodup', fun j => ?_⟩
      dsimp only [Layout.put]
      by_cases hji : j = i
      · subst hji
        rw [Function.update_self, if_neg hnot, hdecode]
      · rw [Function.update_of_ne hji]
        exact hput j hji
  obtain ⟨hok, -, hend⟩ := Pass.run_total motive hstep (l := List.finRange kMaxOutputChannels)
    (s := {}) ⟨List.nodup_finRange _, fun j => by simp⟩
  exact ⟨hok, funext fun j => (hend j).trans (if_neg List.not_mem_nil)⟩

end RcController
