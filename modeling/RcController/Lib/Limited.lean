import RcController.Lib.FirstFit

/-!
# First fit with limited room

In a limited pass a movable claim is also refused when there is no room for it, whatever
resource is free. A pass that is refused on the way stops there, and what it did so far
stays done.

Here a settled table is edited in one slot `e`, passed over, given its old claim back in
`e`, and passed over again. One claim at most is moved by the first pass: the movable one
before `e` that wants what the edit wants (`Displaced`). The second pass moves it back only
if it was moved onto what `e` held before, and its own resource is the first one free by
then (`ComesBack`). So `limited_edit_back_iff`: the old table is back exactly when every
displaced claim comes back.
-/

namespace FirstFit

variable {ι ρ : Type} [DecidableEq ι] [DecidableEq ρ] [Fintype ι]

/-! ### Limited passes -/

/-- A step with a limit: a movable claim needs room besides a resource. -/
def limitedStep (P : Pool ρ) (room : ι → Bool) (i : ι) (c : Claims ι ρ) :
    Claims ι ρ × Except Unit Unit :=
  match c i with
  | none => (c, .ok ())
  | some k => if k.movable && !room i then (c, .error ()) else settleStep P i c

def limitedAll (P : Pool ρ) (room : ι → Bool) (l : List ι) (c : Claims ι ρ) :
    Claims ι ρ × Except Unit Unit :=
  Pass.run (limitedStep P room) l c

section Step

variable {P : Pool ρ} {room : ι → Bool} {c : Claims ι ρ} {i : ι} {k : Claim ρ}

/-- A slot without a claim needs no room. -/
theorem limitedStep_of_none (h : c i = none) : limitedStep P room i c = (c, .ok ()) := by
  unfold limitedStep
  rw [h]

/-- A movable claim without room is refused. -/
theorem limitedStep_of_full (h : c i = some k) (hm : k.movable = true) (hroom : room i = false) :
    limitedStep P room i c = (c, .error ()) := by
  unfold limitedStep
  rw [h]
  simp [hm, hroom]

/-- A claim with room, or one that needs none, is settled as before. -/
theorem limitedStep_of_room (h : ∀ k, c i = some k → k.movable = true → room i = true) :
    limitedStep P room i c = settleStep P i c := by
  unfold limitedStep
  cases hi : c i with
  | none => exact (settleStep_of_none hi).symm
  | some k =>
    have hroom : (k.movable && !room i) = false := by
      cases hm : k.movable with
      | false => rfl
      | true => simp [h k hi hm]
    simp [hroom]

/-- A step without room does nothing; else it is the step of an unlimited
pass. -/
theorem limitedStep_cases (P : Pool ρ) (room : ι → Bool) (i : ι) (c : Claims ι ρ) :
    limitedStep P room i c = (c, .error ()) ∨ limitedStep P room i c = settleStep P i c := by
  by_cases h : ∀ k, c i = some k → k.movable = true → room i = true
  · exact .inr (limitedStep_of_room h)
  · push Not at h
    obtain ⟨k, hk, hm, hfull⟩ := h
    exact .inl (limitedStep_of_full hk hm (by simpa using hfull))

/-- A step changes no slot but its own. -/
theorem limitedStep_of_ne {j : ι} (hne : j ≠ i) : (limitedStep P room i c).1 j = c j := by
  rcases limitedStep_cases P room i c with h | h
  · rw [h]
  · rw [h]
    exact settleStep_of_ne hne

/-- **A settled table is left alone**, wherever the room runs out. -/
theorem limitedAll_of_settled (h : Settled P c) (l : List ι) : (limitedAll P room l c).1 = c := by
  refine Pass.run_invariant (fun c' => c' = c) (fun i c' hc' => ?_) l rfl
  rw [hc']
  rcases limitedStep_cases P room i c with hstep | hstep
  · rw [hstep]
  · rw [hstep, settleStep_of_settled h]

/-- Slots whose steps do nothing end the pass or are passed over. -/
theorem limitedAll_append_of_keep {before rest : List ι}
    (h : ∀ i ∈ before, (limitedStep P room i c).1 = c) :
    (limitedAll P room (before ++ rest) c).1 = c ∨
      limitedAll P room (before ++ rest) c = limitedAll P room rest c := by
  induction before with
  | nil => exact .inr rfl
  | cons i is ih =>
    have hi := h i List.mem_cons_self
    unfold limitedAll at ih ⊢
    rw [List.cons_append]
    cases hstep : (limitedStep P room i c).2 with
    | error _ =>
      -- the pass stops here, with the table as it was
      rw [Pass.run_cons_error hstep]
      exact .inl hi
    | ok _ =>
      rw [Pass.run_cons_ok hstep, hi]
      exact ih fun j hj => h j (List.mem_cons_of_mem i hj)

/-- Past slots whose steps succeed and do nothing, a pass depends on its first
change: when that settles the table, nothing more happens. -/
theorem limitedAll_first_change {before after : List ι} {c' : Claims ι ρ}
    (hbefore : ∀ j ∈ before, limitedStep P room j c = (c, .ok ()))
    (hi : limitedStep P room i c = (c', .ok ())) (hsettled : Settled P c') :
    (limitedAll P room (before ++ i :: after) c).1 = c' := by
  unfold limitedAll
  rw [Pass.run_append, Pass.run_eq_self hbefore]
  dsimp only
  rw [Pass.run_cons_ok (by rw [hi]), hi]
  exact limitedAll_of_settled hsettled after

end Step

/-! ### An edit and its way back -/

/-- Slot `i` is displaced by the edit: it has a movable claim to what `e` now
claims, there is room for it, and the first resource that is free for it is
`q`. -/
structure Displaced (P : Pool ρ) (room : ι → Bool) (c : Claims ι ρ) (e : ι) (ke : Claim ρ) (i : ι)
    (k : Claim ρ) (q : ρ) : Prop where
  claim : c i = some k
  movable : k.movable = true
  clash : k.res = ke.res
  room : room i = true
  found : P.scan.find? (P.avail (Function.update c e (some ke)) i) = some q

/-- The displaced slot comes back: what `e` held before is the place it was
moved to, and its own resource is the first that is free for it in the old
table. -/
def ComesBack (P : Pool ρ) (c : Claims ι ρ) (e i : ι) (k : Claim ρ) (q : ρ) : Prop :=
  (∃ l, c e = some l ∧ l.res = q) ∧ P.scan.find? (P.avail c i) = some k.res

section Edit

variable {P : Pool ρ} {room room' : ι → Bool} {c : Claims ι ρ} {e i : ι} {k ke : Claim ρ} {q : ρ}

/-- What is free for a slot depends on the other slots. -/
theorem avail_update_self (c : Claims ι ρ) (i : ι) (k : Option (Claim ρ)) :
    P.avail (Function.update c i k) i = P.avail c i := by
  funext r
  unfold Pool.avail
  simp only [taken_update_of_eq]

omit [DecidableEq ρ] [Fintype ι] in
/-- An edit of a settled table leaves it settled but for the slot of the
edit. -/
theorem settled_edit (h : Settled P c) (e : ι) (ke : Option (Claim ρ)) :
    Settled P (Function.update (Function.update c e ke) e none) := by
  rw [Function.update_idem]
  exact h.drop e

/-- A movable claim that cannot have its own resource gets the first available
one. -/
theorem settle_of_taken (hm : k.movable = true) (htaken : Taken c i k.res) :
    settle P c i k = P.scan.find? (P.avail c i) := by
  have havail : ¬ P.avail c i k.res = true := fun h => (Pool.avail_iff.mp h).2 htaken
  rw [settle, if_pos hm, pick, if_neg havail]

/-- The step at a slot before `e` does nothing unless the slot is displaced. -/
theorem limitedStep_edit (h : Settled P c) (hie : i ≠ e)
    (hnone : ∀ k q, ¬ Displaced P room c e ke i k q) :
    (limitedStep P room i (Function.update c e (some ke))).1 = Function.update c e (some ke) := by
  rcases limitedStep_cases P room i (Function.update c e (some ke)) with hstep | hstep
  · rw [hstep]
  rw [hstep]
  cases hi : c i with
  | none => rw [settleStep_of_none (by rw [Function.update_of_ne hie, hi])]
  | some k =>
    have hi' : Function.update c e (some ke) i = some k := by rw [Function.update_of_ne hie, hi]
    by_cases hclash : k.res = ke.res
    swap
    · rw [settleStep_of_no_clash (settled_edit h e _) hie fun k' ke' hk' hke' => ?_]
      rw [hi'] at hk'
      rw [Function.update_self] at hke'
      obtain rfl := Option.some.inj hk'
      obtain rfl := Option.some.inj hke'
      exact hclash
    have htaken : Taken (Function.update c e (some ke)) i k.res :=
      ⟨e, ke, Ne.symm hie, Function.update_self .., hclash.symm⟩
    cases hs : settle P (Function.update c e (some ke)) i k with
    | none => rw [settleStep_of_stuck hi' hs]
    | some q =>
      have hm : k.movable = true := by
        by_contra hm
        rw [settle, if_neg hm, if_pos htaken] at hs
        cases hs
      rw [settle_of_taken hm htaken] at hs
      cases hroom : room i with
      | true => exact absurd ⟨hi, hm, hclash, hroom, hs⟩ (hnone k q)
      | false =>
        -- the step was refused after all
        rw [← hstep, limitedStep_of_full hi' hm hroom]

/-- **A pass after an edit that displaces nobody** leaves the other slots. -/
theorem limitedAll_edit (h : Settled P c) {before after : List ι} (hbefore : ∀ i ∈ before, i ≠ e)
    (hnone : ∀ i ∈ before, ∀ k q, ¬ Displaced P room c e ke i k q) {j : ι} (hj : j ≠ e) :
    (limitedAll P room (before ++ e :: after) (Function.update c e (some ke))).1 j = c j := by
  have hkeep : ∀ i ∈ before, (limitedStep P room i (Function.update c e (some ke))).1
      = Function.update c e (some ke) := fun i hi =>
    limitedStep_edit h (hbefore i hi) (hnone i hi)
  -- up to `e` nothing changes: the pass stops there or gets to `e`
  rcases @limitedAll_append_of_keep _ _ _ _ _ P room _ before (e :: after) hkeep with hsame | hrest
  · rw [hsame, Function.update_of_ne hj]
  rw [hrest]
  unfold limitedAll
  cases he : (limitedStep P room e (Function.update c e (some ke))).2 with
  | error _ => rw [Pass.run_cons_error he, limitedStep_of_ne hj, Function.update_of_ne hj]
  | ok _ =>
    -- once `e`'s step succeeds the table is settled, and the rest of the pass is idle
    have hsettled : Settled P (limitedStep P room e (Function.update c e (some ke))).1 := by
      rcases limitedStep_cases P room e (Function.update c e (some ke)) with hstep | hstep
      · rw [hstep] at he
        cases he
      rw [hstep] at he ⊢
      have hself : Function.update c e (some ke) e = some ke := Function.update_self ..
      cases hs : settle P (Function.update c e (some ke)) e ke with
      | none =>
        rw [settleStep_of_stuck hself hs] at he
        cases he
      | some r =>
        rw [settleStep_of_settle hself hs]
        exact (settled_edit h e _).update (not_taken_of_settle hs) fun hm => capable_of_settle hs hm
    rw [Pass.run_cons_ok he]
    change (limitedAll P room after _).1 j = _
    rw [limitedAll_of_settled hsettled, limitedStep_of_ne hj, Function.update_of_ne hj]

/-- What a displaced claim knows of the place it is moved to. -/
theorem Displaced.avail (h : Displaced P room c e ke i k q) :
    P.capable q = true ∧ ¬ Taken (Function.update c e (some ke)) i q :=
  Pool.avail_iff.mp (List.find?_some h.found)

/-- The place is another one. -/
theorem Displaced.ne (h : Displaced P room c e ke i k q) (hie : i ≠ e) : q ≠ k.res := by
  rintro rfl
  exact h.avail.2 ⟨e, ke, Ne.symm hie, Function.update_self .., h.clash.symm⟩

/-- **A pass after an edit that displaces a claim** moves that claim, and
nothing else. That is its first change, and it settles the table. -/
theorem limitedAll_displaced (h : Settled P c) (hd : Displaced P room c e ke i k q)
    {before after : List ι} (hie : i ≠ e) (hbefore : ∀ j ∈ before, j ≠ e ∧ j ≠ i ∧ room j = true) :
    (limitedAll P room (before ++ i :: after) (Function.update c e (some ke))).1
      = Function.update (Function.update c e (some ke)) i (some { k with res := q }) := by
  have hi : Function.update c e (some ke) i = some k := by rw [Function.update_of_ne hie, hd.claim]
  have htaken : Taken (Function.update c e (some ke)) i k.res :=
    ⟨e, ke, Ne.symm hie, Function.update_self .., hd.clash.symm⟩
  -- at the turn of slot `i` its resource is the one that the edit asks for, so it settles
  -- on `q`
  have hs : settle P (Function.update c e (some ke)) i k = some q :=
    (settle_of_taken hd.movable htaken).trans hd.found
  have hstep : limitedStep P room i (Function.update c e (some ke))
      = (Function.update (Function.update c e (some ke)) i (some { k with res := q }), .ok ()) := by
    rw [limitedStep_of_room fun _ _ _ => hd.room, settleStep_of_settle hi hs]
  refine limitedAll_first_change (fun j hj => ?_) hstep ?_
  · -- in a settled table `k` is the only claim on the resource that `e` now asks for
    obtain ⟨hje, hji, hroom⟩ := hbefore j hj
    rw [limitedStep_of_room fun _ _ _ => hroom]
    refine settleStep_of_no_clash (settled_edit h e _) hje fun l ke' hl hke' hres => ?_
    rw [Function.update_of_ne hje] at hl
    rw [Function.update_self] at hke'
    obtain rfl := Option.some.inj hke'
    exact hji (h.distinct hl hd.claim (hres.trans hd.clash.symm))
  · -- without slot `i` the edit clashes with nobody
    have hothers : Settled P (Function.update (Function.update c e (some ke)) i none) := by
      rw [Function.update_comm (Ne.symm hie)]
      have hdrop : Settled P (Function.update (Function.update c i none) e none) :=
        (h.drop i).drop e
      refine hdrop.update ?_ fun _ => ?_
      · rintro ⟨j, l, hje, hl, hres⟩
        by_cases hji : j = i
        · rw [hji, Function.update_self] at hl
          cases hl
        · rw [Function.update_of_ne hji] at hl
          exact hji (h.distinct hl hd.claim (hres.trans hd.clash.symm))
      · rw [← hd.clash]
        exact h.capable hd.claim hd.movable
    exact hothers.update hd.avail.2 fun _ => hd.avail.1

/-! The table with one displaced claim, from where the second pass starts. -/

/-- It is not the old table, for the displaced claim is elsewhere. -/
theorem Displaced.moved_ne (hd : Displaced P room c e ke i k q) (hie : i ≠ e) :
    Function.update c i (some { k with res := q }) ≠ c := by
  intro heq
  have hi := congrFun heq i
  rw [Function.update_self, hd.claim] at hi
  exact hd.ne hie (congrArg Claim.res (Option.some.inj hi))

/-- When the old claim of `e` is not on `q`, nobody is, and the table is settled
as it is. -/
theorem Displaced.settled_moved (h : Settled P c) (hd : Displaced P room c e ke i k q)
    (he : ¬ ∃ l, c e = some l ∧ l.res = q) :
    Settled P (Function.update c i (some { k with res := q })) := by
  refine (h.drop i).update ?_ fun _ => hd.avail.1
  rintro ⟨j, l, hji, hl, hres⟩
  by_cases hje : j = e
  · exact he ⟨l, hje ▸ hl, hres⟩
  · exact hd.avail.2 ⟨j, l, hji, by rwa [Function.update_of_ne hje], hres⟩

/-- When it is, the displaced claim looks for another place. -/
theorem Displaced.settle_moved (hd : Displaced P room c e ke i k q) (hie : i ≠ e) {l : Claim ρ}
    (hl : c e = some l) (hres : l.res = q) :
    settle P (Function.update c i (some { k with res := q })) i { k with res := q }
      = P.scan.find? (P.avail c i) := by
  have htaken : Taken (Function.update c i (some { k with res := q })) i q :=
    ⟨e, l, Ne.symm hie, by rwa [Function.update_of_ne (Ne.symm hie)], hres⟩
  rw [settle_of_taken (k := { k with res := q }) hd.movable htaken, avail_update_self]

/-- The other slots are idle: `e` is the only one that clashes. -/
theorem limitedStep_moved (h : Settled P c) {l : Claim ρ} (hl : c e = some l) (hres : l.res = q)
    {j : ι} (hje : j ≠ e) (hji : j ≠ i) (hroom : room' j = true) :
    limitedStep P room' j (Function.update c i (some { k with res := q }))
      = (Function.update c i (some { k with res := q }), .ok ()) := by
  rw [limitedStep_of_room fun _ _ _ => hroom]
  refine settleStep_of_no_clash (settled_edit h i _) hji fun l' ki hl' hki hres' => ?_
  rw [Function.update_of_ne hji] at hl'
  rw [Function.update_self] at hki
  obtain rfl := Option.some.inj hki
  exact hje (h.distinct hl' hl (hres'.trans hres.symm))

/-- **The second pass over a table with one displaced claim.** Every slot but
the displaced one is idle in it, so the old table is back when the displaced
claim is. -/
theorem limitedAll_back_iff (h : Settled P c) (hd : Displaced P room c e ke i k q)
    {before after : List ι} (hie : i ≠ e) (hbefore : ∀ j ∈ before, j ≠ e ∧ j ≠ i)
    (hroom : (c e).isSome = true → room' i = true ∧ ∀ j ∈ before, room' j = true) :
    (limitedAll P room' (before ++ i :: after)
      (Function.update c i (some { k with res := q }))).1 = c ↔
      ComesBack P c e i k q := by
  by_cases he : ∃ l, c e = some l ∧ l.res = q
  swap
  · rw [limitedAll_of_settled (hd.settled_moved h he)]
    exact iff_of_false (hd.moved_ne hie) fun hback => he hback.1
  obtain ⟨l, hl, hres⟩ := he
  obtain ⟨hroomi, hroomj⟩ := hroom (by rw [hl]; rfl)
  have hback : ComesBack P c e i k q ↔ P.scan.find? (P.avail c i) = some k.res :=
    and_iff_right ⟨l, hl, hres⟩
  have hself : Function.update c i (some { k with res := q }) i = some { k with res := q } :=
    Function.update_self ..
  have hs := hd.settle_moved hie hl hres
  have hidle : ∀ j ∈ before,
      limitedStep P room' j (Function.update c i (some { k with res := q }))
        = (Function.update c i (some { k with res := q }), .ok ()) := fun j hj =>
    limitedStep_moved h hl hres (hbefore j hj).1 (hbefore j hj).2 (hroomj j hj)
  rw [hback]
  cases hfind : P.scan.find? (P.avail c i) with
  | none =>
    -- nothing is free any more: the claim stays where it was put
    rw [hfind] at hs
    have hstep : limitedStep P room' i (Function.update c i (some { k with res := q }))
        = (Function.update c i (some { k with res := q }), .error ()) := by
      rw [limitedStep_of_room fun _ _ _ => hroomi, settleStep_of_stuck hself hs]
    unfold limitedAll
    rw [Pass.run_append, Pass.run_eq_self hidle]
    dsimp only
    rw [Pass.run_cons_error (by rw [hstep]), hstep]
    exact iff_of_false (hd.moved_ne hie) nofun
  | some r =>
    rw [hfind] at hs
    obtain ⟨hcap, hfree⟩ := Pool.avail_iff.mp (List.find?_some hfind)
    have hstep : limitedStep P room' i (Function.update c i (some { k with res := q }))
        = (Function.update c i (some { k with res := r }), .ok ()) := by
      rw [limitedStep_of_room fun _ _ _ => hroomi, settleStep_of_settle hself hs,
        Function.update_idem]
    rw [limitedAll_first_change hidle hstep ((h.drop i).update hfree fun _ => hcap)]
    constructor
    · intro heq
      have hi := congrFun heq i
      rw [Function.update_self, hd.claim] at hi
      exact congrArg some (congrArg Claim.res (Option.some.inj hi))
    · intro hr
      obtain rfl := Option.some.inj hr
      rw [show ({ k with res := k.res } : Claim ρ) = k from rfl, ← hd.claim,
        Function.update_eq_self]

/-- **When an edit and its way back leave no trace.** The slots of the list are
passed over twice: once with the claim `ke` in slot `e`, once with the old one.
The room only gets less along the list, and it is the same in both passes when
`e` had a claim. -/
theorem limited_edit_back_iff (h : Settled P c) {before after : List ι}
    (hnodup : (before ++ e :: after).Nodup)
    (hless : before.Pairwise fun j i => room i = true → room j = true)
    (hsame : (c e).isSome = true → ∀ i ∈ before, room' i = room i) :
    (limitedAll P room' (before ++ e :: after)
        (Function.update (limitedAll P room (before ++ e :: after)
          (Function.update c e (some ke))).1 e (c e))).1 = c ↔
      ∀ i ∈ before, ∀ k q, Displaced P room c e ke i k q → ComesBack P c e i k q := by
  have hbefore : ∀ i ∈ before, i ≠ e := by
    rintro i hi rfl
    exact (List.nodup_append.mp hnodup).2.2 i hi i List.mem_cons_self rfl
  by_cases hnone : ∀ i ∈ before, ∀ k q, ¬ Displaced P room c e ke i k q
  · have hback : Function.update (limitedAll P room (before ++ e :: after)
        (Function.update c e (some ke))).1 e (c e) = c := by
      funext j
      by_cases hj : j = e
      · rw [hj, Function.update_self]
      · rw [Function.update_of_ne hj, limitedAll_edit h hbefore hnone hj]
    rw [hback, limitedAll_of_settled h]
    exact iff_of_true rfl fun i hi k q hd => absurd hd (hnone i hi k q)
  push Not at hnone
  obtain ⟨i, hi, k, q, hd⟩ := hnone
  -- the slots before `i` have room, as `i` does
  have hie := hbefore i hi
  obtain ⟨l₁, l₂, rfl⟩ := List.append_of_mem hi
  have hsplit : l₁ ++ i :: l₂ ++ e :: after = l₁ ++ i :: (l₂ ++ e :: after) := by simp
  rw [hsplit] at hnodup ⊢
  have hl₁ : ∀ j ∈ l₁, j ≠ e ∧ j ≠ i ∧ room j = true := by
    intro j hj
    refine ⟨hbefore j (List.mem_append_left _ hj), ?_, ?_⟩
    · rintro rfl
      exact (List.nodup_append.mp hnodup).2.2 j hj j List.mem_cons_self rfl
    · exact (List.pairwise_append.mp hless).2.2 j hj i List.mem_cons_self hd.room
  have hmoved : Function.update (Function.update (Function.update c e (some ke)) i
      (some { k with res := q })) e (c e) = Function.update c i (some { k with res := q }) := by
    rw [Function.update_comm hie, Function.update_idem, Function.update_eq_self]
  rw [limitedAll_displaced h hd hie hl₁, hmoved,
    limitedAll_back_iff h hd hie (fun j hj => ⟨(hl₁ j hj).1, (hl₁ j hj).2.1⟩) fun he =>
      ⟨(hsame he i hi).trans hd.room, fun j hj =>
        (hsame he j (List.mem_append_left _ hj)).trans (hl₁ j hj).2.2⟩]
  refine ⟨fun hback i' hi' k' q' hd' => ?_, fun hall => hall i hi k q hd⟩
  -- two displaced claims are one
  obtain rfl : i' = i := h.distinct hd'.claim hd.claim (hd'.clash.trans hd.clash.symm)
  obtain rfl : k' = k := Option.some.inj (hd'.claim.symm.trans hd.claim)
  obtain rfl : q' = q := Option.some.inj (hd'.found.symm.trans hd.found)
  exact hback

end Edit

end FirstFit
