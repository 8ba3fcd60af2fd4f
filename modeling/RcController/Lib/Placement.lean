import RcController.Lib.FirstFit
import Mathlib.Data.Finset.Card
import Mathlib.Data.Fintype.Basic
import Mathlib.Order.Basic

/-!
# Placing requests one after the other

An empty table is filled from a table of requests (`placeAll`): each slot in turn gets
the resource its request settles on among the slots placed so far. A request is not seen
before its turn, and this is what tells `placeAll` from `settleAll`: a misfit, which has
to be moved because it asks for an incapable resource, may be moved to a resource that a
later request asks for.

`placeAll_keeps_iff` says when that happens. Suppose the requests differ and there are
enough spare resources, capable ones nobody asks for. As long as no misfit takes a
resource somebody asks for, the misfits take the spare resources in order, the `n`-th
misfit the `n`-th of them. So the other requests are kept, and nothing fails, exactly when
below every capable resource asked for there are as many spare ones as there are misfits
before the slot that asks for it.
-/

namespace FirstFit

variable {ι ρ : Type} [LinearOrder ι] [LinearOrder ρ]

/-- The next request enters the table and is settled there. When that fails, the
request has entered all the same. -/
def placeStep [Fintype ι] (P : Pool ρ) (req : Claims ι ρ) (i : ι) (c : Claims ι ρ) :
    Claims ι ρ × Except Unit Unit :=
  match req i with
  | none => (c, .ok ())
  | some k =>
    match settle P c i k with
    | none => (Function.update c i (some k), .error ())
    | some r => (Function.update c i (some { k with res := r }), .ok ())

/-- The requests of the slots of a list, placed in order. -/
def placeAll [Fintype ι] (P : Pool ρ) (req : Claims ι ρ) (l : List ι) :
    Claims ι ρ × Except Unit Unit :=
  Pass.run (placeStep P req) l fun _ => none

/-- A movable request for a resource that is not capable. It has to be moved,
wherever the others are. -/
def misfit (P : Pool ρ) (req : Claims ι ρ) (i : ι) : Bool :=
  (req i).any fun k => k.movable && !P.capable k.res

/-- The misfits up to a slot. -/
def misfitsUpTo [Fintype ι] (P : Pool ρ) (req : Claims ι ρ) (i : ι) : Finset ι :=
  Finset.univ.filter fun m => m ≤ i ∧ misfit P req m = true

/-- The capable resources nobody asks for. -/
def spare [Fintype ι] (P : Pool ρ) (req : Claims ι ρ) : Finset ρ :=
  P.scan.toFinset.filter fun r => P.capable r = true ∧ ∀ j, ∀ k ∈ req j, k.res ≠ r

/-- Below every capable resource that a slot asks for there are as many spare
ones as there are misfits before the slot. -/
def SpareBelow [Fintype ι] (P : Pool ρ) (req : Claims ι ρ) : Prop :=
  ∀ i, misfit P req i = true → ∀ j k, i < j → req j = some k → P.capable k.res = true →
    (misfitsUpTo P req i).card ≤ ((spare P req).filter (· < k.res)).card

section Steps

variable [Fintype ι] {P : Pool ρ} {req c : Claims ι ρ} {i : ι} {k : Claim ρ} {r : ρ}

/-- The cases of a step: no request, a request that gets a resource, one that
gets none, and any other slot. -/
theorem placeStep_of_none (h : req i = none) : placeStep P req i c = (c, .ok ()) := by
  unfold placeStep
  rw [h]

theorem placeStep_of_settle (hi : req i = some k) (h : settle P c i k = some r) :
    placeStep P req i c = (Function.update c i (some { k with res := r }), .ok ()) := by
  unfold placeStep
  rw [hi]
  simp only [h]

theorem placeStep_of_stuck (hi : req i = some k) (h : settle P c i k = none) :
    placeStep P req i c = (Function.update c i (some k), .error ()) := by
  unfold placeStep
  rw [hi]
  simp only [h]

theorem placeStep_of_ne {j : ι} (hne : j ≠ i) : (placeStep P req i c).1 j = c j := by
  unfold placeStep
  split
  · rfl
  · split <;> exact Function.update_of_ne hne _ _

omit [LinearOrder ι] [LinearOrder ρ] [Fintype ι] in
/-- A misfit asks for a resource it cannot have. -/
theorem misfit_eq_true : misfit P req i = true ↔
    ∃ k, req i = some k ∧ k.movable = true ∧ P.capable k.res = false := by
  unfold misfit
  cases req i with
  | none => simp
  | some k => simp

omit [LinearOrder ι] in
/-- A spare resource is a capable one that nobody asks for. -/
theorem mem_spare (hscan : ∀ r, P.capable r = true → r ∈ P.scan) :
    r ∈ spare P req ↔ P.capable r = true ∧ ∀ j k, req j = some k → k.res ≠ r := by
  unfold spare
  rw [Finset.mem_filter, List.mem_toFinset]
  constructor
  · rintro ⟨-, hcap, hfree⟩
    exact ⟨hcap, fun j k hk => hfree j k hk⟩
  · rintro ⟨hcap, hfree⟩
    exact ⟨hscan r hcap, hcap, fun j k hk => hfree j k hk⟩

/-- A slot that was placed is left alone. -/
theorem placed_of_not_mem {l : List ι} {j : ι} (hj : j ∉ l) :
    (Pass.run (placeStep P req) l c).1 j = c j := by
  induction l generalizing c with
  | nil => rfl
  | cons i is ih =>
    have hji : j ≠ i := fun heq => hj (heq ▸ List.mem_cons_self)
    have hjis : j ∉ is := fun hmem => hj (List.mem_cons_of_mem i hmem)
    cases hi : (placeStep P req i c).2 with
    | ok _ => rw [Pass.run_cons_ok hi, ih hjis, placeStep_of_ne hji]
    | error e => rw [Pass.run_cons_error hi, placeStep_of_ne hji]

/-- A step that succeeds keeps the table settled. The slot is empty before its
turn, so the others are settled without it. -/
theorem Settled.placeStep (h : Settled P c) (hok : (placeStep P req i c).2 = .ok ()) :
    Settled P (placeStep P req i c).1 := by
  cases hi : req i with
  | none =>
    rw [placeStep_of_none hi]
    exact h
  | some k =>
    -- a claim that settles nowhere fails the step
    cases hs : settle P c i k with
    | none =>
      rw [placeStep_of_stuck hi hs] at hok
      cases hok
    | some r =>
      rw [placeStep_of_settle hi hs]
      exact (h.drop i).update (not_taken_of_settle hs) fun hm => capable_of_settle hs hm

/-- **What is placed is settled.** -/
theorem settled_placed {l : List ι} (h : Settled P c)
    (hok : (Pass.run (FirstFit.placeStep P req) l c).2 = .ok ()) :
    Settled P (Pass.run (FirstFit.placeStep P req) l c).1 :=
  Pass.run_ok (fun _ c => Settled P c) (fun _ _ _ h hok => h.placeStep hok) h hok

end Steps

/-! ### The misfits take the spare resources in order -/

/-- What is known before the slots `rest` are placed: those before them are on
what they asked for, but for the misfits, which are on the spare resources `T`,
the least ones in order. -/
structure Placing [Fintype ι] (P : Pool ρ) (req : Claims ι ρ) (rest : List ι) (c : Claims ι ρ)
    (T : Finset ρ) : Prop where
  ahead : ∀ j, j ∉ rest → ∀ i ∈ rest, j < i
  sorted : rest.Pairwise (· < ·)
  empty : ∀ j ∈ rest, c j = none
  kept : ∀ j, j ∉ rest → misfit P req j = false → c j = req j
  moved : ∀ j, j ∉ rest → misfit P req j = true → ∃ k, c j = some k ∧ k.res ∈ T
  taken : ∀ r ∈ T, ∃ j k, j ∉ rest ∧ c j = some k ∧ k.res = r
  spare : T ⊆ spare P req
  initial : ∀ r ∈ T, ∀ q ∈ FirstFit.spare P req, q < r → q ∈ T
  card : T.card = (Finset.univ.filter fun m => m ∉ rest ∧ misfit P req m = true).card

section Misfit

variable [Fintype ι] {P : Pool ρ} {req c : Claims ι ρ} {i : ι} {is : List ι} {k : Claim ρ}
  {T : Finset ρ}

/-- The slots still to do come in order. -/
theorem Placing.lt_of_mem (h : Placing P req (i :: is) c T) {j : ι} (hj : j ∈ is) : i < j :=
  (List.pairwise_cons.mp h.sorted).1 j hj

/-- The slots before the next one are those that were placed. -/
theorem Placing.not_mem_iff (h : Placing P req (i :: is) c T) {j : ι} : j ∉ i :: is ↔ j < i := by
  constructor
  · intro hj
    exact h.ahead j hj i List.mem_cons_self
  · intro hlt hj
    rcases List.mem_cons.mp hj with rfl | hj
    · exact lt_irrefl _ hlt
    · exact lt_asymm hlt (h.lt_of_mem hj)

/-- So with the next slot done, the slots up to it are. -/
theorem Placing.not_mem_tail_iff (h : Placing P req (i :: is) c T) {j : ι} : j ∉ is ↔ j ≤ i := by
  rw [le_iff_eq_or_lt, ← h.not_mem_iff, List.mem_cons]
  constructor
  · intro hj
    by_cases hji : j = i
    · exact .inl hji
    · exact .inr fun hor => hor.elim hji hj
  · rintro (rfl | hj) hmem
    · exact lt_irrefl _ (h.lt_of_mem hmem)
    · exact hj (.inr hmem)

/-- Counting the next misfit in. -/
theorem Placing.card_upTo (h : Placing P req (i :: is) c T) (hi : misfit P req i = true) :
    (misfitsUpTo P req i).card = T.card + 1 := by
  rw [h.card]
  have hset : misfitsUpTo P req i
      = insert i (Finset.univ.filter fun m => m ∉ i :: is ∧ misfit P req m = true) := by
    ext m
    simp only [misfitsUpTo, Finset.mem_filter, Finset.mem_univ, true_and, Finset.mem_insert,
      h.not_mem_iff, le_iff_eq_or_lt]
    constructor
    · rintro ⟨rfl | hlt, hm⟩
      · exact .inl rfl
      · exact .inr ⟨hlt, hm⟩
    · rintro (rfl | ⟨hlt, hm⟩)
      · exact ⟨.inl rfl, hi⟩
      · exact ⟨.inr hlt, hm⟩
  -- `i` is not counted yet: it is still to be placed
  rw [hset, Finset.card_insert_of_notMem]
  simp

/-- What is available to the next misfit. -/
theorem Placing.avail_iff (h : Placing P req (i :: is) c T) {r : ρ} : P.avail c i r = true ↔
    P.capable r = true ∧ r ∉ T ∧
      ∀ j k, j < i → req j = some k → misfit P req j = false → k.res ≠ r := by
  rw [Pool.avail_iff]
  refine and_congr_right fun _ => ⟨fun hfree => ⟨?_, ?_⟩, ?_⟩
  · intro hr
    obtain ⟨j, k, hj, hjk, hres⟩ := h.taken r hr
    exact hfree ⟨j, k, (h.not_mem_iff.mp hj).ne, hjk, hres⟩
  · intro j k hlt hjk hfits hres
    refine hfree ⟨j, k, hlt.ne, ?_, hres⟩
    rw [h.kept j (h.not_mem_iff.mpr hlt) hfits, hjk]
  · rintro ⟨hT, hother⟩ ⟨j, k, hne, hjk, hres⟩
    -- a slot that holds something was placed
    have hplaced : j ∉ i :: is := by
      intro hmem
      rw [h.empty j hmem] at hjk
      cases hjk
    cases hmis : misfit P req j with
    | true =>
      obtain ⟨k', hk', hmem⟩ := h.moved j hplaced hmis
      obtain rfl : k' = k := Option.some.inj (hk'.symm.trans hjk)
      exact hT (hres ▸ hmem)
    | false =>
      rw [h.kept j hplaced hmis] at hjk
      exact hother j k (h.not_mem_iff.mp hplaced) hjk hmis hres

variable (hsorted : P.scan.Pairwise (· < ·)) (hscan : ∀ r, P.capable r = true → r ∈ P.scan)
  (hdistinct : ∀ i j k l, req i = some k → req j = some l → k.res = l.res → i = j)

include hscan in
/-- A spare resource is available as long as no misfit has it. -/
theorem Placing.avail_of_spare (h : Placing P req (i :: is) c T) {r : ρ}
    (hr : r ∈ FirstFit.spare P req)
    (hT : r ∉ T) : P.avail c i r = true := by
  obtain ⟨hcap, hfree⟩ := (mem_spare hscan).mp hr
  exact h.avail_iff.mpr ⟨hcap, hT, fun j k _ hjk _ => hfree j k hjk⟩

include hsorted hscan in
/-- **The next misfit** gets the least available resource. -/
theorem Placing.pick (h : Placing P req (i :: is) c T) (hi : req i = some k)
    (hmis : misfit P req i = true) (henough : T.card < (FirstFit.spare P req).card) :
    ∃ q, settle P c i k = some q ∧ P.avail c i q = true ∧ ∀ r, P.avail c i r = true → q ≤ r := by
  obtain ⟨k', hk', hmovable, hincapable⟩ := misfit_eq_true.mp hmis
  obtain rfl : k' = k := Option.some.inj (hk'.symm.trans hi)
  obtain ⟨r, hr, hrT⟩ := Finset.exists_mem_notMem_of_card_lt_card henough
  have hnot : P.avail c i k'.res ≠ true := by
    intro havail
    rw [(Pool.avail_iff.mp havail).1] at hincapable
    cases hincapable
  have hsettle : settle P c i k' = P.scan.find? (P.avail c i) := by
    rw [settle, if_pos hmovable, FirstFit.pick, if_neg hnot]
  rw [hsettle]
  cases hfind : P.scan.find? (P.avail c i) with
  | none =>
    exact absurd (h.avail_of_spare hscan hr hrT)
      (List.find?_eq_none.mp hfind r (hscan r ((mem_spare hscan).mp hr).1))
  | some q =>
    refine ⟨q, rfl, List.find?_some hfind, fun r' hr' => ?_⟩
    obtain ⟨-, before, after, heq, hbefore⟩ := List.find?_eq_some_iff_append.mp hfind
    have hmem : r' ∈ before ++ q :: after := heq ▸ hscan r' (h.avail_iff.mp hr').1
    -- nothing before `q` is available, and what comes after it is larger
    rcases List.mem_append.mp hmem with hr'b | hr'a
    · have hnone := hbefore r' hr'b
      rw [hr'] at hnone
      cases hnone
    · rcases List.mem_cons.mp hr'a with rfl | hr'a
      · exact le_refl _
      · rw [heq] at hsorted
        have htail := (List.pairwise_append.mp hsorted).2.1
        exact ((List.pairwise_cons.mp htail).1 r' hr'a).le

include hscan in
/-- A misfit that does not take a spare resource takes one that a later slot
asks for. The earlier slots have theirs, so it could not be one of those. -/
theorem Placing.grabbed (h : Placing P req (i :: is) c T) (hmis : misfit P req i = true) {q : ρ}
    (havail : P.avail c i q = true) (hq : q ∉ FirstFit.spare P req) :
    ∃ j k, i < j ∧ req j = some k ∧ k.res = q := by
  obtain ⟨hcap, -, hother⟩ := h.avail_iff.mp havail
  rw [mem_spare hscan] at hq
  push Not at hq
  obtain ⟨j, k, hjk, hres⟩ := hq hcap
  refine ⟨j, k, ?_, hjk, hres⟩
  -- whoever asks for a capable resource is no misfit
  have hfits : misfit P req j = false := by
    rw [Bool.eq_false_iff]
    intro hmis
    obtain ⟨k', hk', -, hincapable⟩ := misfit_eq_true.mp hmis
    obtain rfl : k' = k := Option.some.inj (hk'.symm.trans hjk)
    rw [hres, hcap] at hincapable
    cases hincapable
  rcases lt_trichotomy j i with hlt | rfl | hlt
  · exact absurd hres (hother j k hlt hjk hfits)
  · rw [hmis] at hfits
    cases hfits
  · exact hlt

include hscan hdistinct in
/-- **The least available resource is a spare one** exactly when there are
enough spare ones below everything the later slots ask for. -/
theorem Placing.spare_iff (h : Placing P req (i :: is) c T) (hmis : misfit P req i = true) {q : ρ}
    (havail : P.avail c i q = true) (hleast : ∀ r, P.avail c i r = true → q ≤ r) :
    q ∈ FirstFit.spare P req ↔ ∀ j k, i < j → req j = some k → P.capable k.res = true →
      (misfitsUpTo P req i).card ≤ ((FirstFit.spare P req).filter (· < k.res)).card := by
  have hqT : q ∉ T := (h.avail_iff.mp havail).2.1
  rw [h.card_upTo hmis, ← Finset.card_insert_of_notMem hqT]
  constructor
  · intro hq j k hlt hjk hcap
    have hunspare : k.res ∉ FirstFit.spare P req := fun hmem =>
      ((mem_spare hscan).mp hmem).2 j k hjk rfl
    -- what a later slot asks for is available now
    have hnow : P.avail c i k.res = true := by
      refine h.avail_iff.mpr ⟨hcap, fun hmem => hunspare (h.spare hmem), ?_⟩
      intro j' k' hlt' hjk' _ hres
      exact (hlt'.trans hlt).ne (hdistinct j' j k' k hjk' hjk hres)
    have hqk : q < k.res := (hleast _ hnow).lt_of_ne fun heq => hunspare (heq ▸ hq)
    refine Finset.card_le_card fun t ht => Finset.mem_filter.mpr ?_
    rcases Finset.mem_insert.mp ht with rfl | ht
    · exact ⟨hq, hqk⟩
    · refine ⟨h.spare ht, lt_of_not_ge fun hge => hqT ?_⟩
      exact h.initial t ht q hq (hqk.trans_le hge)
  · intro hbelow
    by_contra hq
    obtain ⟨j, k, hlt, hjk, rfl⟩ := h.grabbed hscan hmis havail hq
    have hcard := hbelow j k hlt hjk (h.avail_iff.mp havail).1
    -- the spare resources below it are the ones that are taken
    have hsub : (FirstFit.spare P req).filter (· < k.res) ⊆ T := by
      intro r hr
      obtain ⟨hr, hlt⟩ := Finset.mem_filter.mp hr
      by_contra hrT
      exact hlt.not_ge (hleast r (h.avail_of_spare hscan hr hrT))
    have hle := Finset.card_le_card hsub
    rw [Finset.card_insert_of_notMem hqT] at hcard
    omega

/-- The next slot was placed: what is left to show is about that slot alone. -/
theorem Placing.advance (h : Placing P req (i :: is) c T) {y : Option (Claim ρ)} {T' : Finset ρ}
    (hsub : T ⊆ T') (hkept : misfit P req i = false → y = req i)
    (hmoved : misfit P req i = true → ∃ k, y = some k ∧ k.res ∈ T')
    (htaken : ∀ r ∈ T', r ∈ T ∨ ∃ k, y = some k ∧ k.res = r) (hspare : T' ⊆ FirstFit.spare P req)
    (hinitial : ∀ r ∈ T', ∀ q ∈ FirstFit.spare P req, q < r → q ∈ T')
    (hcard : T'.card = (misfitsUpTo P req i).card) :
    Placing P req is (Function.update c i y) T' := by
  -- a placed slot is `i`, where the hypotheses speak, or an earlier one, where `h` does
  have hsplit : ∀ j, j ∉ is → j = i ∨ (j ∉ i :: is ∧ j ≠ i) := by
    intro j hj
    rcases (h.not_mem_tail_iff.mp hj).eq_or_lt with rfl | hlt
    · exact .inl rfl
    · exact .inr ⟨h.not_mem_iff.mpr hlt, hlt.ne⟩
  refine ⟨?_, (List.pairwise_cons.mp h.sorted).2, ?_, ?_, ?_, ?_, hspare, hinitial, ?_⟩
  · intro j hj i' hi'
    rcases hsplit j hj with rfl | ⟨hj, -⟩
    · exact h.lt_of_mem hi'
    · exact h.ahead j hj i' (List.mem_cons_of_mem i hi')
  · intro j hj
    rw [Function.update_of_ne (h.lt_of_mem hj).ne']
    exact h.empty j (List.mem_cons_of_mem i hj)
  · intro j hj hfits
    rcases hsplit j hj with rfl | ⟨hj, hne⟩
    · rw [Function.update_self, hkept hfits]
    · rw [Function.update_of_ne hne, h.kept j hj hfits]
  · intro j hj hmis
    rcases hsplit j hj with rfl | ⟨hj, hne⟩
    · rw [Function.update_self]
      exact hmoved hmis
    · rw [Function.update_of_ne hne]
      obtain ⟨l, hl, hmem⟩ := h.moved j hj hmis
      exact ⟨l, hl, hsub hmem⟩
  · intro r hr
    rcases htaken r hr with hr | ⟨l, hl, hres⟩
    · obtain ⟨j, l, hj, hjl, hres⟩ := h.taken r hr
      refine ⟨j, l, fun hmem => hj (List.mem_cons_of_mem i hmem), ?_, hres⟩
      rwa [Function.update_of_ne (h.not_mem_iff.mp hj).ne]
    · exact ⟨i, l, h.not_mem_tail_iff.mpr le_rfl, (Function.update_self ..).trans hl, hres⟩
  · -- placed so far means up to `i`, so both sides count the same misfits
    rw [hcard]
    unfold misfitsUpTo
    congr 1
    ext m
    simp only [Finset.mem_filter, Finset.mem_univ, true_and, h.not_mem_tail_iff]

include hscan in
/-- A misfit that takes a spare resource takes the next one. -/
theorem Placing.take (h : Placing P req (i :: is) c T) (hmis : misfit P req i = true) {q : ρ}
    (havail : P.avail c i q = true) (hleast : ∀ r, P.avail c i r = true → q ≤ r)
    (hq : q ∈ FirstFit.spare P req) :
    Placing P req is (Function.update c i (some { k with res := q })) (insert q T) := by
  have hqT : q ∉ T := (h.avail_iff.mp havail).2.1
  -- `q` joins the taken spares; the other goals are the bounds of the invariant
  refine h.advance (Finset.subset_insert q T) (fun hfits => ?_)
    (fun _ => ⟨_, rfl, Finset.mem_insert_self q T⟩) (fun r hr => ?_)
    (Finset.insert_subset hq h.spare) (fun r hr q' hq' hlt => ?_) ?_
  · rw [hmis] at hfits
    cases hfits
  · rcases Finset.mem_insert.mp hr with rfl | hr
    · exact .inr ⟨_, rfl, rfl⟩
    · exact .inl hr
  · -- a spare resource below `q` is not available any more
    rcases Finset.mem_insert.mp hr with rfl | hr
    · refine Finset.mem_insert_of_mem (by_contra fun hq'T => ?_)
      exact hlt.not_ge (hleast q' (h.avail_of_spare hscan hq' hq'T))
    · exact Finset.mem_insert_of_mem (h.initial r hr q' hq' hlt)
  · rw [Finset.card_insert_of_notMem hqT, h.card_upTo hmis]

include hscan hdistinct in
/-- A slot that is no misfit gets what it asks for. Nobody before it asked for
the same, and the misfits before it are on spare resources. -/
theorem Placing.keep (h : Placing P req (i :: is) c T) (hfits : misfit P req i = false) :
    (placeStep P req i c).2 = .ok () ∧ Placing P req is (placeStep P req i c).1 T := by
  have hstep : placeStep P req i c = (Function.update c i (req i), .ok ()) := by
    cases hi : req i with
    | none =>
      rw [placeStep_of_none hi, ← h.empty i List.mem_cons_self, Function.update_eq_self]
    | some k =>
      rw [placeStep_of_settle hi (settle_eq_self ?_ ?_)]
      · rintro ⟨j, l, hne, hjl, hres⟩
        have hplaced : j ∉ i :: is := by
          intro hmem
          rw [h.empty j hmem] at hjl
          cases hjl
        cases hmis : misfit P req j with
        | true =>
          -- misfits hold resources nobody asks for
          obtain ⟨l', hl', hmem⟩ := h.moved j hplaced hmis
          obtain rfl : l' = l := Option.some.inj (hl'.symm.trans hjl)
          exact ((mem_spare hscan).mp (h.spare hmem)).2 i k hi hres.symm
        | false =>
          rw [h.kept j hplaced hmis] at hjl
          exact hne (hdistinct j i l k hjl hi hres)
      · intro hm
        by_contra hincapable
        have hmis := misfit_eq_true.mpr ⟨k, hi, hm, Bool.eq_false_iff.mpr hincapable⟩
        rw [hfits] at hmis
        cases hmis
  have hcard : T.card = (misfitsUpTo P req i).card := by
    rw [h.card]
    unfold misfitsUpTo
    congr 1
    ext m
    simp only [Finset.mem_filter, Finset.mem_univ, true_and, h.not_mem_iff, le_iff_eq_or_lt]
    refine ⟨fun ⟨hlt, hm⟩ => ⟨.inr hlt, hm⟩, ?_⟩
    rintro ⟨rfl | hlt, hm⟩
    · rw [hfits] at hm
      cases hm
    · exact ⟨hlt, hm⟩
  rw [hstep]
  refine ⟨rfl, h.advance (Finset.Subset.refl T) (fun _ => rfl) (fun hmis => ?_)
    (fun r hr => .inl hr) h.spare h.initial hcard⟩
  rw [hfits] at hmis
  cases hmis

/-- At the start nothing is placed. -/
theorem Placing.start {l : List ι} (hl : l.Pairwise (· < ·)) (hall : ∀ i, i ∈ l) :
    Placing P req l (fun _ => none) ∅ where
  ahead j hj := absurd (hall j) hj
  sorted := hl
  empty _ _ := rfl
  kept j hj := absurd (hall j) hj
  moved j hj := absurd (hall j) hj
  taken r hr := absurd hr (Finset.notMem_empty r)
  spare := Finset.empty_subset _
  initial r hr := absurd hr (Finset.notMem_empty r)
  card := by simp [hall]

end Misfit

section Keeps

variable [Fintype ι] {P : Pool ρ} {req : Claims ι ρ} (hsorted : P.scan.Pairwise (· < ·))
  (hscan : ∀ r, P.capable r = true → r ∈ P.scan)
  (hdistinct : ∀ i j k l, req i = some k → req j = some l → k.res = l.res → i = j)
  (henough : (Finset.univ.filter fun m => misfit P req m = true).card ≤ (FirstFit.spare P req).card)

include henough in
/-- There is a spare resource for the next misfit, for there are as many as
misfits and only those before it have one. -/
theorem Placing.card_lt {i : ι} {is : List ι} {c : Claims ι ρ} {T : Finset ρ}
    (h : Placing P req (i :: is) c T) (hmis : misfit P req i = true) :
    T.card < (FirstFit.spare P req).card := by
  refine lt_of_lt_of_le ?_ henough
  have hle :
      (misfitsUpTo P req i).card ≤ (Finset.univ.filter fun m => misfit P req m = true).card :=
    Finset.card_le_card fun m hm => by
      rw [misfitsUpTo, Finset.mem_filter] at hm
      exact Finset.mem_filter.mpr ⟨Finset.mem_univ m, hm.2.2⟩
  rw [h.card_upTo hmis] at hle
  omega

include hsorted hscan hdistinct henough in
/-- A pass that keeps every request that can be kept left every misfit a spare
resource. -/
theorem Placing.spareBelow {rest : List ι} {c : Claims ι ρ} {T : Finset ρ}
    (h : Placing P req rest c T) (hsettled : Settled P c)
    (hok : (Pass.run (placeStep P req) rest c).2 = .ok ())
    (hkeeps : ∀ i k, req i = some k → misfit P req i = false →
      (Pass.run (placeStep P req) rest c).1 i = some k) :
    ∀ i ∈ rest, misfit P req i = true → ∀ j k, i < j → req j = some k → P.capable k.res = true →
      (misfitsUpTo P req i).card ≤ ((FirstFit.spare P req).filter (· < k.res)).card := by
  induction rest generalizing c T with
  | nil => exact fun i hi => absurd hi List.not_mem_nil
  | cons i is ih =>
    have hend := settled_placed hsettled hok
    cases hstep : (placeStep P req i c).2 with
    | error e =>
      rw [Pass.run_cons_error hstep, hstep] at hok
      cases hok
    | ok _ =>
      have hnext := hsettled.placeStep hstep
      rw [Pass.run_cons_ok hstep] at hok hkeeps hend
      cases hmis : misfit P req i with
      | false =>
        have htail := ih (h.keep hscan hdistinct hmis).2 hnext hok hkeeps
        intro i' hi' hmis'
        rcases List.mem_cons.mp hi' with rfl | hi'
        · rw [hmis] at hmis'
          cases hmis'
        · exact htail i' hi' hmis'
      | true =>
        obtain ⟨k, hk, -, -⟩ := misfit_eq_true.mp hmis
        obtain ⟨q, hsettle, havail, hleast⟩ :=
          h.pick hsorted hscan hk hmis (h.card_lt henough hmis)
        rw [placeStep_of_settle hk hsettle] at hnext hok hkeeps hend
        -- a later slot that asks for `q` would end without it
        have hq : q ∈ FirstFit.spare P req := by
          by_contra hq
          obtain ⟨j, k', hlt, hjk, hres⟩ := h.grabbed hscan hmis havail hq
          have hfits : misfit P req j = false := by
            rw [Bool.eq_false_iff]
            intro hmisj
            obtain ⟨l, hl, -, hincapable⟩ := misfit_eq_true.mp hmisj
            obtain rfl : l = k' := Option.some.inj (hl.symm.trans hjk)
            rw [hres, (h.avail_iff.mp havail).1] at hincapable
            cases hincapable
          have hi : (Pass.run (placeStep P req) is
              (Function.update c i (some { k with res := q }))).1 i = some { k with res := q } := by
            rw [placed_of_not_mem (h.not_mem_tail_iff.mpr le_rfl), Function.update_self]
          exact hlt.ne (hend.distinct hi (hkeeps j k' hjk hfits) hres.symm)
        intro i' hi'
        rcases List.mem_cons.mp hi' with rfl | hi'
        · exact fun _ => (h.spare_iff hscan hdistinct hmis havail hleast).mp hq
        · exact ih (h.take hscan hmis havail hleast hq) hnext hok hkeeps i' hi'

include hsorted hscan hdistinct henough in
/-- **When every request that can be kept is kept.** One direction carries
`Placing` along the pass; in the other a pass that keeps the requests is a pass
in which no misfit took one of them. -/
theorem placeAll_keeps_iff {l : List ι} (hl : l.Pairwise (· < ·)) (hall : ∀ i, i ∈ l) :
    ((placeAll P req l).2 = .ok () ∧
      ∀ i k, req i = some k → misfit P req i = false → (placeAll P req l).1 i = some k) ↔
      SpareBelow P req := by
  have hstart : Placing P req l (fun _ => none) ∅ := .start hl hall
  constructor
  · rintro ⟨hok, hkeeps⟩ i
    exact hstart.spareBelow hsorted hscan hdistinct henough (settled_none P) hok hkeeps i (hall i)
  · intro hbelow
    -- the invariant is `Placing` with some set of resources handed out
    have hstep : ∀ i is c, (∃ T, Placing P req (i :: is) c T) →
        (placeStep P req i c).2 = .ok () ∧ ∃ T, Placing P req is (placeStep P req i c).1 T := by
      rintro i is c ⟨T, h⟩
      cases hmis : misfit P req i with
      | false =>
        obtain ⟨hok, hnext⟩ := h.keep hscan hdistinct hmis
        exact ⟨hok, T, hnext⟩
      | true =>
        obtain ⟨k, hk, -, -⟩ := misfit_eq_true.mp hmis
        obtain ⟨q, hsettle, havail, hleast⟩ :=
          h.pick hsorted hscan hk hmis (h.card_lt henough hmis)
        have hq := (h.spare_iff hscan hdistinct hmis havail hleast).mpr (hbelow i hmis)
        rw [placeStep_of_settle hk hsettle]
        exact ⟨rfl, _, h.take hscan hmis havail hleast hq⟩
    obtain ⟨hok, T, hend⟩ := Pass.run_total (fun rest c => ∃ T, Placing P req rest c T) hstep
      ⟨∅, hstart⟩
    refine ⟨hok, fun i k hk hfits => ?_⟩
    exact (hend.kept i List.not_mem_nil hfits).trans hk

end Keeps

end FirstFit
