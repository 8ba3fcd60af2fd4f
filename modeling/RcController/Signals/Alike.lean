import RcController.Signals.Toggle

/-!
# Toggles that look alike

Two states of a toggle look alike when no ticks can tell their values apart. Values are
shown at ticks that are not gated, and from the first tick on the two states hold the same
buttons. So everything is decided at the first tick that shows a value (`sameValues_of_first`,
`SameValues.first`). What is left is a comparison of positions and directions, one for each kind
of toggle.
-/

namespace RcController

open Runs

variable {inp : VirtualInputConfig} {c : Snapshot} {positions : ℕ}

/-! ### One input at a time -/

/-- A snapshot in which one input is active and no other. -/
def onlyActive (id : InputId) : Snapshot where
  axisX := if id = .axisX then 512 else 0
  axisY := if id = .axisY then 512 else 0
  axisRX := if id = .axisRX then 512 else 0
  axisRY := if id = .axisRY then 512 else 0
  throttle := if id = .throttle then 1023 else 0
  brake := if id = .brake then 1023 else 0
  dpad :=
    if id = .dpadUp then 0x01 else if id = .dpadDown then 0x02
    else if id = .dpadLeft then 0x08 else if id = .dpadRight then 0x04 else 0
  a := id = .buttonA
  b := id = .buttonB
  x := id = .buttonX
  y := id = .buttonY
  l1 := id = .buttonL1
  r1 := id = .buttonR1
  l2 := id = .buttonL2
  r2 := id = .buttonR2
  miscStart := id = .buttonStart
  miscSelect := id = .buttonSelect

/-- It is, and none of the others is, for every input of the table. -/
theorem isInputActive_onlyActive : ∀ d ∈ kInputs.map InputDefinition.id,
    ∀ e ∈ kInputs.map InputDefinition.id, isInputActive e (onlyActive d) = decide (e = d) := by
  decide +kernel

/-- Only the inputs of the table are ever active. -/
theorem mem_of_isInputActive {id : InputId} {c : Snapshot} (h : isInputActive id c = true) :
    id ∈ kInputs.map InputDefinition.id := by
  unfold isInputActive at h
  split_ifs at h
  cases hd : getInputDefinition id with
  | none =>
    rw [hd] at h
    cases h
  | some d =>
    have hfound := List.find?_some hd
    have hmem := List.mem_of_find?_eq_some hd
    rw [List.mem_map]
    exact ⟨d, hmem, by simpa using hfound⟩

/-- **Inputs are independent**: one that can be active can be active alone. -/
theorem exists_onlyActive {id : InputId} {c : Snapshot} (h : isInputActive id c = true) :
    isInputActive id (onlyActive id) = true ∧
      ∀ j, j ≠ id → isInputActive j (onlyActive id) = false := by
  have hid := mem_of_isInputActive h
  refine ⟨?_, fun j hj => ?_⟩
  · rw [isInputActive_onlyActive id hid id hid]
    exact decide_eq_true rfl
  · by_contra hactive
    rw [Bool.not_eq_false] at hactive
    have hmem := mem_of_isInputActive hactive
    rw [isInputActive_onlyActive id hid j hmem] at hactive
    exact hj (of_decide_eq_true hactive)
/-! ### Detectors -/

/-- All three buttons up, as the decoder leaves the detectors. -/
def Held.up : Held := ⟨false, false, false⟩

/-- What the detectors can hold: nothing after a set-up, and later what a
snapshot showed. -/
def Seen (inp : VirtualInputConfig) (h : Held) : Prop := h = .up ∨ ∃ c, h = held inp c

/-- What they can hold after ticks that showed no value. -/
def Waiting (inp : VirtualInputConfig) (h : Held) : Prop :=
  h = .up ∨ ∃ c, enabledAt inp c = false ∧ h = held inp c

/-- That is a special case. -/
theorem Waiting.seen {h : Held} (hwaiting : Waiting inp h) : Seen inp h :=
  hwaiting.imp id fun ⟨c, _, heq⟩ => ⟨c, heq⟩

namespace Toggle

variable {t t' x y : Toggle}

/-- The same toggle with other buttons held. -/
def holding (t : Toggle) (h : Held) : Toggle := { t with held := h }

/-- Position and direction together; what a press does to them depends on
nothing else. -/
def place (t : Toggle) : ℤ × ℤ := (t.position, t.direction)

/-- Where a tick takes a toggle depends on what it holds and where it stands. -/
theorem place_moved_congr (hheld : x.held = y.held) (hplace : x.place = y.place) (c : Snapshot) :
    (x.moved inp positions c).place = (y.moved inp positions c).place := by
  obtain ⟨hx, px, dx, vx⟩ := x
  obtain ⟨hy, py, dy, vy⟩ := y
  obtain ⟨rfl, rfl⟩ := Prod.mk.inj hplace
  subst hheld
  simp only [moved, press, next]
  split_ifs <;> rfl

/-- The same with the buttons replaced by others. -/
theorem place_moved_holding {h : Held} (hheld : x.held = h) (hplace : x.place = t.place)
    (c : Snapshot) :
    (x.moved inp positions c).place = ((t.holding h).moved inp positions c).place :=
  place_moved_congr (y := t.holding h) hheld hplace c

/-- A gated tick shows zero and keeps the place; the detectors see the snapshot
all the same. -/
theorem tick_of_gated (hc : enabledAt inp c = false) (t : Toggle) :
    t.tick inp positions (some c) = { t with held := RcController.held inp c, value := 0 } := by
  unfold tick
  simp only [moved_of_gated hc, hc]
  rfl

/-- No ticks can tell the two toggles apart by their values. -/
def SameValues (inp : VirtualInputConfig) (positions : ℕ) (t t' : Toggle) : Prop :=
  ∀ cs : List (Option Snapshot),
    (run (tick inp positions) t cs).value = (run (tick inp positions) t' cs).value

/-- **Alike at the first value, alike for ever.** `E` compares places; it says
that they show the same value, and the presses of a tick keep it. After one tick
both hold the same buttons, so from then on the presses are the same. -/
theorem sameValues_of_first {E : ℤ × ℤ → ℤ × ℤ → Prop}
    (hshows : ∀ p q, E p q → toggleValue inp.toggleRange positions p.1 =
      toggleValue inp.toggleRange positions q.1)
    (hmoved : ∀ (x y : Toggle) c, E x.place y.place → x.held = y.held → Seen inp x.held →
      enabledAt inp c = true →
      E (x.moved inp positions c).place (y.moved inp positions c).place)
    (hvalue : t.value = t'.value)
    (hfirst : ∀ c, enabledAt inp c = true →
      E (t.moved inp positions c).place (t'.moved inp positions c).place)
    (hwaiting : ∀ h c, Waiting inp h → enabledAt inp c = true →
      E ((t.holding h).moved inp positions c).place
        ((t'.holding h).moved inp positions c).place) :
    SameValues inp positions t t' := by
  -- before the first value the places are the old ones, after it they are related
  let R (x y : Toggle) : Prop := x.value = y.value ∧
    ((x.held = y.held ∧ Seen inp x.held ∧ E x.place y.place) ∨
      (x.place = t.place ∧ y.place = t'.place ∧
        (x.held = t.held ∧ y.held = t'.held ∨ x.held = y.held ∧ Waiting inp x.held)))
  have hstep : ∀ x y o, R x y → R (x.tick inp positions o) (y.tick inp positions o) := by
    rintro x y (_ | c) ⟨hv, hR⟩
    case none =>
      refine ⟨rfl, ?_⟩
      rcases hR with ⟨-, -, hE⟩ | ⟨hx, hy, -⟩
      · exact .inl ⟨rfl, .inl rfl, hE⟩
      · exact .inr ⟨hx, hy, .inr ⟨rfl, .inl rfl⟩⟩
    case some =>
      cases hc : enabledAt inp c with
      | false =>
        rw [tick_of_gated hc, tick_of_gated hc]
        refine ⟨rfl, ?_⟩
        rcases hR with ⟨-, -, hE⟩ | ⟨hx, hy, -⟩
        · exact .inl ⟨rfl, .inr ⟨c, rfl⟩, hE⟩
        · exact .inr ⟨hx, hy, .inr ⟨rfl, .inr ⟨c, hc, rfl⟩⟩⟩
      | true =>
        have hE : E (x.moved inp positions c).place (y.moved inp positions c).place := by
          rcases hR with ⟨hheld, hseen, hE⟩ | ⟨hx, hy, ⟨hxh, hyh⟩ | ⟨hheld, hwait⟩⟩
          · exact hmoved x y c hE hheld hseen hc
          · rw [place_moved_congr hxh hx, place_moved_congr hyh hy]
            exact hfirst c hc
          · rw [place_moved_holding rfl hx, place_moved_holding hheld.symm hy]
            exact hwaiting _ c hwait hc
        refine ⟨?_, .inl ⟨rfl, .inr ⟨c, rfl⟩, hE⟩⟩
        rw [value_tick, value_tick, if_pos hc, if_pos hc]
        exact hshows _ _ hE
  intro cs
  exact (run_related hstep (R := R) ⟨hvalue, .inr ⟨rfl, rfl, .inl ⟨rfl, rfl⟩⟩⟩ cs).1

/-- A tick of both keeps it, for the ticks that follow were among those looked
at. -/
theorem SameValues.tick (h : SameValues inp positions t t') (o : Option Snapshot) :
    SameValues inp positions (t.tick inp positions o) (t'.tick inp positions o) :=
  fun cs => h (o :: cs)

/-- The first tick shows the same value. -/
theorem SameValues.first (h : SameValues inp positions t t') (hc : enabledAt inp c = true) :
    toggleValue inp.toggleRange positions (t.moved inp positions c).position =
      toggleValue inp.toggleRange positions (t'.moved inp positions c).position := by
  have hvalue := h [some c]
  simp only [run_cons, run_nil, value_tick, if_pos hc] at hvalue
  exact hvalue

/-- A tick that shows nothing leaves the places and the wanted buttons held. -/
theorem SameValues.waiting (h : SameValues inp positions t t') {b : Held} (hb : Waiting inp b) :
    ∃ x y, SameValues inp positions x y ∧ x.held = b ∧ y.held = b ∧ x.place = t.place ∧
      y.place = t'.place := by
  rcases hb with rfl | ⟨c, hc, rfl⟩
  · exact ⟨_, _, h.tick none, rfl, rfl, rfl, rfl⟩
  · have htick := h.tick (some c)
    rw [tick_of_gated hc, tick_of_gated hc] at htick
    exact ⟨_, _, htick, rfl, rfl, rfl, rfl⟩

/-! ### Two positions -/

/-- With two positions a value tells whether the position is zero. -/
theorem toggleValue_two (range : ToggleRangeMode) (p q : ℤ) :
    toggleValue range 2 p = toggleValue range 2 q ↔ (p = 0 ↔ q = 0) := by
  unfold toggleValue
  by_cases hp : p = 0 <;> by_cases hq : q = 0 <;> cases range <;> simp [hp, hq] <;> norm_num

/-- With three positions a value tells the position. -/
theorem toggleValue_three (range : ToggleRangeMode) (p q : ℤ) :
    toggleValue range 3 p = toggleValue range 3 q ↔ p = q := by
  unfold toggleValue
  cases range with
  | unipolar =>
    simp only [if_neg (show ¬ (3 = 2) by decide)]
    constructor
    · intro h
      exact_mod_cast (div_left_inj' (show (2 : ℚ) ≠ 0 by norm_num)).mp h
    · rintro rfl
      rfl
  | bipolar =>
    simp only [if_neg (show ¬ (3 = 2) by decide), Int.cast_inj]
    omega

/-- A press takes a 2-position toggle to its other position. -/
theorem moved_two_eq_zero_iff (t : Toggle) (c : Snapshot) :
    (t.moved inp 2 c).position = 0 ↔
      (t.position = 0 ↔ primaryPress inp t.held c = false) := by
  unfold moved press
  cases primaryPress inp t.held c with
  | false => simp
  | true => by_cases hzero : t.position = 0 <;> simp [hzero]

/-- What can be pressed while some buttons are held can be pressed while none
is. -/
theorem primaryPress_up {h : Held} (hpress : primaryPress inp h c = true) :
    primaryPress inp .up c = true := by
  unfold primaryPress at hpress ⊢
  simp only [Bool.and_eq_true] at hpress
  simp only [hpress.1, hpress.2.1, Held.up, Bool.not_false, Bool.and_true]

/-- A press is let through, and so is one to the center. -/
theorem enabledAt_of_primaryPress {h : Held} (hpress : primaryPress inp h c = true) :
    enabledAt inp c = true := by
  unfold primaryPress at hpress
  rw [Bool.and_eq_true] at hpress
  exact hpress.1

theorem enabledAt_of_centerPress {h : Held} (hpress : centerPress inp h c = true) :
    enabledAt inp c = true := by
  unfold centerPress at hpress
  rw [Bool.and_eq_true, decide_eq_true_eq] at hpress
  exact enabledAt_of_center hpress.1 c

/-- A center press needs the modifier up before it. -/
theorem centerPress_of_held {h : Held} (hheld : h.modifier = true) (c : Snapshot) :
    centerPress inp h c = false := by
  unfold centerPress
  rw [hheld, Bool.not_true, Bool.and_false, Bool.and_false]

/-- With the modifier up, the other buttons do not matter to it. -/
theorem centerPress_of_not_held {h : Held} (hheld : h.modifier = false) (c : Snapshot) :
    centerPress inp h c = centerPress inp .up c := by
  unfold centerPress
  rw [hheld]
  rfl

/-- What is no center press from rest is none at all. -/
theorem centerPress_of_up {h : Held} (hup : centerPress inp .up c = false) :
    centerPress inp h c = false := by
  cases hmodifier : h.modifier with
  | true => exact centerPress_of_held hmodifier c
  | false => rw [centerPress_of_not_held hmodifier, hup]

/-- With the button up, a press is a snapshot with the button down that is let
through. -/
theorem primaryPress_of_not_held {h : Held} (hheld : h.primary = false) (c : Snapshot) :
    primaryPress inp h c = primaryPress inp .up c := by
  unfold primaryPress
  rw [hheld]
  rfl

/-- A button that was down is not pressed. -/
theorem primaryPress_of_held {h : Held} (hheld : h.primary = true) (c : Snapshot) :
    primaryPress inp h c = false := by
  unfold primaryPress
  rw [hheld, Bool.not_true, Bool.and_false, Bool.and_false]

/-- When a toggle of two positions is kept: unless nothing ever enables it, the
two show the same position, and no button is held that a snapshot could
press. -/
def KeptTwo (inp : VirtualInputConfig) (t t' : Toggle) : Prop :=
  (∃ c, enabledAt inp c = true) →
    (t.position = 0 ↔ t'.position = 0) ∧
      ¬ (t.held.primary = true ∧ ∃ c, primaryPress inp .up c = true)

/-- Toggles that nothing enables show zero for ever. -/
theorem sameValues_of_dead {positions : ℕ} (hvalue : t.value = t'.value)
    (hdead : ¬ ∃ c, enabledAt inp c = true) : SameValues inp positions t t' := by
  apply sameValues_of_first (E := fun p q => p = q)
  case hshows => exact fun p q hpq => by rw [hpq]
  case hmoved => exact fun x y c _ _ _ hc => absurd ⟨c, hc⟩ hdead
  case hvalue => exact hvalue
  case hfirst => exact fun c hc => absurd ⟨c, hc⟩ hdead
  case hwaiting => exact fun _ c _ hc => absurd ⟨c, hc⟩ hdead

/-- Toggles that show the same values are kept. A held button would be pressed
by one snapshot for the second toggle and not for the first. -/
theorem SameValues.keptTwo (h : SameValues inp 2 t t') (hup : t'.held = .up) :
    KeptTwo inp t t' := by
  rintro ⟨c₀, hc₀⟩
  have hzero : t.position = 0 ↔ t'.position = 0 := by
    -- after a lost controller both see the same presses
    obtain ⟨x, y, hxy, hx, hy, hxp, hyp⟩ := h.waiting (.inl rfl)
    have hfirst := (toggleValue_two ..).mp (hxy.first hc₀)
    rw [moved_two_eq_zero_iff, moved_two_eq_zero_iff, hx, hy,
      show x.position = t.position from congrArg Prod.fst hxp,
      show y.position = t'.position from congrArg Prod.fst hyp] at hfirst
    tauto
  refine ⟨hzero, ?_⟩
  -- a button that was held is a press for one of the two only
  rintro ⟨hheld, c, hpress⟩
  have hfirst := (toggleValue_two ..).mp (h.first (enabledAt_of_primaryPress hpress))
  rw [moved_two_eq_zero_iff, moved_two_eq_zero_iff, primaryPress_of_held hheld, hup, hpress,
    hzero] at hfirst
  simp at hfirst

/-- Toggles that are both at zero or both not stay so when they see the same
presses. -/
theorem moved_two_congr {x y : Toggle} (hxy : x.position = 0 ↔ y.position = 0)
    (hsame : primaryPress inp x.held c = primaryPress inp y.held c) :
    (x.moved inp 2 c).position = 0 ↔ (y.moved inp 2 c).position = 0 := by
  rw [moved_two_eq_zero_iff, moved_two_eq_zero_iff, hsame, hxy]

/-- Toggles that are kept show the same values, because they see the same
presses. -/
theorem KeptTwo.sameValues (hkept : KeptTwo inp t t') (hvalue : t.value = t'.value)
    (hup : t'.held = .up) : SameValues inp 2 t t' := by
  by_cases hlive : ∃ c, enabledAt inp c = true
  swap
  · exact sameValues_of_dead hvalue hlive
  obtain ⟨hzero, hpress⟩ := hkept hlive
  apply sameValues_of_first (E := fun p q => p.1 = 0 ↔ q.1 = 0)
  case hshows => exact fun p q hpq => (toggleValue_two ..).mpr hpq
  case hmoved => exact fun x y c hxy hheld _ _ => moved_two_congr hxy (by rw [hheld])
  case hvalue => exact hvalue
  case hfirst =>
    intro c _
    apply moved_two_congr hzero
    rw [hup]
    cases hheld : t.held.primary with
    | false => exact primaryPress_of_not_held hheld c
    | true =>
      rw [primaryPress_of_held hheld]
      symm
      rw [Bool.eq_false_iff]
      exact fun hpressed => hpress ⟨hheld, c, hpressed⟩
  case hwaiting =>
    exact fun b c _ _ => moved_two_congr (x := t.holding b) (y := t'.holding b) hzero rfl

/-- So for two positions the condition is exact. -/
theorem sameValues_two_iff (hvalue : t.value = t'.value) (hup : t'.held = .up) :
    SameValues inp 2 t t' ↔ KeptTwo inp t t' :=
  ⟨fun h => h.keptTwo hup, fun h => h.sameValues hvalue hup⟩

/-! ### Three positions and a button for each end -/

/-- When a toggle with a button for each end is kept: the first snapshot that
shows a value asks both for the same position, and if it can ask for none, the
positions are the same. -/
structure KeptEnds (inp : VirtualInputConfig) (t t' : Toggle) : Prop where
  asked : ∀ c, enabledAt inp c = true →
    (asked inp t.held c).getD t.position = (Toggle.asked inp .up c).getD t'.position
  shown : (∃ b c, Waiting inp b ∧ enabledAt inp c = true ∧ Toggle.asked inp b c = none) →
    t.position = t'.position

/-- **With a button for each end** the condition is exact. After a position was
asked for, where the toggle was before does not matter, so the first enabled
tick decides. Ticks that show nothing may come before it, which is what
`Waiting` is for. -/
theorem sameValues_ends_iff (hsecondary : inp.secondary ≠ InputId.none)
    (hvalue : t.value = t'.value) (hup : t'.held = .up) :
    SameValues inp 3 t t' ↔ KeptEnds inp t t' := by
  constructor
  · intro h
    constructor
    case asked =>
      -- the first snapshot shows what each of the two is asked for
      intro c hc
      have hfirst := (toggleValue_three ..).mp (h.first hc)
      rwa [position_moved_ends hsecondary, position_moved_ends hsecondary, hup] at hfirst
    case shown =>
      rintro ⟨b, c, hb, hc, hnone⟩
      -- gated snapshots bring both to hold `b`, and `c` then leaves each where it stands
      obtain ⟨x, y, hxy, hx, hy, hxp, hyp⟩ := h.waiting hb
      have hfirst := (toggleValue_three ..).mp (hxy.first hc)
      rw [position_moved_ends hsecondary, position_moved_ends hsecondary, hx, hy, hnone] at hfirst
      calc t.position = x.position := (congrArg Prod.fst hxp).symm
        _ = y.position := hfirst
        _ = t'.position := congrArg Prod.fst hyp
  · rintro ⟨hasked, hshown⟩
    -- the place of such a toggle is its position, which only what is asked for changes
    have hmoves : ∀ (x y : Toggle) c,
        (Toggle.asked inp x.held c).getD x.position = (Toggle.asked inp y.held c).getD y.position →
        (x.moved inp 3 c).place.1 = (y.moved inp 3 c).place.1 := by
      intro x y c hxy
      show (x.moved inp 3 c).position = (y.moved inp 3 c).position
      rw [position_moved_ends hsecondary, position_moved_ends hsecondary, hxy]
    apply sameValues_of_first (E := fun p q => p.1 = q.1)
    case hshows => exact fun p q hpq => by rw [hpq]
    case hmoved =>
      intro x y c hxy hheld _ _
      apply hmoves
      have hposition : x.position = y.position := hxy
      rw [hheld, hposition]
    case hvalue => exact hvalue
    case hfirst =>
      intro c hc
      apply hmoves
      rw [hup]
      exact hasked c hc
    case hwaiting =>
      intro b c hb hc
      apply hmoves
      show (Toggle.asked inp b c).getD t.position = (Toggle.asked inp b c).getD t'.position
      cases hcase : Toggle.asked inp b c with
      | none => exact hshown ⟨b, c, hb, hc, hcase⟩
      | some v => rfl

/-! ### Three positions and one button -/

/-- What a press does to a place. -/
def swing (p : ℤ × ℤ) : ℤ × ℤ :=
  let dir := if p.1 ≤ 0 then 1 else if p.1 ≥ 2 then -1 else p.2
  (constrain (p.1 + dir) 0 2, dir)

/-- A press is a swing of the place. -/
theorem place_next (t : Toggle) : t.next.place = swing t.place := rfl

/-- So a tick centers the place, swings it, or leaves it. -/
theorem place_moved_single (hsecondary : inp.secondary = InputId.none) (t : Toggle)
    (c : Snapshot) :
    (t.moved inp 3 c).place =
      if centerPress inp t.held c then (1, 1)
      else if primaryPress inp t.held c then swing t.place
      else t.place := by
  rw [moved_single hsecondary]
  split_ifs
  · rfl
  · exact place_next t
  · rfl

/-- At the ends the direction does not matter. -/
theorem swing_of_end {p q : ℤ × ℤ} (h : p.1 = q.1) (hend : p.1 ≤ 0 ∨ 2 ≤ p.1) :
    swing p = swing q := by
  unfold swing
  rw [← h]
  rcases hend with hlo | hhi
  · simp only [if_pos hlo]
  · simp only [if_neg (show ¬ p.1 ≤ 0 by omega), if_pos hhi]

/-- A press that stays in the middle has no direction. -/
theorem direction_of_swing_middle {d : ℤ} (h : (swing (1, d)).1 = 1) : d = 0 := by
  have hconstrain : constrain (1 + d) 0 2 = 1 := h
  unfold constrain at hconstrain
  split_ifs at hconstrain <;> omega

/-- Two places that look alike before and after a press look alike after the
next one. -/
theorem swing_swing {p q : ℤ × ℤ} (h : p.1 = q.1) (hswing : (swing p).1 = (swing q).1) :
    (swing (swing p)).1 = (swing (swing q)).1 := by
  by_cases hend : p.1 ≤ 0 ∨ 2 ≤ p.1
  · rw [swing_of_end h hend]
  by_cases hend' : (swing p).1 ≤ 0 ∨ 2 ≤ (swing p).1
  · rw [swing_of_end hswing hend']
  -- both presses stay in the middle, so neither place has a direction
  obtain ⟨p, d⟩ := p
  obtain ⟨q, d'⟩ := q
  obtain rfl : p = 1 := by omega
  obtain rfl : 1 = q := h
  have hmiddle : (swing (1, d)).1 = 1 := by omega
  rw [direction_of_swing_middle hmiddle, direction_of_swing_middle (hswing.symm.trans hmiddle)]

/-- Some snapshot presses the button and does not center. -/
def CanPress (inp : VirtualInputConfig) : Prop :=
  ∃ c, primaryPress inp .up c = true ∧ centerPress inp .up c = false

/-- Two places that look alike: the positions are equal, and they are again
after a press, if there can be one. -/
structure AlikePlaces (inp : VirtualInputConfig) (p q : ℤ × ℤ) : Prop where
  position : p.1 = q.1
  swing : CanPress inp → (Toggle.swing p).1 = (Toggle.swing q).1

/-- A place looks like itself, and places that look alike do so after a
press. -/
theorem AlikePlaces.refl (p : ℤ × ℤ) : AlikePlaces inp p p := ⟨rfl, fun _ => rfl⟩

theorem AlikePlaces.swings {p q : ℤ × ℤ} (h : AlikePlaces inp p q) (hcan : CanPress inp) :
    AlikePlaces inp (Toggle.swing p) (Toggle.swing q) :=
  ⟨h.swing hcan, fun _ => swing_swing h.position (h.swing hcan)⟩

/-- A press of a toggle that has been ticked shows that presses can happen. -/
theorem canPress_of_seen {h : Held} (hseen : Seen inp h) (hpress : primaryPress inp h c = true)
    (hcenter : centerPress inp h c = false) : CanPress inp := by
  have hup := primaryPress_up hpress
  cases hcenter' : centerPress inp .up c with
  | false => exact ⟨c, hup, hcenter'⟩
  | true =>
    -- the modifier is down but was held, while the primary button was not: they are two inputs,
    -- and the primary button can be pressed alone
    unfold centerPress at hcenter hcenter'
    simp only [Bool.and_eq_true, decide_eq_true_eq] at hcenter'
    obtain ⟨hfunction, hmodifier, -⟩ := hcenter'
    have hheld : h.modifier = true := by
      simpa [hfunction, hmodifier] using hcenter
    unfold primaryPress at hpress
    simp only [Bool.and_eq_true, Bool.not_eq_true'] at hpress
    obtain ⟨-, hactive, hprimary⟩ := hpress
    rcases hseen with rfl | ⟨c₁, rfl⟩
    · cases hheld
    have hne : inp.modifier ≠ inp.primary := by
      intro heq
      have hsame : modifierPressed inp c₁ = true := hheld
      unfold modifierPressed at hsame
      rw [heq] at hsame
      split_ifs at hsame
      rw [show isInputActive inp.primary c₁ = false from hprimary] at hsame
      cases hsame
    have hprimary : isInputActive inp.primary c = true := hactive
    obtain ⟨halone, hothers⟩ := exists_onlyActive hprimary
    refine ⟨onlyActive inp.primary, ?_, ?_⟩
    · unfold primaryPress
      rw [enabledAt_of_center hfunction]
      show (true && (isInputActive inp.primary (onlyActive inp.primary) && !false)) = true
      rw [halone]
      rfl
    · have hnone : modifierPressed inp (onlyActive inp.primary) = false := by
        unfold modifierPressed
        split_ifs
        · exact hothers _ hne
        · rfl
      show (_ && (modifierPressed inp (onlyActive inp.primary) && _)) = false
      rw [hnone, Bool.false_and, Bool.and_false]

/-- When a toggle of three positions and one button is kept. Each clause is
about one way in which the first value can come: without a press, with a press,
with the button held, and from the center. -/
structure KeptCycle (inp : VirtualInputConfig) (t t' : Toggle) : Prop where
  idle : (∃ b c, Waiting inp b ∧ enabledAt inp c = true ∧ centerPress inp b c = false ∧
    primaryPress inp b c = false) → AlikePlaces inp t.place t'.place
  pressed : CanPress inp → AlikePlaces inp (swing t.place) (swing t'.place)
  held : t.held.primary = true → CanPress inp → AlikePlaces inp t.place (swing t'.place)
  center : t.held.modifier = true → ∀ c, centerPress inp .up c = true →
    AlikePlaces inp (if primaryPress inp t.held c then swing t.place else t.place) (1, 1)

section Cycle

variable (hsecondary : inp.secondary = InputId.none)
include hsecondary

/-- Presses after the same values show the same values. -/
theorem SameValues.swing (h : SameValues inp 3 t t') (hcan : CanPress inp) :
    (Toggle.swing t.place).1 = (Toggle.swing t'.place).1 := by
  obtain ⟨c, hpress, hcenter⟩ := hcan
  have hc := enabledAt_of_primaryPress hpress
  obtain ⟨x, y, hxy, hx, hy, hxp, hyp⟩ := h.waiting (.inl rfl)
  have hfirst : (x.moved inp 3 c).place.1 = (y.moved inp 3 c).place.1 :=
    (toggleValue_three ..).mp (hxy.first hc)
  rw [place_moved_single hsecondary, place_moved_single hsecondary, hx, hy, hcenter, hpress, hxp,
    hyp] at hfirst
  exact hfirst

/-- The first tick takes the places to places that are alike. -/
theorem SameValues.alike (h : SameValues inp 3 t t') (hc : enabledAt inp c = true) :
    AlikePlaces inp (t.moved inp 3 c).place (t'.moved inp 3 c).place := by
  have hnext := h.tick (some c)
  have hswing := fun hcan => SameValues.swing hsecondary hnext hcan
  exact ⟨(toggleValue_three ..).mp (h.first hc), hswing⟩

/-- So does the first one after ticks that show nothing. -/
theorem SameValues.alike_waiting (h : SameValues inp 3 t t') {b : Held} (hb : Waiting inp b)
    (hc : enabledAt inp c = true) (hcenter : centerPress inp b c = false) :
    AlikePlaces inp (if primaryPress inp b c then Toggle.swing t.place else t.place)
      (if primaryPress inp b c then Toggle.swing t'.place else t'.place) := by
  obtain ⟨x, y, hxy, hx, hy, hxp, hyp⟩ := h.waiting hb
  have halike := hxy.alike hsecondary hc
  rwa [place_moved_single hsecondary, place_moved_single hsecondary, hx, hy, hcenter, hxp, hyp]
    at halike

/-- **Toggles that show the same values are kept.** Each clause is one snapshot
after the last tick, or after one that shows nothing. Such a snapshot exists by
the hypothesis of the clause. -/
theorem SameValues.keptCycle (h : SameValues inp 3 t t') (hup : t'.held = .up) :
    KeptCycle inp t t' := by
  constructor
  case idle =>
    rintro ⟨b, c, hb, hc, hcenter, hpress⟩
    have halike := h.alike_waiting hsecondary hb hc hcenter
    rwa [hpress] at halike
  case pressed =>
    rintro ⟨c, hpress, hcenter⟩
    have halike := h.alike_waiting hsecondary (.inl rfl) (enabledAt_of_primaryPress hpress) hcenter
    rwa [hpress] at halike
  case held =>
    -- the button was held in `t` and counts as pressed in `t'`
    rintro hheld ⟨c, hpress, hcenter⟩
    have halike := h.alike hsecondary (enabledAt_of_primaryPress hpress)
    rwa [place_moved_single hsecondary, place_moved_single hsecondary, hup, hcenter, hpress,
      centerPress_of_up hcenter, primaryPress_of_held hheld] at halike
  case center =>
    -- the modifier was held in `t` and centers `t'`
    intro hheld c hcenter
    have halike := h.alike hsecondary (enabledAt_of_centerPress hcenter)
    rwa [place_moved_single hsecondary, place_moved_single hsecondary, hup, hcenter,
      centerPress_of_held hheld] at halike

/-- Alike places stay alike as long as the same buttons were held. -/
theorem AlikePlaces.moved (h : AlikePlaces inp t.place t'.place) (hheld : t.held = t'.held)
    (hseen : Seen inp t.held) :
    AlikePlaces inp (t.moved inp 3 c).place (t'.moved inp 3 c).place := by
  rw [place_moved_single hsecondary, place_moved_single hsecondary, ← hheld]
  cases hcenter : centerPress inp t.held c with
  | true => exact .refl _
  | false =>
    cases hpress : primaryPress inp t.held c with
    | true => exact h.swings (canPress_of_seen hseen hpress hcenter)
    | false => exact h

/-- A kept toggle waits like the old one: nothing is shown until the first
enabled tick. -/
theorem KeptCycle.waiting (h : KeptCycle inp t t') {b : Held} (hb : Waiting inp b)
    (hc : enabledAt inp c = true) :
    AlikePlaces inp ((t.holding b).moved inp 3 c).place ((t'.holding b).moved inp 3 c).place := by
  rw [place_moved_single hsecondary, place_moved_single hsecondary]
  show AlikePlaces inp
    (if centerPress inp b c then _ else if primaryPress inp b c then _ else _)
    (if centerPress inp b c then _ else if primaryPress inp b c then _ else _)
  cases hcenter : centerPress inp b c with
  | true => exact .refl _
  | false =>
    cases hpress : primaryPress inp b c with
    | true => exact h.pressed (canPress_of_seen hb.seen hpress hcenter)
    | false => exact h.idle ⟨b, c, hb, hc, hcenter, hpress⟩

/-- **The first tick of a kept toggle.** What was held tells the old toggle
which presses are new; the kept one takes every button that is down for
pressed. -/
theorem KeptCycle.first (h : KeptCycle inp t t') (hup : t'.held = .up)
    (hc : enabledAt inp c = true) :
    AlikePlaces inp (t.moved inp 3 c).place (t'.moved inp 3 c).place := by
  rw [place_moved_single hsecondary, place_moved_single hsecondary, hup]
  -- the centre button takes the press before the other one is looked at
  cases hcenter : centerPress inp .up c with
  | true =>
    cases hmodifier : t.held.modifier with
    | true =>
      rw [centerPress_of_held hmodifier]
      exact h.center hmodifier c hcenter
    | false =>
      rw [centerPress_of_not_held hmodifier, hcenter]
      exact .refl _
  | false =>
    rw [centerPress_of_up hcenter]
    cases hpress : primaryPress inp .up c with
    | true =>
      cases hheld : t.held.primary with
      | true =>
        rw [primaryPress_of_held hheld]
        exact h.held hheld ⟨c, hpress, hcenter⟩
      | false =>
        rw [primaryPress_of_not_held hheld, hpress]
        exact h.pressed ⟨c, hpress, hcenter⟩
    | false =>
      -- no press from nothing held, so none from what the old toggle held
      have hquiet : primaryPress inp t.held c = false := by
        rw [Bool.eq_false_iff]
        intro hpressed
        rw [primaryPress_up hpressed] at hpress
        cases hpress
      rw [hquiet]
      exact h.idle ⟨.up, c, .inl rfl, hc, hcenter, hpress⟩

/-- So for one button, too, the condition is exact. -/
theorem sameValues_cycle_iff (hvalue : t.value = t'.value) (hup : t'.held = .up) :
    SameValues inp 3 t t' ↔ KeptCycle inp t t' := by
  refine ⟨fun h => h.keptCycle hsecondary hup, fun hkept => ?_⟩
  apply sameValues_of_first (E := AlikePlaces inp)
  case hshows => exact fun p q hpq => by rw [hpq.position]
  case hmoved => exact fun x y c hxy hheld hseen _ => hxy.moved hsecondary hheld hseen
  case hvalue => exact hvalue
  case hfirst => exact fun c hc => hkept.first hsecondary hup hc
  case hwaiting => exact fun b c hb hc => hkept.waiting hsecondary hb hc

end Cycle

end Toggle

end RcController
