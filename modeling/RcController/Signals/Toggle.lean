import RcController.Lib.Runs
import RcController.Signals.Response

/-!
# Toggles

A toggle input as a machine of its own: three edge detectors, a position, a direction and
a value (`Toggle`). One tick of `evaluateVirtualRuntime` moves the memory of a slot as
`Toggle.tick` moves this machine, whatever the clock says (`toggleOf_slot`). Only a press
moves the position: a button that is down, was up a tick ago, and is let through by the
modifier. The laws of a run follow by counting presses.
-/

namespace RcController

open Runs

variable {powf : ℚ → ℚ → ℚ} {inp : VirtualInputConfig} {c : Snapshot}

/-! ### The machine -/

/-- Which of the three buttons were down at the last tick. -/
structure Held where
  primary : Bool
  secondary : Bool
  modifier : Bool

/-- Which are down in a snapshot. -/
def held (inp : VirtualInputConfig) (c : Snapshot) : Held where
  primary := isInputActive inp.primary c
  secondary := if inp.secondary ≠ InputId.none then isInputActive inp.secondary c else false
  modifier := modifierPressed inp c

/-- What the memory of a slot is for a toggle. The rumble and its clock are not
part of it. -/
structure Toggle where
  held : Held
  position : ℤ
  direction : ℤ
  value : ℚ

def toggleOf (m : InputMemory) : Toggle where
  held := ⟨m.togglePrimaryPressedPrev, m.toggleSecondaryPressedPrev, m.toggleModifierPressedPrev⟩
  position := m.togglePosition
  direction := m.toggle3Direction
  value := m.runtime

/-- A press of the first button: it is down, it was up, and the modifier lets it
through. -/
def primaryPress (inp : VirtualInputConfig) (h : Held) (c : Snapshot) : Bool :=
  enabledAt inp c && ((held inp c).primary && !h.primary)

/-- A press of the second button, for a toggle that has one. -/
def secondaryPress (inp : VirtualInputConfig) (h : Held) (c : Snapshot) : Bool :=
  enabledAt inp c && ((held inp c).secondary && !h.secondary)

/-- A press that centers: the modifier goes down, and its function is to
center. -/
def centerPress (inp : VirtualInputConfig) (h : Held) (c : Snapshot) : Bool :=
  inp.modifierFunction = .center && ((held inp c).modifier && !h.modifier)

namespace Toggle

/-- One step of the toggle on one button. It turns at both ends. -/
def next (t : Toggle) : Toggle :=
  let dir := if t.position ≤ 0 then 1 else if t.position ≥ 2 then -1 else t.direction
  { t with direction := dir, position := constrain (t.position + dir) 0 2 }

/-- What the presses of a tick do. With three positions the center comes first,
then the buttons for the two ends, and a single button steps. -/
def press (inp : VirtualInputConfig) (positions : ℕ) (primary secondary center : Bool)
    (t : Toggle) : Toggle :=
  if positions = 2 then
    if primary then { t with position := if t.position = 0 then 1 else 0 } else t
  else if center then { t with position := 1, direction := 1 }
  else if inp.secondary ≠ InputId.none then
    if primary && !secondary then { t with position := 2 }
    else if secondary && !primary then { t with position := 0 }
    else t
  else if primary then t.next
  else t

/-- The presses of a snapshot, carried out. A gated tick has none. -/
def moved (inp : VirtualInputConfig) (positions : ℕ) (t : Toggle) (c : Snapshot) : Toggle :=
  t.press inp positions (primaryPress inp t.held c) (secondaryPress inp t.held c)
    (centerPress inp t.held c)

/-- One tick: the presses are carried out, the buttons remembered, and the value
shown. Without a gamepad the buttons are forgotten and the value is zero. -/
def tick (inp : VirtualInputConfig) (positions : ℕ) (t : Toggle) : Option Snapshot → Toggle
  | none => { t with held := ⟨false, false, false⟩, value := 0 }
  | some c =>
    let m := t.moved inp positions c
    { m with
      held := RcController.held inp c
      value := if enabledAt inp c then toggleValue inp.toggleRange positions m.position else 0 }

end Toggle

/-- A Center modifier does not gate. -/
theorem enabledAt_of_center (h : inp.modifierFunction = .center) (c : Snapshot) :
    enabledAt inp c = true := by
  unfold enabledAt isInputEnabledByModifier
  rw [h]
  split_ifs <;> rfl

/-- The memory after the edges of a tick were used, as the source has it. -/
def risen (inp : VirtualInputConfig) (positions : ℕ) (primaryRise secondaryRise modifierRise : Bool)
    (m : InputMemory) : InputMemory :=
  if modifierRise && positions = 3 && inp.modifierFunction = .center then
    { m with togglePosition := 1, toggle3Direction := 1 }
  else if positions = 2 && primaryRise then
    { m with togglePosition := if m.togglePosition = 0 then 1 else 0 }
  else if positions = 3 && inp.secondary ≠ .none then
    if primaryRise && !secondaryRise then { m with togglePosition := 2 }
    else if secondaryRise && !primaryRise then { m with togglePosition := 0 }
    else m
  else if primaryRise then
    if positions = 2 then
      { m with togglePosition := if m.togglePosition = 0 then 1 else 0 }
    else
      let dir :=
        if m.togglePosition ≤ 0 then 1
        else if m.togglePosition ≥ 2 then -1
        else m.toggle3Direction
      { m with
        toggle3Direction := dir
        togglePosition := constrain (m.togglePosition + dir) 0 2 }
  else m

/-- It is what the presses make of the machine. -/
theorem toggleOf_risen {positions : ℕ} (hpos : positions = 2 ∨ positions = 3)
    (primaryRise secondaryRise modifierRise : Bool) (m : InputMemory) :
    toggleOf (risen inp positions primaryRise secondaryRise modifierRise m) =
      (toggleOf m).press inp positions primaryRise secondaryRise
        (inp.modifierFunction = .center && modifierRise) := by
  -- the buttons are compared case by case
  rcases hpos with rfl | rfl
  · by_cases hzero : m.togglePosition = 0 <;> cases primaryRise <;>
      simp [risen, Toggle.press, toggleOf, hzero]
  · by_cases hcenter : inp.modifierFunction = .center <;>
      by_cases hsecondary : inp.secondary = InputId.none <;>
      cases primaryRise <;> cases secondaryRise <;> cases modifierRise <;>
      simp [risen, Toggle.press, Toggle.next, toggleOf, hcenter, hsecondary]

/-- A gated tick moves nothing. -/
theorem Toggle.moved_of_gated (hc : enabledAt inp c = false) (positions : ℕ) (t : Toggle) :
    t.moved inp positions c = t := by
  have hcenter : inp.modifierFunction ≠ .center := by
    intro h
    rw [enabledAt_of_center h] at hc
    cases hc
  simp [moved, press, primaryPress, secondaryPress, centerPress, hc, hcenter]

/-- **`evaluateToggleVirtualInput` moves the machine.** A gated tick leaves the
place, and otherwise the edges of the source are the presses of the machine. -/
theorem toggleOf_evaluate (inp : VirtualInputConfig) (m : InputMemory) (c : Snapshot)
    {positions : ℕ} (hpos : positions = 2 ∨ positions = 3) :
    let r := evaluateToggleVirtualInput inp m c positions
    toggleOf { r.2 with runtime := r.1 } = (toggleOf m).tick inp positions (some c) := by
  -- the memory the edges find, with the detectors already moved
  let m₁ : InputMemory := { m with
    togglePrimaryPressedPrev := (held inp c).primary
    toggleSecondaryPressedPrev := (held inp c).secondary
    toggleModifierPressedPrev := (held inp c).modifier }
  let m₂ := risen inp positions ((held inp c).primary && !m.togglePrimaryPressedPrev)
    ((held inp c).secondary && !m.toggleSecondaryPressedPrev)
    ((held inp c).modifier && !m.toggleModifierPressedPrev) m₁
  have heq : evaluateToggleVirtualInput inp m c positions =
      if !enabledAt inp c then (0, m₁)
      else (toggleValue inp.toggleRange positions m₂.togglePosition, m₂) := rfl
  cases hc : enabledAt inp c with
  | false =>
    -- a gated tick moves the detectors and writes a zero
    rw [heq, hc]
    simp only [Toggle.tick, Toggle.moved_of_gated hc, hc]
    rfl
  | true =>
    -- the edges are the presses, so the toggle goes where they take it
    have hmoved : toggleOf m₂ =
        { (toggleOf m).moved inp positions c with held := held inp c } := by
      rw [toggleOf_risen hpos]
      simp only [Toggle.moved, Toggle.press, Toggle.next, primaryPress, secondaryPress,
        centerPress, hc, Bool.true_and, m₁, toggleOf]
      split_ifs <;> rfl
    have hposition : m₂.togglePosition = ((toggleOf m).moved inp positions c).position :=
      congrArg Toggle.position hmoved
    rw [heq, hc]
    show ({ toggleOf m₂ with value := _ } : Toggle) = _
    simp only [hmoved, hposition, Toggle.tick, hc, if_true]
    rfl

/-- A rumble does not touch it. -/
theorem toggleOf_playInputRumble (now : UInt32) (m : InputMemory) :
    toggleOf (playInputRumble now m) = toggleOf m := by
  unfold playInputRumble
  split_ifs <;> rfl

/-- How many positions a toggle of a type has. -/
def toggleSize : InputType → ℕ
  | .toggle3Pos => 3
  | _ => 2

theorem toggleSize_toggle3Pos : toggleSize .toggle3Pos = 3 := rfl

/-- There are two or three of them. -/
theorem toggleSize_cases (type : InputType) : toggleSize type = 2 ∨ toggleSize type = 3 := by
  cases type
  · exact .inl rfl
  · exact .inl rfl
  · exact .inr rfl

/-- A tick of a toggle slot: the toggle is evaluated, and a rumble may
follow. -/
theorem evaluateVirtualSlot_toggle (htoggle : inp.inputType ≠ .direct) (now : UInt32)
    (m : InputMemory) (c : Snapshot) :
    let r := evaluateToggleVirtualInput inp m c (toggleSize inp.inputType)
    let m' : InputMemory := { r.2 with runtime := r.1 }
    evaluateVirtualSlot powf now inp m (some c) = m' ∨
      evaluateVirtualSlot powf now inp m (some c) = playInputRumble now m' := by
  intro r m'
  have heq : evaluateVirtualSlot powf now inp m (some c) =
      if inp.rumbleEnabled && m.togglePosition ≠ m'.togglePosition then playInputRumble now m'
      else m' := by
    unfold evaluateVirtualSlot
    cases htype : inp.inputType with
    | direct => exact absurd htype htoggle
    | toggle2Pos =>
      simp only [m', r, htype]
      rfl
    | toggle3Pos =>
      simp only [m', r, htype]
      rfl
  rw [heq]
  split_ifs
  · exact .inr rfl
  · exact .inl rfl

/-- **A tick of the slot is a tick of the machine**, at any time. -/
theorem toggleOf_slot (htoggle : inp.inputType ≠ .direct) (now : UInt32) (m : InputMemory)
    (ctl : Option Snapshot) :
    toggleOf (evaluateVirtualSlot powf now inp m ctl) =
      (toggleOf m).tick inp (toggleSize inp.inputType) ctl := by
  cases ctl with
  | none => rfl
  | some c =>
    rw [← toggleOf_evaluate inp m c (toggleSize_cases inp.inputType)]
    -- the rumble that may follow is none of the toggle's business
    rcases @evaluateVirtualSlot_toggle powf inp htoggle now m c with heq | heq
    · rw [heq]
    · rw [heq, toggleOf_playInputRumble]

/-- The memory of all slots after some ticks, each at its time and with a
snapshot or without one. -/
def memoryAfter (powf : ℚ → ℚ → ℚ) (virtualInputs : InputIdx → VirtualInputConfig)
    (memory : InputIdx → InputMemory) (ticks : List (UInt32 × Option Snapshot)) :
    InputIdx → InputMemory :=
  run (fun memory t => evaluateVirtualRuntime powf t.1 virtualInputs memory t.2) memory ticks

/-- A slot sees its own ticks only. The loop over the inputs evaluates each on
its own. -/
theorem memoryAfter_slot (powf : ℚ → ℚ → ℚ) (virtualInputs : InputIdx → VirtualInputConfig)
    (memory : InputIdx → InputMemory) (ticks : List (UInt32 × Option Snapshot)) (i : InputIdx) :
    memoryAfter powf virtualInputs memory ticks i =
      run (fun m t => evaluateVirtualSlot powf t.1 (virtualInputs i) m t.2) (memory i) ticks := by
  induction ticks generalizing memory with
  | nil => rfl
  | cons t ticks ih => exact ih _

/-- **Ticks of a toggle slot are ticks of the machine.** -/
theorem toggleOf_run_slot (htoggle : inp.inputType ≠ .direct) (m : InputMemory)
    (ticks : List (UInt32 × Option Snapshot)) :
    toggleOf (run (fun m t => evaluateVirtualSlot powf t.1 inp m t.2) m ticks) =
      run (Toggle.tick inp (toggleSize inp.inputType)) (toggleOf m) (ticks.map Prod.snd) := by
  induction ticks generalizing m with
  | nil => rfl
  | cons t ticks ih =>
    rw [run_cons, ih, toggleOf_slot htoggle, List.map_cons, run_cons]

/-- So for the memory of a device they are. -/
theorem toggleOf_memoryAfter {virtualInputs : InputIdx → VirtualInputConfig} {i : InputIdx}
    (htoggle : (virtualInputs i).inputType ≠ .direct) (memory : InputIdx → InputMemory)
    (ticks : List (UInt32 × Option Snapshot)) :
    toggleOf (memoryAfter powf virtualInputs memory ticks i) =
      run (Toggle.tick (virtualInputs i) (toggleSize (virtualInputs i).inputType))
        (toggleOf (memory i)) (ticks.map Prod.snd) := by
  rw [memoryAfter_slot, toggleOf_run_slot htoggle]

/-! ### Laws of the machine -/

namespace Toggle

variable {positions : ℕ} {t : Toggle}

/-- The machine after a list of snapshots. -/
def after (inp : VirtualInputConfig) (positions : ℕ) (t : Toggle) (cs : List Snapshot) : Toggle :=
  run (fun t c => t.tick inp positions (some c)) t cs

@[simp] theorem after_nil : t.after inp positions [] = t := rfl

@[simp] theorem after_cons (c : Snapshot) (cs : List Snapshot) :
    t.after inp positions (c :: cs) = (t.tick inp positions (some c)).after inp positions cs := rfl

/-- The last snapshot is one more tick. -/
theorem after_concat (c : Snapshot) (cs : List Snapshot) :
    t.after inp positions (cs ++ [c]) = (t.after inp positions cs).tick inp positions (some c) := by
  unfold after run
  rw [List.foldl_append]
  rfl

@[simp] theorem value_tick :
    (t.tick inp positions (some c)).value =
      if enabledAt inp c then
        toggleValue inp.toggleRange positions (t.tick inp positions (some c)).position
      else 0 := rfl

/-- The buttons of the last snapshot, or those held at the start. -/
def lastHeld (inp : VirtualInputConfig) (h : Held) (cs : List Snapshot) : Held :=
  (cs.getLast?.map (RcController.held inp)).getD h

@[simp] theorem held_tick : (t.tick inp positions (some c)).held = RcController.held inp c := rfl

@[simp] theorem position_tick :
    (t.tick inp positions (some c)).position = (t.moved inp positions c).position := rfl

/-- They are what is held. -/
theorem held_after (t : Toggle) (cs : List Snapshot) :
    (t.after inp positions cs).held = lastHeld inp t.held cs := by
  -- only the last snapshot is remembered
  rcases List.eq_nil_or_concat cs with rfl | ⟨cs, c, rfl⟩
  · rfl
  · rw [List.concat_eq_append, after_concat, held_tick]
    simp [lastHeld]

/-- Without a press nothing moves. -/
theorem press_none : t.press inp positions false false false = t := by
  simp [press]

/-- Buttons that stay down are not pressed again. -/
theorem moved_of_held (h : t.held = RcController.held inp c) : t.moved inp positions c = t := by
  unfold moved primaryPress secondaryPress centerPress
  rw [h]
  simp only [Bool.and_not_self, Bool.and_false]
  exact press_none

/-- **A repeated snapshot changes nothing.** The buttons are down already, so
nothing is pressed. -/
theorem tick_tick (t : Toggle) (c : Snapshot) :
    (t.tick inp positions (some c)).tick inp positions (some c) =
      t.tick inp positions (some c) := by
  have hmoved : (t.tick inp positions (some c)).moved inp positions c =
      t.tick inp positions (some c) := moved_of_held held_tick
  conv_lhs => rw [tick]
  rw [hmoved]
  rfl

/-- A position and a direction that a toggle can have. -/
structure Valid (t : Toggle) : Prop where
  position_nonneg : 0 ≤ t.position
  position_le : t.position ≤ 2
  direction : t.direction = 1 ∨ t.direction = -1

/-- One press of a cycling toggle, position by position. -/
theorem next_cases (h : t.Valid) :
    t.position = 0 ∧ t.next.position = 1 ∧ t.next.direction = 1 ∨
      t.position = 2 ∧ t.next.position = 1 ∧ t.next.direction = -1 ∨
      t.position = 1 ∧ t.next.position = 1 + t.direction ∧ t.next.direction = t.direction := by
  obtain ⟨hlo, hhi, hdir⟩ := h
  have hcases : t.position = 0 ∨ t.position = 1 ∨ t.position = 2 := by omega
  rcases hcases with h0 | h1 | h2
  · exact .inl ⟨h0, by simp [next, h0, constrain], by simp [next, h0]⟩
  · refine .inr (.inr ⟨h1, ?_, by simp [next, h1]⟩)
    rcases hdir with hd | hd <;> simp [next, h1, hd, constrain]
  · exact .inr (.inl ⟨h2, by simp [next, h2, constrain], by simp [next, h2]⟩)

/-- A press leads from one to another. -/
theorem Valid.next (h : t.Valid) : t.next.Valid := by
  obtain ⟨-, hp, hd⟩ | ⟨-, hp, hd⟩ | ⟨-, hp, hd⟩ := next_cases h
  · exact ⟨by omega, by omega, .inl hd⟩
  · exact ⟨by omega, by omega, .inr hd⟩
  · rcases h.direction with hdir | hdir
    · exact ⟨by omega, by omega, .inl (by omega)⟩
    · exact ⟨by omega, by omega, .inr (by omega)⟩

/-! ### Two positions -/

/-- How often the first button is pressed along the snapshots. -/
def primaryPresses (inp : VirtualInputConfig) : Held → List Snapshot → ℕ
  | _, [] => 0
  | h, c :: cs =>
    (if primaryPress inp h c then 1 else 0) + primaryPresses inp (RcController.held inp c) cs

/-- **Two positions**: every press flips. By induction on the snapshots, with
parity for the number of presses. -/
theorem after_two (t : Toggle) (cs : List Snapshot) :
    (t.after inp 2 cs).position = 0 ↔
      (t.position = 0 ↔ Even (primaryPresses inp t.held cs)) := by
  induction cs generalizing t with
  | nil => simp [primaryPresses]
  | cons c cs ih =>
    rw [after_cons, ih, held_tick, position_tick, primaryPresses]
    cases hpress : primaryPress inp t.held c with
    | false => simp [moved, press, hpress]
    | true =>
      have hflip : (t.moved inp 2 c).position = 0 ↔ ¬ t.position = 0 := by
        simp [moved, press, hpress]
      rw [hflip, if_pos rfl, Nat.even_add]
      simp only [Nat.not_even_one, false_iff]
      tauto

/-! ### Three positions and one button -/

/-- The positions of a toggle that steps up and down, over and over again. -/
def wave (k : ℕ) : ℤ := if k % 4 = 0 then 0 else if k % 4 = 2 then 2 else 1

/-- Where on the wave a toggle stands. -/
def phase (t : Toggle) : ℕ :=
  if t.position = 0 then 0 else if t.position = 2 then 2 else if t.direction = 1 then 1 else 3

/-- Its position is that of the wave, The wave repeats itself after four
steps. -/
theorem wave_phase (h : t.Valid) : wave t.phase = t.position := by
  obtain ⟨hlo, hhi, hdir⟩ := h
  have hcases : t.position = 0 ∨ t.position = 1 ∨ t.position = 2 := by omega
  rcases hcases with h0 | h1 | h2
  · simp [phase, wave, h0]
  · rcases hdir with hd | hd <;> simp [phase, wave, h1, hd]
  · simp [phase, wave, h2]

/-- A press is one step on the wave. -/
theorem phase_next (h : t.Valid) : t.next.phase % 4 = (t.phase + 1) % 4 := by
  obtain ⟨h0, hp, hd⟩ | ⟨h2, hp, hd⟩ | ⟨h1, hp, hd⟩ := next_cases h
  · simp [phase, h0, hp, hd]
  · simp [phase, h2, hp, hd]
  · rcases h.direction with hdir | hdir
    · simp [phase, h1, hp, hdir]
    · simp [phase, h1, hp, hdir]

theorem wave_congr {j k : ℕ} (h : j % 4 = k % 4) : wave j = wave k := by
  unfold wave
  rw [h]

/-- Neighbours on the wave are one apart. -/
theorem wave_succ (k : ℕ) : |wave (k + 1) - wave k| = 1 := by
  have hcases : k % 4 = 0 ∨ k % 4 = 1 ∨ k % 4 = 2 ∨ k % 4 = 3 := by omega
  unfold wave
  rcases hcases with h | h | h | h <;> simp [Nat.add_mod, h]

/-- With a single button a tick centers the toggle, steps it, or does
neither. -/
theorem moved_single (hsecondary : inp.secondary = InputId.none) (t : Toggle) (c : Snapshot) :
    t.moved inp 3 c =
      if centerPress inp t.held c then { t with position := 1, direction := 1 }
      else if primaryPress inp t.held c then t.next
      else t := by
  simp [moved, press, hsecondary]

section Cycle

variable (hsecondary : inp.secondary = InputId.none) (hcenter : inp.modifierFunction ≠ .center)
include hsecondary hcenter

/-- Without a center it steps or does not. -/
theorem moved_cycle (t : Toggle) (c : Snapshot) :
    t.moved inp 3 c = if primaryPress inp t.held c then t.next else t := by
  have hnone : centerPress inp t.held c = false := by
    unfold centerPress
    rw [decide_eq_false hcenter, Bool.false_and]
  rw [moved_single hsecondary, hnone]
  rfl

/-- So it stays on the wave. -/
theorem Valid.tick_cycle (h : t.Valid) (c : Snapshot) : (t.tick inp 3 (some c)).Valid := by
  have hmoved : (t.moved inp 3 c).Valid := by
    rw [moved_cycle hsecondary hcenter]
    split_ifs
    · exact h.next
    · exact h
  exact ⟨hmoved.position_nonneg, hmoved.position_le, hmoved.direction⟩

/-- A press is one step on the wave. -/
theorem phase_tick_cycle (h : t.Valid) (c : Snapshot) :
    (t.tick inp 3 (some c)).phase % 4 =
      (t.phase + if primaryPress inp t.held c then 1 else 0) % 4 := by
  have hphase : (t.tick inp 3 (some c)).phase = (t.moved inp 3 c).phase := rfl
  rw [hphase, moved_cycle hsecondary hcenter]
  split_ifs
  · exact phase_next h
  · rfl

/-- **One button, three positions**: every press is one step on the wave. -/
theorem after_cycle (h : t.Valid) (cs : List Snapshot) :
    (t.after inp 3 cs).Valid ∧
      (t.after inp 3 cs).phase % 4 = (t.phase + primaryPresses inp t.held cs) % 4 := by
  induction cs generalizing t with
  | nil => exact ⟨h, rfl⟩
  | cons c cs ih =>
    obtain ⟨hvalid, hphase⟩ := ih (h.tick_cycle hsecondary hcenter c)
    have htick := phase_tick_cycle hsecondary hcenter h c
    refine ⟨hvalid, ?_⟩
    rw [after_cons, hphase, held_tick, primaryPresses]
    omega

/-- So the number of presses tells the position. -/
theorem position_after_cycle (h : t.Valid) (cs : List Snapshot) :
    (t.after inp 3 cs).position = wave (t.phase + primaryPresses inp t.held cs) := by
  obtain ⟨hvalid, hphase⟩ := after_cycle hsecondary hcenter h cs
  rw [← wave_phase hvalid]
  exact wave_congr hphase

/-- No press jumps, and nothing else moves. -/
theorem adjacent_cycle (h : t.Valid) (c : Snapshot) :
    |(t.tick inp 3 (some c)).position - t.position| =
      if primaryPress inp t.held c then 1 else 0 := by
  rw [position_tick, moved_cycle hsecondary hcenter]
  split_ifs
  · rw [← wave_phase h.next, ← wave_phase h, wave_congr (phase_next h)]
    exact wave_succ _
  · rw [sub_self, abs_zero]

end Cycle

/-! ### Three positions and a button for each end -/

/-- The position that a tick asks for: the center, the far end for a press of
the first button alone, the near end for one of the second alone. -/
def asked (inp : VirtualInputConfig) (h : Held) (c : Snapshot) : Option ℤ :=
  if centerPress inp h c then some 1
  else if primaryPress inp h c && !secondaryPress inp h c then some 2
  else if secondaryPress inp h c && !primaryPress inp h c then some 0
  else none

/-- The last position asked for along the snapshots. -/
def lastAsked (inp : VirtualInputConfig) : Held → List Snapshot → Option ℤ
  | _, [] => none
  | h, c :: cs => (lastAsked inp (RcController.held inp c) cs).or (asked inp h c)

/-- A tick moves the toggle to the position it asks for, if any. -/
theorem position_moved_ends (hsecondary : inp.secondary ≠ InputId.none) (t : Toggle)
    (c : Snapshot) : (t.moved inp 3 c).position = (asked inp t.held c).getD t.position := by
  simp only [moved, press, asked, if_pos hsecondary]
  rw [if_neg (by norm_num)]
  split_ifs <;> rfl

/-- **Two buttons, three positions**: the last position asked for is the
position. -/
theorem after_ends (hsecondary : inp.secondary ≠ InputId.none) (t : Toggle) (cs : List Snapshot) :
    (t.after inp 3 cs).position = (lastAsked inp t.held cs).getD t.position := by
  induction cs generalizing t with
  | nil => rfl
  | cons c cs ih =>
    rw [after_cons, ih, held_tick, position_tick, position_moved_ends hsecondary, lastAsked,
      Option.getD_or]

/-- **The center wins** over the other presses of its tick. -/
theorem position_center (h : centerPress inp t.held c = true) :
    (t.tick inp 3 (some c)).position = 1 := by
  rw [position_tick]
  simp [moved, press, h]

end Toggle

/-! ### Toggles of the device -/

/-- The memory of a device after snapshots at their times, with the gamepad
connected all along. -/
def afterSnapshots (powf : ℚ → ℚ → ℚ) (virtualInputs : InputIdx → VirtualInputConfig)
    (memory : InputIdx → InputMemory) (ticks : List (UInt32 × Snapshot)) :
    InputIdx → InputMemory :=
  memoryAfter powf virtualInputs memory (ticks.map fun t => (t.1, some t.2))

variable {virtualInputs : InputIdx → VirtualInputConfig} {i : InputIdx}

/-- It is the machine after these snapshots; the times do not matter. -/
theorem toggleOf_afterSnapshots (htoggle : (virtualInputs i).inputType ≠ .direct)
    (memory : InputIdx → InputMemory) (ticks : List (UInt32 × Snapshot)) :
    toggleOf (afterSnapshots powf virtualInputs memory ticks i) =
      (toggleOf (memory i)).after (virtualInputs i) (toggleSize (virtualInputs i).inputType)
        (ticks.map Prod.snd) := by
  unfold afterSnapshots
  rw [toggleOf_memoryAfter htoggle, List.map_map]
  unfold Toggle.after run
  rw [List.foldl_map, List.foldl_map]
  rfl

/-- All that is said of a toggle of the device, in terms of presses: repeated
and gated snapshots, two positions, three of them on one button or on two, and
the center. -/
structure CountsPresses (powf : ℚ → ℚ → ℚ) (virtualInputs : InputIdx → VirtualInputConfig)
    (memory : InputIdx → InputMemory) (i : InputIdx) : Prop where
  repeated : ∀ ticks ticks', Stutters (ticks.map Prod.snd) (ticks'.map Prod.snd) →
    (afterSnapshots powf virtualInputs memory ticks' i).togglePosition =
        (afterSnapshots powf virtualInputs memory ticks i).togglePosition ∧
      (afterSnapshots powf virtualInputs memory ticks' i).runtime =
        (afterSnapshots powf virtualInputs memory ticks i).runtime
  gated : ∀ ticks now c, enabledAt (virtualInputs i) c = false →
    (afterSnapshots powf virtualInputs memory (ticks ++ [(now, c)]) i).togglePosition =
      (afterSnapshots powf virtualInputs memory ticks i).togglePosition
  two : (virtualInputs i).inputType = .toggle2Pos → ∀ ticks,
    (afterSnapshots powf virtualInputs memory ticks i).togglePosition = 0 ↔
      ((memory i).togglePosition = 0 ↔
        Even (Toggle.primaryPresses (virtualInputs i) (toggleOf (memory i)).held
          (ticks.map Prod.snd)))
  cycle : (virtualInputs i).inputType = .toggle3Pos → (virtualInputs i).secondary = InputId.none →
    (virtualInputs i).modifierFunction ≠ .center → ∀ ticks,
    (afterSnapshots powf virtualInputs memory ticks i).togglePosition =
      Toggle.wave ((toggleOf (memory i)).phase +
        Toggle.primaryPresses (virtualInputs i) (toggleOf (memory i)).held (ticks.map Prod.snd))
  cycle_adjacent : (virtualInputs i).inputType = .toggle3Pos →
    (virtualInputs i).secondary = InputId.none → (virtualInputs i).modifierFunction ≠ .center →
    ∀ ticks now c,
    |(afterSnapshots powf virtualInputs memory (ticks ++ [(now, c)]) i).togglePosition -
        (afterSnapshots powf virtualInputs memory ticks i).togglePosition| =
      if primaryPress (virtualInputs i)
          (Toggle.lastHeld (virtualInputs i) (toggleOf (memory i)).held (ticks.map Prod.snd)) c
      then 1 else 0
  cycle_four : (virtualInputs i).inputType = .toggle3Pos →
    (virtualInputs i).secondary = InputId.none → (virtualInputs i).modifierFunction ≠ .center →
    ∀ ticks, Toggle.primaryPresses (virtualInputs i) (toggleOf (memory i)).held
        (ticks.map Prod.snd) = 4 →
      (afterSnapshots powf virtualInputs memory ticks i).togglePosition =
        (memory i).togglePosition
  ends : (virtualInputs i).inputType = .toggle3Pos → (virtualInputs i).secondary ≠ InputId.none →
    ∀ ticks, (afterSnapshots powf virtualInputs memory ticks i).togglePosition =
      (Toggle.lastAsked (virtualInputs i) (toggleOf (memory i)).held (ticks.map Prod.snd)).getD
        (memory i).togglePosition
  center : (virtualInputs i).inputType = .toggle3Pos → ∀ ticks now c,
    centerPress (virtualInputs i)
        (Toggle.lastHeld (virtualInputs i) (toggleOf (memory i)).held (ticks.map Prod.snd)) c =
      true →
    (afterSnapshots powf virtualInputs memory (ticks ++ [(now, c)]) i).togglePosition = 1

/-- **Toggles count presses**, from every position and direction of a toggle. -/
theorem toggle_counts_presses (powf : ℚ → ℚ → ℚ) (virtualInputs : InputIdx → VirtualInputConfig)
    (memory : InputIdx → InputMemory) (i : InputIdx)
    (htoggle : (virtualInputs i).inputType ≠ .direct) (hvalid : (toggleOf (memory i)).Valid) :
    CountsPresses powf virtualInputs memory i := by
  -- every law is read off the machine
  have hmachine : ∀ ticks, toggleOf (afterSnapshots powf virtualInputs memory ticks i) =
      (toggleOf (memory i)).after (virtualInputs i) (toggleSize (virtualInputs i).inputType)
        (ticks.map Prod.snd) := toggleOf_afterSnapshots htoggle memory
  have hposition : ∀ ticks, (afterSnapshots powf virtualInputs memory ticks i).togglePosition =
      ((toggleOf (memory i)).after (virtualInputs i) (toggleSize (virtualInputs i).inputType)
        (ticks.map Prod.snd)).position := fun ticks => congrArg Toggle.position (hmachine ticks)
  have hconcat : ∀ (ticks : List (UInt32 × Snapshot)) now c,
      (ticks ++ [(now, c)]).map Prod.snd = ticks.map Prod.snd ++ [c] := by
    intro ticks now c
    rw [List.map_append]
    rfl
  constructor
  case repeated =>
    intro ticks ticks' hstutters
    have heq : toggleOf (afterSnapshots powf virtualInputs memory ticks' i) =
        toggleOf (afterSnapshots powf virtualInputs memory ticks i) := by
      rw [hmachine, hmachine]
      exact run_of_stutters Toggle.tick_tick hstutters _
    exact ⟨congrArg Toggle.position heq, congrArg Toggle.value heq⟩
  case gated =>
    intro ticks now c hgated
    rw [hposition, hposition, hconcat, Toggle.after_concat, Toggle.position_tick,
      Toggle.moved_of_gated hgated]
  case two =>
    intro htype ticks
    rw [hposition, htype]
    exact Toggle.after_two _ _
  case cycle =>
    intro htype hsecondary hcenter ticks
    rw [hposition, htype]
    exact Toggle.position_after_cycle hsecondary hcenter hvalid _
  case cycle_adjacent =>
    intro htype hsecondary hcenter ticks now c
    have hbefore := (Toggle.after_cycle hsecondary hcenter hvalid (ticks.map Prod.snd)).1
    rw [hposition, hposition, hconcat, htype, toggleSize_toggle3Pos, Toggle.after_concat,
      Toggle.adjacent_cycle hsecondary hcenter hbefore, Toggle.held_after]
  case cycle_four =>
    intro htype hsecondary hcenter ticks hfour
    have hwave : Toggle.wave ((toggleOf (memory i)).phase + 4)
        = (toggleOf (memory i)).position := by
      rw [← Toggle.wave_phase hvalid]
      exact Toggle.wave_congr (Nat.add_mod_right _ 4)
    rw [hposition, htype, toggleSize_toggle3Pos,
      Toggle.position_after_cycle hsecondary hcenter hvalid, hfour, hwave]
    rfl
  case ends =>
    intro htype hsecondary ticks
    rw [hposition, htype]
    exact Toggle.after_ends hsecondary _ _
  case center =>
    intro htype ticks now c hpress
    rw [hposition, hconcat, htype, Toggle.after_concat]
    apply Toggle.position_center
    rw [Toggle.held_after]
    exact hpress

/-- A 3-position toggle on one button, at its start. -/
theorem toggle_counts_presses_cycle :
    CountsPresses cube
      (fun _ => { used := true, primary := InputId.buttonA, inputType := .toggle3Pos })
      (fun _ => { toggle3Direction := 1 }) 0 :=
  toggle_counts_presses cube _ _ 0 (by decide) ⟨by decide, by decide, .inl rfl⟩

end RcController
