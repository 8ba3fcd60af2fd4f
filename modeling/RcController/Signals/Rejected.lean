import RcController.Signals.Alike
import RcController.Wiring.Apply
import RcController.Wiring.Setup

/-!
# Toggles after a rejected preset

An apply that fails puts the inputs back but not their memory: the slots the blob uses
have been set up for the inputs of the blob. A toggle then goes on from there. Its later
values are the old ones exactly when the state it is left in looks like the state it was in
(`ToggleKept`).
-/

namespace RcController

open DeviceProg Runs

variable {powf : ℚ → ℚ → ℚ} {inp : VirtualInputConfig}

/-- When a toggle is kept, by its kind. The three conditions are those of
`Alike`. -/
def ToggleKept (inp : VirtualInputConfig) (t t' : Toggle) : Prop :=
  match inp.inputType with
  | .direct => True
  | .toggle2Pos => Toggle.KeptTwo inp t t'
  | .toggle3Pos =>
    if inp.secondary = InputId.none then Toggle.KeptCycle inp t t' else Toggle.KeptEnds inp t t'

/-- They are exact, for every kind. -/
theorem sameValues_iff_kept (htoggle : inp.inputType ≠ .direct) {t t' : Toggle}
    (hvalue : t.value = t'.value) (hup : t'.held = .up) :
    Toggle.SameValues inp (toggleSize inp.inputType) t t' ↔ ToggleKept inp t t' := by
  unfold ToggleKept
  cases htype : inp.inputType with
  | direct => exact absurd htype htoggle
  | toggle2Pos => exact Toggle.sameValues_two_iff hvalue hup
  | toggle3Pos =>
    by_cases hsecondary : inp.secondary = InputId.none
    · simp only [if_pos hsecondary]
      exact Toggle.sameValues_cycle_iff hsecondary hvalue hup
    · simp only [if_neg hsecondary]
      exact Toggle.sameValues_ends_iff hsecondary hvalue hup

/-- Setting an input up clears its detectors and leaves its value. -/
theorem held_initialMemory (inp : VirtualInputConfig) (m : InputMemory) :
    (toggleOf (initialMemory inp m)).held = .up := by
  unfold initialMemory
  cases inp.inputType <;> rfl

theorem runtime_initialMemory (inp : VirtualInputConfig) (m : InputMemory) :
    (initialMemory inp m).runtime = m.runtime := by
  unfold initialMemory
  cases inp.inputType <;> rfl

/-- The value of a direct input does not depend on its memory. -/
theorem runtime_slot_direct (hdirect : inp.inputType = .direct) (now : UInt32)
    (m m' : InputMemory) (ctl : Option Snapshot) :
    (evaluateVirtualSlot powf now inp m ctl).runtime =
      (evaluateVirtualSlot powf now inp m' ctl).runtime := by
  have hrumble : ∀ (c : Bool) (m : InputMemory),
      (if c then playInputRumble now m else m).runtime = m.runtime := by
    intro c m
    unfold playInputRumble
    split_ifs <;> rfl
  cases ctl with
  | none => rfl
  | some c =>
    unfold evaluateVirtualSlot
    simp only [hdirect]
    rw [hrumble, hrumble]

/-- **Two memories of a slot give the same values for ever** exactly when the
second one, with cleared detectors, looks like the first. -/
theorem sameRuntime_iff {m m' : InputMemory} (hruntime : m.runtime = m'.runtime)
    (hup : (toggleOf m').held = .up) :
    (∀ ticks : List (UInt32 × Option Snapshot),
      (run (fun m t => evaluateVirtualSlot powf t.1 inp m t.2) m ticks).runtime =
        (run (fun m t => evaluateVirtualSlot powf t.1 inp m t.2) m' ticks).runtime) ↔
      ToggleKept inp (toggleOf m) (toggleOf m') := by
  by_cases hdirect : inp.inputType = .direct
  · have hkept : ToggleKept inp (toggleOf m) (toggleOf m') := by
      unfold ToggleKept
      rw [hdirect]
      trivial
    refine ⟨fun _ => hkept, fun _ ticks => ?_⟩
    exact run_related (R := fun m m' : InputMemory => m.runtime = m'.runtime)
      (fun m m' t _ => runtime_slot_direct hdirect t.1 m m' t.2) hruntime ticks
  · rw [← sameValues_iff_kept hdirect hruntime hup]
    -- the values of the slot are those of the machine, and the clock has no part in them
    have hvalue : ∀ (m : InputMemory) (ticks : List (UInt32 × Option Snapshot)),
        (run (fun m t => evaluateVirtualSlot powf t.1 inp m t.2) m ticks).runtime =
          (run (Toggle.tick inp (toggleSize inp.inputType)) (toggleOf m)
            (ticks.map Prod.snd)).value :=
      fun m ticks => congrArg Toggle.value (toggleOf_run_slot hdirect m ticks)
    constructor
    · intro h cs
      have hcs : (cs.map fun o => ((0 : UInt32), o)).map Prod.snd = cs := by
        rw [List.map_map]
        exact List.map_id cs
      have hticks := h (cs.map fun o => (0, o))
      rwa [hvalue, hvalue, hcs] at hticks
    · intro h ticks
      rw [hvalue, hvalue]
      exact h _

/-! ### The rejected apply -/

/-- No ticks can tell the two devices apart by the values of their inputs. -/
def SameRuntimes (powf : ℚ → ℚ → ℚ) (s s' : RcModel) : Prop :=
  ∀ (ticks : List (UInt32 × Option Snapshot)) i,
    (memoryAfter powf s.virtualInputs s.memory ticks i).runtime =
      (memoryAfter powf s'.virtualInputs s'.memory ticks i).runtime

/-- **Toggles after a rejected preset.** The later values are those of a device
that never tried it, exactly when the header is refused or every slot the blob
uses is left looking as it was. -/
theorem rejected_keeps_values_iff {b : Board} {cfg : PersistedConfig} {s : RcModel}
    {plan : Prog.Plan nvsInterface} {n : NvsStore} {e : String}
    (herr : ((applyPersistedConfig b cfg s).run nvsDevice plan n).1.2 = .error e) :
    SameRuntimes b.powf s ((applyPersistedConfig b cfg s).run nvsDevice plan n).1.1 ↔
      (cfg.HeaderOk → ∀ i, (cfg.virtualInputs i).used ≠ 0 →
        ToggleKept (s.virtualInputs i) (toggleOf (s.memory i))
          (toggleOf (initialMemory (decodeVirtualInput (cfg.virtualInputs i)) (s.memory i)))) := by
  have hrun : ((applyPersistedConfig b cfg s).run nvsDevice plan n).1 = applyTables b cfg s :=
    (applyPersistedConfig_always b cfg s).run nvsDevice plan n
  rw [hrun] at herr ⊢
  by_cases hheader : cfg.HeaderOk
  · have hplace : (s.bank.teardown.placeChannels b cfg).2 = .error e := by
      cases hplace : (s.bank.teardown.placeChannels b cfg).2 with
      | ok u =>
        rw [applyTables_ok hheader hplace] at herr
        cases herr
      | error e' =>
        rw [applyTables_error hheader hplace] at herr
        exact herr
    rw [applyTables_error hheader hplace]
    -- slot by slot: a slot the blob does not use keeps its memory
    have hslot : ∀ i, (∀ ticks, (memoryAfter b.powf s.virtualInputs s.memory ticks i).runtime =
          (memoryAfter b.powf s.virtualInputs (decodeMemory cfg s.memory) ticks i).runtime) ↔
        ((cfg.virtualInputs i).used ≠ 0 →
          ToggleKept (s.virtualInputs i) (toggleOf (s.memory i))
            (toggleOf (initialMemory (decodeVirtualInput (cfg.virtualInputs i))
              (s.memory i)))) := by
      intro i
      simp only [memoryAfter_slot]
      by_cases hused : (cfg.virtualInputs i).used ≠ 0
      · have hmemory : decodeMemory cfg s.memory i =
            initialMemory (decodeVirtualInput (cfg.virtualInputs i)) (s.memory i) := if_pos hused
        rw [hmemory, sameRuntime_iff (runtime_initialMemory _ _).symm (held_initialMemory _ _)]
        exact ⟨fun h _ => h, fun h => h hused⟩
      · have hmemory : decodeMemory cfg s.memory i = s.memory i := if_neg hused
        rw [hmemory]
        exact ⟨fun _ h => absurd h hused, fun _ _ => rfl⟩
    constructor
    · intro h _ i
      exact (hslot i).mp fun ticks => h ticks i
    · intro h ticks i
      exact (hslot i).mpr (h hheader i) ticks
  · rw [applyTables_badHeader hheader]
    exact ⟨fun _ h => absurd h hheader, fun _ _ _ => rfl⟩

/-- A toggle of two positions in the first slot, on button A. -/
def oneToggle (position : ℤ) : RcModel where
  virtualInputs i :=
    if i = 0 then { used := true, primary := InputId.buttonA, inputType := .toggle2Pos } else {}
  memory i :=
    if i = 0 then { togglePosition := position, toggle3Direction := 1 }
    else { toggle3Direction := 1 }

/-- A blob that uses the first slot and cannot be placed. -/
def strayBlob : PersistedConfig where
  magic := kConfigMagic
  version := kConfigVersion
  virtualInputs i := if i = 0 then { used := 1, input := InputId.buttonA, reserved := 0x11 } else {}
  channels i := if i = 0 then { used := 1, sourceA := 99 } else {}

/-- A toggle that stands at its start is left as it was. -/
theorem rejected_keeps_values_iff_start :
    SameRuntimes smallBoard.powf (oneToggle 0)
        ((applyPersistedConfig smallBoard strayBlob (oneToggle 0)).run nvsDevice
          (fun _ _ => false) {}).1.1 ↔
      (strayBlob.HeaderOk → ∀ i, (strayBlob.virtualInputs i).used ≠ 0 →
        ToggleKept ((oneToggle 0).virtualInputs i) (toggleOf ((oneToggle 0).memory i))
          (toggleOf (initialMemory (decodeVirtualInput (strayBlob.virtualInputs i))
            ((oneToggle 0).memory i)))) :=
  rejected_keeps_values_iff (e := "Invalid output source index") (by decide +kernel)

/-- A toggle that is switched on goes off. -/
theorem rejected_resets_toggle :
    let r := ((applyPersistedConfig smallBoard strayBlob (oneToggle 1)).run nvsDevice
      (fun _ _ => false) {}).1
    r.2 = .error "Invalid output source index" ∧
      (memoryAfter smallBoard.powf (oneToggle 1).virtualInputs (oneToggle 1).memory
        [(0, some {})] 0).runtime = 1 ∧
      (memoryAfter smallBoard.powf r.1.virtualInputs r.1.memory [(0, some {})] 0).runtime = -1 := by
  decide +kernel

end RcController
