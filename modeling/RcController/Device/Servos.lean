import RcController.Device.Boot
import RcController.Lib.Runs
import RcController.Wiring.Managed

/-!
# No servo without a channel

Over a whole run, from boot: is a servo attached exactly where the table has a used
servo channel, to the pin of that channel, and does the flag say so
(`NoUnmanagedServo`)? Output edits and successful applies keep this, with one
exception. `output_delete` resets the record before the rebuild, the release loop of
the rebuild only looks at used records, and the servo of the deleted channel stays
attached and keeps its last pulse.

`noUnmanagedServo_iff` makes that exact: along a run of such requests the property
holds in every state exactly when no request deletes a used servo channel.
-/

namespace RcController

open DeviceProg OutputBank Runs

/-- A servo is attached exactly where the table has a used servo channel, to the
pin of that channel, and the flag of the output says so. -/
structure NoUnmanagedServo (s : OutputBank) : Prop where
  attached : ∀ i, s.attached i = true ↔ (s.outputs i).UsedPwm
  pin : ∀ i p, (s.pwmOutputs i).pin = some p → p = (s.outputs i).pin
  flag : ∀ i, s.pwmAttached i = true ↔ (s.outputs i).UsedPwm
  exclusive : ∀ i j p, (s.pwmOutputs i).pin = some p → (s.pwmOutputs j).pin = some p → i = j

/-- A managed bank has no unmanaged servo. `Managed` says more: which outputs
are on pins of the board, and that the flags are those of the last rebuild. -/
theorem Managed.noUnmanagedServo {b : Board} {s : OutputBank} (h : Managed b s) :
    NoUnmanagedServo s := by
  -- the record decides about the servo of its slot, so pins are distinct as those of the records
  have hservo : ∀ i, (s.pwmOutputs i).pin
      = if (s.outputs i).UsedPwm then some (s.outputs i).pin else none := fun i => (h.slots i).servo
  have hpin : ∀ i p, (s.pwmOutputs i).pin = some p →
      (s.outputs i).UsedPwm ∧ p = (s.outputs i).pin := by
    intro i p hp
    rw [hservo i] at hp
    split at hp
    · next hpwm => exact ⟨hpwm, (Option.some.inj hp).symm⟩
    · cases hp
  refine ⟨fun i => ?_, fun i p hp => (hpin i p hp).2, fun i => (h.slots i).flag,
    fun i j p hi hj => ?_⟩
  · rw [attached, hservo i]
    split
    · next hpwm => exact iff_of_true rfl hpwm
    · next hpwm => exact iff_of_false (by simp) hpwm
  · obtain ⟨hpwmi, hpi⟩ := hpin i p hi
    obtain ⟨hpwmj, hpj⟩ := hpin j p hj
    exact h.wiring.distinct i j hpwmi.1 hpwmj.1 (hpi.symm.trans hpj)

/-- Writing the failsafe leaves a managed bank managed. -/
theorem Managed.applyFailsafe {b : Board} {s : OutputBank} (h : Managed b s) :
    Managed b s.applyFailsafeAllOutputs := by
  refine ⟨by rw [outputs_applyFailsafeAllOutputs]; exact h.wiring, fun i => ?_⟩
  obtain ⟨hrecord, hflag, hpin⟩ := Slot.writeFailsafe_fields (s.slot i)
  have hi := h.slots i
  rw [slot_applyFailsafeAllOutputs]
  constructor
  · rw [hflag, hrecord]
    exact hi.flag
  · rw [hpin, hrecord]
    exact hi.servo

/-- The device boots with a managed bank, whatever the storage holds or
answers. -/
theorem managed_boot {b : Board} (hb : b.Reliable) (nvs : NvsStore) (plan : Prog.Plan nvsInterface)
    (millis : UInt32) : Managed b (System.boot b nvs plan millis).sketch.rc.bank := by
  rw [sketch_boot]
  exact (managed_applyTables_blank hb rfl).applyFailsafe

/-! ### The requests of a run -/

/-- An output edit, or a preset apply that succeeds. -/
def EditsOrApplies (b : Board) (s : System) : Event → Prop
  | .request r plan _ =>
    r.endpoint.EditsOutput ∨
      r.endpoint = .presetApply ∧
        ((handleRequest b s.millis r s.sketch).run nvsDevice plan s.nvs).1.2.ok = true
  | _ => False

/-- The request deletes a used servo channel. -/
def DeletesServo (s : System) : Event → Prop
  | .request r _ _ =>
    r.endpoint = .outputDelete ∧ ∃ e, parseIndex r.args kMaxOutputChannels = some e ∧
      (s.sketch.rc.bank.outputs e).UsedPwm
  | _ => False

section Step

variable {b : Board} {s : System} {r : Request} {plan restartPlan : Prog.Plan nvsInterface}

/-- The globals after a request that does not restart the device. They are those
that the handler returns. -/
theorem sketch_request (h : r.endpoint ≠ .apConfigApplyReboot) :
    (s.request b r plan restartPlan).sketch
      = ((handleRequest b s.millis r s.sketch).run nvsDevice plan s.nvs).1.1 := by
  rw [request_eq h]

theorem Endpoint.EditsOutput.ne_reboot {endpoint : Endpoint} (h : endpoint.EditsOutput) :
    endpoint ≠ .apConfigApplyReboot := by
  rcases h with rfl | rfl | rfl <;> exact Endpoint.noConfusion

/-- The bank after an edit request: as it was, or edited. An edit that is
refused early, for its index or for want of a free slot, touches nothing. -/
theorem bank_edit (plan restartPlan : Prog.Plan nvsInterface) (hr : r.endpoint.EditsOutput) :
    ((r.outputEdit s.sketch = none ∧
        (s.request b r plan restartPlan).sketch.rc.bank = s.sketch.rc.bank) ∨
      ∃ e record msg, r.outputEdit s.sketch = some (e, record) ∧
        (s.request b r plan restartPlan).sketch.rc.bank
          = (editOutput b e record msg s.sketch).1.rc.bank) := by
  rw [sketch_request hr.ne_reboot]
  rcases handleRequest_edit b s.millis hr s.sketch
    with ⟨msg, hnone, hrun⟩ | ⟨e, record, msg, hsome, hrun⟩
  · rw [hrun, Prog.run_pure]
    exact .inl ⟨hnone, rfl⟩
  · rw [hrun, Prog.run_pure]
    exact .inr ⟨e, record, msg, hsome, rfl⟩

/-- An edit that leaves its slot unused is a deletion. -/
theorem outputEdit_delete {e : OutputIdx} {record : OutputChannelConfig}
    (h : r.outputEdit s.sketch = some (e, record)) (hused : record.used = false) :
    r.endpoint = .outputDelete ∧ parseIndex r.args kMaxOutputChannels = some e := by
  -- only a deletion writes a record that is not in use
  have hdel : r.endpoint = .outputDelete := by
    by_contra hne
    rw [Request.outputEdit_used hne h] at hused
    cases hused
  refine ⟨hdel, ?_⟩
  unfold Request.outputEdit at h
  rw [hdel] at h
  dsimp only at h
  cases hindex : parseIndex r.args kMaxOutputChannels with
  | none => rw [hindex] at h; cases h
  | some e' =>
    rw [hindex] at h
    dsimp only at h
    split at h
    · rw [(Prod.mk.inj (Option.some.inj h)).1]
    · cases h

/-- **The steps that keep a bank managed.** An edit either rebuilds the bank or
rolls it back, and both end managed as long as every servo in use before is
still in use when the release loop runs. A successful apply releases all of them
first. -/
theorem managed_step (hb : b.Reliable) (h : Managed b s.sketch.rc.bank) {event : Event}
    (hevent : EditsOrApplies b s event) (hdel : ¬ DeletesServo s event) :
    Managed b (s.step b event).sketch.rc.bank := by
  cases event with
  | request r plan restartPlan =>
    change Managed b (s.request b r plan restartPlan).sketch.rc.bank
    rcases hevent with hedits | ⟨happlies, hok⟩
    · rcases bank_edit plan restartPlan hedits with ⟨-, hbank⟩ | ⟨e, record, msg, hedit, hbank⟩
      · rw [hbank]
        exact h
      · rw [hbank]
        refine managed_editOutput hb h ?_
        cases hused : record.used with
        | true => exact .inl rfl
        | false =>
          -- only a deletion leaves the slot unused
          obtain ⟨hend, hindex⟩ := outputEdit_delete hedit hused
          exact .inr fun hpwm => hdel ⟨hend, e, hindex, hpwm⟩
    · -- the reply is ok, so a blob was applied
      have hne : r.endpoint ≠ .apConfigApplyReboot := by
        rw [happlies]
        exact Endpoint.noConfusion
      have hrun := (handleApiPresetApply_always b r.args s.sketch).run nvsDevice plan s.nvs
      have hhandler :
          handleRequest b s.millis r s.sketch = handleApiPresetApply b r.args s.sketch := by
        unfold handleRequest
        rw [happlies]
      rw [hhandler] at hok
      rw [sketch_request hne, hhandler]
      rcases hrun with ⟨-, cfg, happlied, hrc, -⟩ | ⟨hbad, -⟩
      · rw [hrc]
        exact managed_applyTables hb (fun j => (h.slots j).bare_released) happlied
      · rw [hok] at hbad
        cases hbad
  | tick _ => exact hevent.elim
  | schedulerTick => exact hevent.elim
  | connect _ _ => exact hevent.elim
  | disconnect _ => exact hevent.elim
  | elapse _ => exact hevent.elim

/-- **Deleting a used servo channel leaves its servo unmanaged.** The rebuild
after the deletion succeeds, and it never looks at the slot again: the servo
keeps its pin and the record has none. -/
theorem unmanaged_step (hb : b.Reliable) (h : Managed b s.sketch.rc.bank) {event : Event}
    (hdel : DeletesServo s event) : ¬ NoUnmanagedServo (s.step b event).sketch.rc.bank := by
  cases event with
  | request r plan restartPlan =>
    obtain ⟨hend, e, hindex, hpwm⟩ := hdel
    have hedits : r.endpoint.EditsOutput := .inr (.inr hend)
    have hedit : r.outputEdit s.sketch = some (e, {}) := by
      unfold Request.outputEdit
      rw [hend]
      dsimp only
      rw [hindex]
      exact if_pos hpwm.1
    change ¬ NoUnmanagedServo (s.request b r plan restartPlan).sketch.rc.bank
    -- the request gets as far as the edit, and the edit keeps the servo
    rcases bank_edit plan restartPlan hedits with
      ⟨hnone, -⟩ | ⟨e', record, msg, hedit', hbank⟩
    · rw [hedit] at hnone
      cases hnone
    · rw [hedit] at hedit'
      obtain ⟨rfl, rfl⟩ := Prod.mk.inj (Option.some.inj hedit')
      rw [hbank]
      obtain ⟨hunused, hservo⟩ :
          ((editOutput b e {} msg s.sketch).1.rc.bank.slot e).record.used = false ∧
            ((editOutput b e {} msg s.sketch).1.rc.bank.slot e).servo.pin
              = some (s.sketch.rc.bank.outputs e).pin := slot_delete_servo hb h hpwm rfl
      intro hmanaged
      have hattached := (hmanaged.attached e).mp (by
        change ((editOutput b e {} msg s.sketch).1.rc.bank.slot e).servo.pin.isSome = true
        rw [hservo]
        rfl)
      exact OutputChannelConfig.not_usedPwm_of_unused hunused hattached
  | tick _ => exact hdel.elim
  | schedulerTick => exact hdel.elim
  | connect _ _ => exact hdel.elim
  | disconnect _ => exact hdel.elim
  | elapse _ => exact hdel.elim

end Step

/-- **When no servo is ever unmanaged.** From boot, along any run of output
edits and successful preset applies: in every state exactly when no step deletes
a used servo channel. Until the first such step the bank is managed, and after
it the property fails at once. -/
theorem noUnmanagedServo_iff {b : Board} (hb : b.Reliable) (nvs : NvsStore)
    (plan : Prog.Plan nvsInterface) (millis : UInt32) {events : List Event}
    (hevents : StepsMeet (System.step b) (EditsOrApplies b)
      (System.boot b nvs plan millis) events) :
    StatesMeet (System.step b) (fun s => NoUnmanagedServo s.sketch.rc.bank)
        (System.boot b nvs plan millis) events ↔
      StepsMeet (System.step b) (fun s e => ¬ DeletesServo s e)
        (System.boot b nvs plan millis) events := by
  refine statesMeet_iff_stepsMeet (I := fun s => Managed b s.sketch.rc.bank)
    (fun s h => h.noUnmanagedServo) (fun s e h hA hC => managed_step hb h hA hC)
    (fun s e h _ hP hdel => unmanaged_step hb h hdel hP) (managed_boot hb nvs plan millis) hevents

/-! ### The car preset on a small board -/

/-- A request that applies a preset by name. -/
def applyPreset (name : String) : Request where
  endpoint := .presetApply
  args p := if p = .name then some (lit name) else none

/-- A request that deletes an output by index. -/
def deleteOutput (index : String) : Request where
  endpoint := .outputDelete
  args p := if p = .index then some (lit index) else none

/-- The car preset applied once more, from boot. -/
theorem noUnmanagedServo_iff_car :
    StatesMeet (System.step smallBoard) (fun s => NoUnmanagedServo s.sketch.rc.bank)
        (System.boot smallBoard {} (fun _ _ => false) 0)
        [.request (applyPreset "car") (fun _ _ => false) (fun _ _ => false)] ↔
      StepsMeet (System.step smallBoard) (fun s e => ¬ DeletesServo s e)
        (System.boot smallBoard {} (fun _ _ => false) 0)
        [.request (applyPreset "car") (fun _ _ => false) (fun _ _ => false)] :=
  noUnmanagedServo_iff smallBoard_reliable {} (fun _ _ => false) 0
    ⟨.inr ⟨rfl, by decide +kernel⟩, trivial⟩

/-- The device boots with the car preset, a servo on pin 4 in slot 0. The slot
is deleted; the reply is ok, the record is reset, and the servo is still
attached to pin 4. -/
theorem output_delete_keeps_servo :
    let s := System.boot smallBoard {} (fun _ _ => false) 0
    let s' := s.step smallBoard (.request (deleteOutput "0") (fun _ _ => false) (fun _ _ => false))
    (handleApiOutputDelete smallBoard (deleteOutput "0").args s.sketch).2.ok = true ∧
      (s'.sketch.rc.bank.outputs 0).used = false ∧
      (s'.sketch.rc.bank.pwmOutputs 0).pin = some 4 ∧ s'.sketch.rc.bank.pwmAttached 0 = true := by
  decide +kernel

end RcController
