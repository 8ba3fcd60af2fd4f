import RcController.Wiring.Rebuild
import RcController.Model.Sketch

/-!
# Editing one output

`output_add`, `output_update` and `output_delete` write one record and rebuild; when
the rebuild fails they put the record back and rebuild again. From a wired table

* a rejected edit leaves the records as they were (`editOutput_rejected`): the failed
  rebuild had moved nothing, so the second one starts from the old table, which is
  wired;
* after any edit the table is wired again and every servo attached (`editOutput_wired`);
* an edit that succeeds keeps the other channels exactly when no servo of a smaller
  index was on the pin it asks for (`edit_keeps_others_iff`).
-/

namespace RcController

open FirstFit DeviceProg

/-- Every servo channel in use has its servo on the pin of its record, and its
flag. -/
def ServosAttached (s : OutputBank) : Prop :=
  ∀ i, (s.outputs i).UsedPwm → s.pwmAttached i = true ∧
    (s.pwmOutputs i).pin = some (s.outputs i).pin

namespace OutputBank

/-- So it is after a rebuild that succeeds. -/
theorem servosAttached_rebuild {b : Board} {s : OutputBank}
    (hok : (rebuildOutputHardware b s).2 = .ok ()) : ServosAttached (rebuildOutputHardware b s).1 :=
  fun _ hpwm => servo_rebuild hok hpwm

/-- Editing one record of a wired table leaves it wired but for that record. The
others are as they were, and the table without one of them is wired as well. -/
theorem wiringOkBut_setOutput {b : Board} {s : OutputBank} (h : WiringOk b s.outputs)
    (e : OutputIdx)
    (c : OutputChannelConfig) : WiringOkBut b e (setOutput e c s).outputs := by
  unfold WiringOkBut
  rw [show (setOutput e c s).outputs = Function.update s.outputs e c from rfl, claims_update,
    Function.update_idem]
  exact (wiringOk_iff.mp h).drop e

end OutputBank

open OutputBank

/-! ### The end of the three handlers -/

section EditOutput

variable {b : Board} {e : OutputIdx} {record : OutputChannelConfig} {message : String} {s : Sketch}

/-- The two ways an edit ends. The rebuild succeeds and the edit is carried out,
or it fails and the old record is put back and everything rebuilt. -/
theorem editOutput_cases (b : Board) (e : OutputIdx) (record : OutputChannelConfig)
    (message : String) (s : Sketch) :
    ((rebuildOutputHardware b (s.rc.bank.setOutput e record)).2 = .ok () ∧
      (editOutput b e record message s).2.ok = true ∧
      (editOutput b e record message s).1.rc
        = { s.rc with bank := (rebuildOutputHardware b (s.rc.bank.setOutput e record)).1 }) ∨
    ∃ msg, (rebuildOutputHardware b (s.rc.bank.setOutput e record)).2 = .error msg ∧
      (editOutput b e record message s).2.ok = false ∧
      (editOutput b e record message s).1.rc
        = { s.rc with
            bank := (rebuildOutputHardware b
              ((rebuildOutputHardware b (s.rc.bank.setOutput e record)).1.setOutput e
                (s.rc.bank.outputs e))).1 } := by
  unfold editOutput
  rcases rebuildOutputHardware b (s.rc.bank.setOutput e record) with ⟨bank, _ | _⟩
  · exact .inr ⟨_, rfl, rfl, rfl⟩
  · exact .inl ⟨rfl, rfl, rfl⟩

/-- After a failed rebuild, putting the old record back gives the old table. The
failed rebuild had moved nobody. -/
theorem setOutput_back (hb : b.Reliable) (h : WiringOk b s.rc.bank.outputs) {msg : String}
    (herr : (rebuildOutputHardware b (s.rc.bank.setOutput e record)).2 = .error msg) :
    ((rebuildOutputHardware b (s.rc.bank.setOutput e record)).1.setOutput e
      (s.rc.bank.outputs e)).outputs = s.rc.bank.outputs := by
  have hsame := rebuild_edit_error hb (wiringOkBut_setOutput h e record) herr
  change Function.update _ e _ = _
  rw [hsame]
  change Function.update (Function.update _ e _) e _ = _
  rw [Function.update_idem, Function.update_eq_self]

/-- **A rejected edit changes no record.** -/
theorem editOutput_rejected (hb : b.Reliable) (h : WiringOk b s.rc.bank.outputs)
    (hrej : (editOutput b e record message s).2.ok = false) :
    (editOutput b e record message s).1.rc.bank.outputs = s.rc.bank.outputs := by
  rcases editOutput_cases b e record message s with ⟨-, hok, -⟩ | ⟨msg, herr, -, hrc⟩
  · rw [hok] at hrej
    cases hrej
  · have hback := setOutput_back hb h herr
    rw [hrc]
    exact (rebuild_of_wired hb (by rwa [hback])).2.trans hback

/-- **After an edit, successful or not, the table is wired and every servo
attached.** -/
theorem editOutput_wired (hb : b.Reliable) (h : WiringOk b s.rc.bank.outputs) :
    WiringOk b (editOutput b e record message s).1.rc.bank.outputs ∧
      ServosAttached (editOutput b e record message s).1.rc.bank := by
  rcases editOutput_cases b e record message s with ⟨hok, -, hrc⟩ | ⟨msg, herr, -, hrc⟩
  · rw [hrc]
    exact ⟨wiringOk_rebuild hb hok, servosAttached_rebuild hok⟩
  · have hback := setOutput_back hb h herr
    have hok := (rebuild_of_wired hb (by rwa [hback])).1
    rw [hrc]
    exact ⟨wiringOk_rebuild hb hok, servosAttached_rebuild hok⟩

/-- What a successful edit that leaves the channel in use does to the others. -/
theorem editOutput_keeps_iff (hb : b.Reliable) (h : WiringOk b s.rc.bank.outputs)
    (hused : record.used = true) (hok : (editOutput b e record message s).2.ok = true) :
    (∀ j, j ≠ e →
        (editOutput b e record message s).1.rc.bank.outputs j = s.rc.bank.outputs j) ↔
      ∀ i, i < e → (s.rc.bank.outputs i).UsedPwm → (s.rc.bank.outputs i).pin ≠ record.pin := by
  rcases editOutput_cases b e record message s with ⟨hrebuild, -, hrc⟩ | ⟨msg, -, hrej, -⟩
  swap
  · rw [hok] at hrej
    cases hrej
  -- the rebuild starts from the old table with the new record in slot `e`
  have hself : (s.rc.bank.setOutput e record).outputs e = record := Function.update_self ..
  have hother : ∀ j, j ≠ e → (s.rc.bank.setOutput e record).outputs j = s.rc.bank.outputs j :=
    fun j hj => Function.update_of_ne hj _ _
  have hkeeps := rebuild_keeps_iff hb (wiringOkBut_setOutput h e record) (by rw [hself, hused])
    hrebuild
  rw [hself] at hkeeps
  rw [hrc]
  constructor
  · intro hkeep i hi
    have hall := hkeeps.mp (fun j hj => (hkeep j hj).trans (hother j hj).symm) i hi
    rwa [hother i (ne_of_lt hi)] at hall
  · intro hpins j hj
    refine (hkeeps.mpr (fun i hi => ?_) j hj).trans (hother j hj)
    rw [hother i (ne_of_lt hi)]
    exact hpins i hi

end EditOutput

/-! ### Requests that edit an output -/

/-- The slot and the record that a request writes, or nothing when it is refused
before it writes. -/
def Request.outputEdit (r : Request) (s : Sketch) : Option (OutputIdx × OutputChannelConfig) :=
  match r.endpoint with
  | .outputAdd =>
    s.rc.bank.firstFreeOutputIndex.map fun e =>
      (e, r.args.parseOutputFromRequest { used := true } e)
  | .outputUpdate =>
    match parseIndex r.args kMaxOutputChannels with
    | some e =>
      if (s.rc.bank.outputs e).used then
        some (e, updatedOutput r.args (s.rc.bank.outputs e) e)
      else none
    | none => none
  | .outputDelete =>
    match parseIndex r.args kMaxOutputChannels with
    | some e => if (s.rc.bank.outputs e).used then some (e, {}) else none
    | none => none
  | _ => none

/-- The three requests that edit an output. -/
def Endpoint.EditsOutput (endpoint : Endpoint) : Prop :=
  endpoint = .outputAdd ∨ endpoint = .outputUpdate ∨ endpoint = .outputDelete

/-- An update does not change whether the record is in use. -/
theorem updatedOutput_used (args : Args) (backup : OutputChannelConfig) (e : OutputIdx) :
    (updatedOutput args backup e).used = true := by
  unfold updatedOutput
  dsimp only
  split <;> rfl

/-- A record written by `output_add` or `output_update` is in use. -/
theorem Request.outputEdit_used {r : Request} {s : Sketch} {e : OutputIdx}
    {record : OutputChannelConfig} (hdel : r.endpoint ≠ .outputDelete)
    (h : r.outputEdit s = some (e, record)) : record.used = true := by
  unfold outputEdit at h
  -- an addition, an update, a deletion, or another route
  split at h
  · obtain ⟨_, -, heq⟩ := Option.map_eq_some_iff.mp h
    obtain ⟨rfl, rfl⟩ := Prod.mk.inj heq
    rfl
  · split at h
    · split at h
      · obtain ⟨rfl, rfl⟩ := Prod.mk.inj (Option.some.inj h)
        exact updatedOutput_used _ _ _
      · cases h
    · cases h
  · next hend => exact absurd hend hdel
  · cases h

/-- **An edit request** is refused at once and changes nothing, or it is
`editOutput` on the slot and the record of the request. -/
theorem handleRequest_edit (b : Board) (millis : UInt32) {r : Request} (hr : r.endpoint.EditsOutput)
    (s : Sketch) :
    (∃ msg, r.outputEdit s = none ∧ handleRequest b millis r s = .pure (s, .json false msg)) ∨
    ∃ e record msg, r.outputEdit s = some (e, record) ∧
      handleRequest b millis r s = .pure (editOutput b e record msg s) := by
  unfold handleRequest Request.outputEdit
  -- add takes the first free slot; update and delete take the slot of the `index` argument
  rcases hr with hend | hend | hend
  · rw [hend]
    dsimp only [handleApiOutputAdd]
    cases s.rc.bank.firstFreeOutputIndex with
    | none => exact .inl ⟨_, rfl, rfl⟩
    | some e => exact .inr ⟨e, _, _, rfl, rfl⟩
  · rw [hend]
    dsimp only [handleApiOutputUpdate]
    cases parseIndex r.args kMaxOutputChannels with
    | none => exact .inl ⟨_, rfl, rfl⟩
    | some e =>
      cases hused : (s.rc.bank.outputs e).used with
      | false => exact .inl ⟨_, by simp [hused], by simp [hused]; rfl⟩
      | true =>
        exact .inr ⟨e, updatedOutput r.args (s.rc.bank.outputs e) e, "Output updated",
          by simp [hused], by simp [hused]⟩
  · rw [hend]
    dsimp only [handleApiOutputDelete]
    cases parseIndex r.args kMaxOutputChannels with
    | none => exact .inl ⟨_, rfl, rfl⟩
    | some e =>
      cases hused : (s.rc.bank.outputs e).used with
      | false => exact .inl ⟨_, by simp [hused], by simp [hused]; rfl⟩
      | true =>
        exact .inr ⟨e, {}, "Output deleted", by simp [hused], by simp [hused]⟩

/-! ### What an edit does to the other channels -/

/-- **An edit that succeeds keeps the other channels exactly when no servo of a
smaller index was on the pin it asks for.** Such a servo is set up before the
edited channel, finds its pin claimed and moves. -/
theorem output_edit_keeps_others_iff {b : Board} (hb : b.Reliable) {s s' : Sketch} {r : Request}
    {millis : UInt32} {reply : Reply} (hwired : WiringOk b s.rc.bank.outputs)
    (hr : r.endpoint = .outputAdd ∨ r.endpoint = .outputUpdate)
    (hrun : handleRequest b millis r s = .pure (s', reply)) (hok : reply.ok = true) :
    ∃ e record, r.outputEdit s = some (e, record) ∧
      ((∀ j, j ≠ e → s'.rc.bank.outputs j = s.rc.bank.outputs j) ↔
        ∀ i, i < e → (s.rc.bank.outputs i).UsedPwm → (s.rc.bank.outputs i).pin ≠ record.pin) := by
  have hedits : r.endpoint.EditsOutput := hr.imp id .inl
  have hdel : r.endpoint ≠ .outputDelete := by
    rcases hr with h | h <;> rw [h] <;> exact Endpoint.noConfusion
  rcases handleRequest_edit b millis hedits s
    with ⟨msg, -, hrefused⟩ | ⟨e, record, msg, hedit, hrun'⟩
  · -- refused before the edit, the request does not answer that it is done
    rw [hrun] at hrefused
    obtain ⟨-, rfl⟩ := Prod.mk.inj (Prog.pure.inj hrefused)
    cases hok
  · rw [hrun] at hrun'
    have hpair := Prog.pure.inj hrun'
    refine ⟨e, record, hedit, ?_⟩
    rw [show s' = (editOutput b e record msg s).1 from congrArg Prod.fst hpair]
    refine editOutput_keeps_iff hb hwired (Request.outputEdit_used hdel hedit) ?_
    rw [← show reply = (editOutput b e record msg s).2 from congrArg Prod.snd hpair]
    exact hok

/-! ### A servo added on a small board -/

/-- `output_add` of a servo on `pin`. -/
def addServo (pin : String) : Request where
  endpoint := .outputAdd
  args p := if p = .pin then some (lit pin) else none

/-- A servo added on pin 4 leaves the one on pin 5 alone. -/
theorem output_edit_keeps_others_free_pin :
    ∃ e record, (addServo "4").outputEdit { rc := { bank := oneServo 5 } } = some (e, record) ∧
      ((∀ j, j ≠ e → (handleApiOutputAdd smallBoard (addServo "4").args
            { rc := { bank := oneServo 5 } }).1.rc.bank.outputs j = (oneServo 5).outputs j) ↔
        ∀ i, i < e → ((oneServo 5).outputs i).UsedPwm →
          ((oneServo 5).outputs i).pin ≠ record.pin) :=
  output_edit_keeps_others_iff smallBoard_reliable (wiringOk_oneServo (by decide)) (.inl rfl)
    (show handleRequest smallBoard 0 (addServo "4") { rc := { bank := oneServo 5 } } = .pure _
      from rfl)
    (by decide +kernel)

/-- A servo added on pin 4 succeeds and sends the servo that was there to pin
5. -/
theorem output_add_moves_servo :
    WiringOk smallBoard (oneServo 4).outputs ∧
      (handleApiOutputAdd smallBoard (addServo "4").args { rc := { bank := oneServo 4 } }).2.ok
        = true ∧
      (addServo "4").outputEdit { rc := { bank := oneServo 4 } }
        = some (1, { used := true, pin := 4, thresholdPercent := 50, name := nameBuf "Output" }) ∧
      ((handleApiOutputAdd smallBoard (addServo "4").args
        { rc := { bank := oneServo 4 } }).1.rc.bank.outputs 0).pin = 5 :=
  ⟨wiringOk_oneServo (by decide), by decide +kernel, by decide +kernel, by decide +kernel⟩

end RcController
