import RcController.Wiring.Edit
import RcController.Wiring.Apply

/-!
# What the handlers do to the device

A handler reads its arguments, talks to the storage and replies. What it can do to the
tables and the hardware is little: nothing, change an input, edit one output, apply a
blob (`Effect`). And no handler touches the connection to the gamepad (`SameSession`).
Both hold whatever the storage answers, so they are `Always` facts about the programs
of the handlers; the device level only has to look at the effects.

The handlers whose reply matters have a specification of their own:
`handleApiPresetApply_always` says what a reply that is ok means.
-/

namespace RcController

open DeviceProg

/-! ### Effects -/

/-- What a request can do to the tables and the hardware. The list is closed
under what the source does: no handler combines two of these, apart from names
and credentials, which are no part of it. -/
inductive Effect (b : Board) (s : Sketch) : RcModel → Prop where
  | same : Effect b s s.rc
  | inputs (virtualInputs : InputIdx → VirtualInputConfig) :
      Effect b s { s.rc with virtualInputs := virtualInputs }
  -- deleting an input also clears the terms of the outputs that read it
  | sources (virtualInputs : InputIdx → VirtualInputConfig) (index : InputIdx) :
      Effect b s
        { s.rc with
          virtualInputs := virtualInputs
          bank := { s.rc.bank with outputs := fun i => clearSource index (s.rc.bank.outputs i) } }
  | edited (e : OutputIdx) (record : OutputChannelConfig) (message : String) :
      Effect b s (editOutput b e record message s).1.rc
  | applied (cfg : PersistedConfig) : Effect b s (applyTables b cfg s.rc).1

/-- The connection to the gamepad is as it was. The control loop and the
callbacks write these fields, and no handler does. -/
structure SameSession (s s' : Sketch) : Prop where
  gamepad : s'.gamepad = s.gamepad
  lastPacketMs : s'.lastPacketMs = s.lastPacketMs
  signalTimedOut : s'.signalTimedOut = s.signalTimedOut

theorem SameSession.refl (s : Sketch) : SameSession s s := ⟨rfl, rfl, rfl⟩

/-- A request had one of the effects, and left the connection alone. -/
structure Handled (b : Board) (s s' : Sketch) : Prop where
  effect : Effect b s s'.rc
  session : SameSession s s'

theorem Handled.refl (b : Board) (s : Sketch) : Handled b s s := ⟨.same, .refl s⟩

/-- The tables and the connection are all that counts: two states that agree on
them have been handled in the same way. -/
theorem Handled.of_rc {b : Board} {s t t' : Sketch} (h : Handled b s t) (hrc : t'.rc = t.rc)
    (hsession : SameSession t t') : Handled b s t' where
  effect := by
    rw [hrc]
    exact h.effect
  session :=
    ⟨hsession.gamepad.trans h.session.gamepad, hsession.lastPacketMs.trans h.session.lastPacketMs,
      hsession.signalTimedOut.trans h.session.signalTimedOut⟩

/-! ### Applying -/

/-- What `applyToSketch` returns does not depend on the storage. An apply that
succeeds stores the running configuration, and the result of that call is
ignored. -/
theorem applyToSketch_always (b : Board) (cfg : PersistedConfig) (s : Sketch) :
    (applyToSketch b cfg s).Always fun x =>
      x = ({ s with rc := (applyTables b cfg s.rc).1 }, (applyTables b cfg s.rc).2) := by
  refine (applyPersistedConfig_always b cfg s.rc).bind fun x hx => ?_
  rw [hx]
  exact rfl

/-- What the requests about models and the access point can do: the tables are
those of a blob at most, and the names, the credentials and the flag are set in
any way. -/
structure ModelEdit (b : Board) (s s' : Sketch) : Prop where
  rc : s'.rc = s.rc ∨ ∃ cfg, s'.rc = (applyTables b cfg s.rc).1
  rest : s' = { s with
    rc := s'.rc
    currentModelName := s'.currentModelName
    bootModelName := s'.bootModelName
    apSsid := s'.apSsid
    apPassword := s'.apPassword
    modelDirty := s'.modelDirty }

namespace ModelEdit

variable {b : Board} {s t s' : Sketch}

theorem refl (b : Board) (s : Sketch) : ModelEdit b s s := ⟨.inl rfl, rfl⟩

theorem handled (h : ModelEdit b s s') : Handled b s s' where
  effect := by
    rcases h.rc with hrc | ⟨cfg, hrc⟩
    · rw [hrc]
      exact .same
    · rw [hrc]
      exact .applied cfg
  session := by
    rw [h.rest]
    exact ⟨rfl, rfl, rfl⟩

/-- A blob is applied at the end, after edits that leave the tables alone. -/
theorem after (h : ModelEdit b t s') (ht : ModelEdit b s t) (hrc : t.rc = s.rc) :
    ModelEdit b s s' where
  rc := by
    rw [← hrc]
    exact h.rc
  rest := by
    have hrest := h.rest
    rw [ht.rest] at hrest
    exact hrest

end ModelEdit

/-- What a program that ends in an apply and a reply needs to be shown: the
reply to the one result that the apply has. -/
theorem applyToSketch_bind {α : Type} {R : α → Prop} {b : Board} {cfg : PersistedConfig}
    {s : Sketch}
    {f : Sketch × Except String Unit → NvsM α}
    (h : (f ({ s with rc := (applyTables b cfg s.rc).1 }, (applyTables b cfg s.rc).2)).Always R) :
    ((applyToSketch b cfg s).bind f).Always R :=
  (applyToSketch_always b cfg s).bind fun _ hx => hx ▸ h

/-- **What `preset_apply` does.** When the reply is ok, some blob was applied
and the apply succeeded. -/
theorem handleApiPresetApply_always (b : Board) (args : Args) (s : Sketch) :
    (handleApiPresetApply b args s).Always fun x =>
      (x.2.ok = true ∧ ∃ cfg, (applyTables b cfg s.rc).2 = .ok () ∧
        x.1.rc = (applyTables b cfg s.rc).1 ∧ SameSession s x.1) ∨
      (x.2.ok = false ∧ Handled b s x.1) := by
  refine Prog.always_bind_of_forall _ fun loaded => ?_
  cases loaded with
  | error e => exact .inr ⟨rfl, .refl b s⟩
  | ok cfg =>
    refine applyToSketch_bind ?_
    cases happly : (applyTables b cfg s.rc).2 with
    | error e => exact .inr ⟨rfl, .applied cfg, rfl, rfl, rfl⟩
    | ok _ => exact .inl ⟨rfl, cfg, happly, rfl, ⟨rfl, rfl, rfl⟩⟩

/-! ### Requests on a virtual input -/

/-- The requests `virtual_add`, `virtual_update` and `virtual_delete`. -/
def Endpoint.EditsInput (endpoint : Endpoint) : Prop :=
  endpoint = .virtualAdd ∨ endpoint = .virtualUpdate ∨ endpoint = .virtualDelete

/-- What such a request does: it is refused, writes one record, or deletes one.
A record that is deleted is replaced by an empty one, and its number is taken
out of the sources of all outputs. -/
inductive InputEdit (s : Sketch) : Sketch → Prop where
  | refused : InputEdit s s
  | written (index : InputIdx) (record : VirtualInputConfig) :
      InputEdit s
        { s with
          rc := { s.rc with virtualInputs := Function.update s.rc.virtualInputs index record }
          modelDirty := true }
  | deleted (index : InputIdx) :
      InputEdit s
        { s with
          rc := { s.rc with
            virtualInputs := Function.update s.rc.virtualInputs index {}
            bank :=
              { s.rc.bank with outputs := fun i => clearSource index (s.rc.bank.outputs i) } }
          modelDirty := true }

/-- **Requests on an input** are answered at once, with one of the three edits.
The branches are those of the handlers: no free slot or a bad index, a slot that
is not in use, and the write. -/
theorem handleRequest_input (b : Board) (millis : UInt32) {r : Request}
    (hr : r.endpoint.EditsInput) (s : Sketch) :
    ∃ s' reply, handleRequest b millis r s = .pure (s', reply) ∧ InputEdit s s' := by
  unfold handleRequest
  -- each handler refuses, or ends in its one write
  rcases hr with hend | hend | hend
  · rw [hend]
    refine ⟨(handleApiVirtualAdd r.args s).1, _, rfl, ?_⟩
    unfold handleApiVirtualAdd
    split
    · exact .refused
    · exact .written _ _
  · rw [hend]
    refine ⟨(handleApiVirtualUpdate r.args s).1, _, rfl, ?_⟩
    unfold handleApiVirtualUpdate
    split
    · exact .refused
    · split
      · exact .refused
      · exact .written _ _
  · rw [hend]
    refine ⟨(handleApiVirtualDelete r.args s).1, _, rfl, ?_⟩
    unfold handleApiVirtualDelete
    split
    · exact .refused
    · split
      · exact .refused
      · exact .deleted _

/-! ### One handler at a time -/

/-- The requests whose handlers do not look at the storage: inputs, outputs and
pairing. -/
def Endpoint.Immediate : Endpoint → Prop
  | .virtualAdd | .virtualUpdate | .virtualDelete => True
  | .outputAdd | .outputUpdate | .outputDelete => True
  | .pairingOn | .pairingOff => True
  | _ => False

/-- The requests that are immediate, sorted by what they are about. -/
theorem Endpoint.immediate_iff {endpoint : Endpoint} : endpoint.Immediate ↔
    endpoint.EditsInput ∨ endpoint.EditsOutput ∨ endpoint = .pairingOn ∨
      endpoint = .pairingOff := by
  cases endpoint <;> simp [Immediate, EditsInput, EditsOutput]

/-- They are answered without a look at the storage, so no fault can touch
them. -/
theorem handleRequest_immediate (b : Board) (millis : UInt32) {r : Request}
    (h : r.endpoint.Immediate) (s : Sketch) : ∃ x, handleRequest b millis r s = .pure x := by
  unfold handleRequest
  cases hend : r.endpoint <;> rw [hend] at h
  case virtualAdd | virtualUpdate | virtualDelete | outputAdd | outputUpdate | outputDelete
      | pairingOn | pairingOff => exact ⟨_, rfl⟩
  all_goals exact h.elim

section Handlers

variable (b : Board) (args : Args) (s : Sketch)

/-- Editing an output rewires the tables and nothing else of the sketch, whether
the rebuild goes through or is rolled back. -/
theorem handled_editOutput (e : OutputIdx) (record : OutputChannelConfig) (message : String) :
    Handled b s (editOutput b e record message s).1 := by
  refine ⟨.edited e record message, ?_⟩
  unfold editOutput
  dsimp only
  split <;> exact ⟨rfl, rfl, rfl⟩

/-- An edit of an input as an effect. -/
theorem InputEdit.handled {s' : Sketch} (h : InputEdit s s') : Handled b s s' := by
  cases h with
  | refused => exact .refl b s
  | written _ _ => exact ⟨.inputs _, ⟨rfl, rfl, rfl⟩⟩
  | deleted _ => exact ⟨.sources _ _, ⟨rfl, rfl, rfl⟩⟩

/-- The handlers of the requests about models, one by one. Each proof follows
the calls of its handler and looks at both answers of every call; what has been
written to the storage in between does not matter here. Applying a preset
changes the tables, and the name only when the apply succeeds. -/
theorem modelEdit_presetApply :
    (handleApiPresetApply b args s).Always fun x => ModelEdit b s x.1 := by
  refine Prog.always_bind_of_forall _ fun loaded => ?_
  cases loaded with
  | error e => exact .refl b s
  | ok cfg =>
    refine applyToSketch_bind ?_
    cases (applyTables b cfg s.rc).2 <;>
      exact ⟨.inr ⟨cfg, rfl⟩, rfl⟩

/-- The default model is a name in the storage and in the globals. -/
theorem modelEdit_modelSetDefault :
    (handleApiModelSetDefault args s).Always fun x => ModelEdit b s x.1 := by
  refine Prog.always_bind_of_forall _ fun loaded => ?_
  cases loaded with
  | error e => exact .refl b s
  | ok cfg =>
    refine Prog.always_bind_of_forall _ fun saved => ?_
    cases saved with
    | false => exact .refl b s
    | true => exact ⟨.inl rfl, rfl⟩

/-- A model is created by a save and an apply; only the apply touches the
tables. -/
theorem modelEdit_modelCreate :
    (handleApiModelCreate b args s).Always fun x => ModelEdit b s x.1 := by
  refine Prog.always_bind_of_forall _ fun config => ?_
  cases config with
  | error e => exact .refl b s
  | ok cfg =>
    refine Prog.always_bind_of_forall _ fun saved => ?_
    cases saved with
    | error e => exact .refl b s
    | ok _ =>
      refine applyToSketch_bind ?_
      cases (applyTables b cfg s.rc).2 <;>
        exact ⟨.inr ⟨cfg, rfl⟩, rfl⟩

/-- A save clears the mark of a modified model. -/
theorem modelEdit_modelSaveCurrent (millis : UInt32) :
    (handleApiModelSaveCurrent millis s).Always fun x => ModelEdit b s x.1 := by
  unfold handleApiModelSaveCurrent
  split
  · exact Prog.always_bind_of_forall _ fun _ => .refl b s
  · refine Prog.always_bind_of_forall _ fun saved => ?_
    cases saved with
    | error e => exact .refl b s
    | ok _ =>
      refine Prog.always_bind_of_forall _ fun _ => ?_
      exact ⟨.inl rfl, rfl⟩

/-- A revert is an apply of the preset with the current name. -/
theorem modelEdit_modelRevert : (handleApiModelRevert b s).Always fun x => ModelEdit b s x.1 := by
  refine Prog.always_bind_of_forall _ fun loaded => ?_
  cases loaded with
  | error e => exact .refl b s
  | ok cfg =>
    refine applyToSketch_bind ?_
    cases (applyTables b cfg s.rc).2 <;>
      exact ⟨.inr ⟨cfg, rfl⟩, rfl⟩

/-- The fall-back after the current model has been deleted: the boot model, and
the car when that cannot be loaded either. -/
theorem modelEdit_fallBackToBootModel :
    (fallBackToBootModel b s).Always fun s' => ModelEdit b s s' := by
  -- in every branch a blob is applied, to globals that differ in the names only
  refine Prog.always_bind_of_forall _ fun loaded => ?_
  cases loaded with
  | ok cfg => exact applyToSketch_bind ⟨.inr ⟨cfg, rfl⟩, rfl⟩
  | error e =>
    refine Prog.always_bind_of_forall _ fun loaded => ?_
    cases loaded <;> exact applyToSketch_bind ⟨.inr ⟨_, rfl⟩, rfl⟩

/-- A delete may reset the boot name and then fall back. The two steps are
independent: `hend` treats the second for any globals the first can leave. -/
theorem modelEdit_modelDelete :
    (handleApiModelDelete b args s).Always fun x => ModelEdit b s x.1 := by
  unfold handleApiModelDelete
  dsimp only
  split
  · exact .refl b s
  · refine Prog.always_bind_of_forall _ fun deleted => ?_
    cases deleted with
    | error e => exact .refl b s
    | ok _ =>
      -- the fall-back, on globals whose boot name may have been reset
      have hend : ∀ t : Sketch, t.rc = s.rc → ModelEdit b s t →
          (if t.currentModelName = sanitizePresetName (args.arg .name) then
            (fallBackToBootModel b t).bind fun t' => .pure (t', Reply.json true "Preset deleted")
          else .pure (t, Reply.json true "Preset deleted") : NvsM (Sketch × Reply)).Always
            fun x => ModelEdit b s x.1 := by
        intro t hrc ht
        split
        · refine Prog.Always.bind (modelEdit_fallBackToBootModel b t) fun t' ht' => ?_
          exact ht'.after ht hrc
        · exact ht
      dsimp only
      split
      · exact Prog.always_bind_of_forall _ fun _ => hend _ rfl ⟨.inl rfl, rfl⟩
      · exact hend s rfl (.refl b s)

/-- The credentials are replaced in the globals when both have been stored. -/
theorem modelEdit_apConfig (message : String) :
    (handleApConfig message args s).Always fun x => ModelEdit b s x.1 := by
  unfold handleApConfig
  split
  · exact .refl b s
  · dsimp only
    split
    · exact .refl b s
    · apply Prog.always_bind_of_forall
      -- two writes, and each of them may fail
      intro savedSsid
      cases savedSsid with
      | false => exact .refl b s
      | true =>
        apply Prog.always_bind_of_forall
        intro savedPass
        cases savedPass with
        | false => exact .refl b s
        -- only the strings of the access point have changed
        | true => exact ⟨.inl rfl, rfl⟩

/-- **The requests about models and the access point**, whatever the storage
answers: the tables are those of a blob at most. -/
theorem handleRequest_modelEdit (b : Board) (millis : UInt32) (r : Request) (s : Sketch)
    (hend : ¬ r.endpoint.Immediate) :
    (handleRequest b millis r s).Always fun x => ModelEdit b s x.1 := by
  unfold handleRequest
  cases hendpoint : r.endpoint with
  | presetApply => exact modelEdit_presetApply b r.args s
  | modelSetDefault => exact modelEdit_modelSetDefault b r.args s
  | modelCreate => exact modelEdit_modelCreate b r.args s
  | modelSaveCurrent => exact modelEdit_modelSaveCurrent b s millis
  | modelRevert => exact modelEdit_modelRevert b s
  | modelDelete => exact modelEdit_modelDelete b r.args s
  | apConfigSet => exact modelEdit_apConfig b r.args s _
  | apConfigApplyReboot => exact modelEdit_apConfig b r.args s _
  | _ => exact absurd (by rw [hendpoint]; trivial) hend

end Handlers

/-- **Every request has one of the effects and leaves the connection alone**,
whatever the storage answers. -/
theorem handleRequest_always (b : Board) (millis : UInt32) (r : Request) (s : Sketch) :
    (handleRequest b millis r s).Always fun x => Handled b s x.1 := by
  by_cases hend : r.endpoint.Immediate
  swap
  · exact (handleRequest_modelEdit b millis r s hend).mono fun _ h => h.handled
  -- the handlers that do not look at the storage, kind by kind
  rcases Endpoint.immediate_iff.mp hend with hinput | houtput | hon | hoff
  · obtain ⟨s', reply, hrun, hedit⟩ := handleRequest_input b millis hinput s
    rw [hrun]
    exact hedit.handled b s
  · rcases handleRequest_edit b millis houtput s with ⟨msg, -, hrun⟩ | ⟨e, record, msg, -, hrun⟩
    · rw [hrun]
      exact .refl b s
    · rw [hrun]
      exact handled_editOutput b s e record msg
  · unfold handleRequest
    rw [hon]
    exact (Handled.refl b s).of_rc rfl ⟨rfl, rfl, rfl⟩
  · unfold handleRequest
    rw [hoff]
    exact (Handled.refl b s).of_rc rfl ⟨rfl, rfl, rfl⟩

end RcController
