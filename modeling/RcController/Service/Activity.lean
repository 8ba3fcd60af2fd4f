import RcController.Service.Writing

/-!
# The activity payload is a projection of the state payload

The UI reads the full state rarely and the activity often, and puts the two together by index. The
two payloads come from two builders with loops of their own over the sparse tables. Each builder
writes a document (`writes_stateDoc`, `writes_activityDoc`), so each text is read as that
document, and the two documents agree on what they share (`activity_projects_state`).

The writer puts `nan` or `inf` where a float is no number. The documents are the same then, word
by word, but their texts are not JSON; they are when all floats are numbers
(`strict_stateDoc`, `strict_activityDoc`).
-/

namespace RcController

open Json

variable {F : Type}

/-! ### The documents -/

/-- Whether a value counts as active: its absolute value is above the
threshold. -/
def activeDoc (fl : FloatOps F) (v : F) : Doc := boolDoc (fl.aboveActiveThreshold (fl.fabsf v))

def cstringDoc (text : Option Str) : Doc := .string ((text.getD []).takeWhile (· ≠ 0))

/-- The entry of an input in the state payload. -/
def virtualInputDoc (fl : FloatOps F) (i : InputIdx) (inp : VirtualInputConfig) (v : F) : Doc :=
  .object [(lit "index", intDoc i.val), (lit "name", .string (cstr inp.name)),
    (lit "input", intDoc inp.primary.toNat), (lit "input_secondary", intDoc inp.secondary.toNat),
    (lit "input_type", intDoc inp.inputType.toByte.toNat),
    (lit "range_mode", intDoc inp.toggleRange.toByte.toNat),
    (lit "rumble", boolDoc inp.rumbleEnabled), (lit "input_modifier", intDoc inp.modifier.toNat),
    (lit "modifier_function", intDoc inp.modifierFunction.toByte.toNat),
    (lit "deadzone", intDoc inp.deadzonePercent), (lit "expo", intDoc inp.expoPercent),
    (lit "signed_activity", floatDoc fl v), (lit "activity", floatDoc fl (fl.fabsf v)),
    (lit "active", activeDoc fl v)]

/-- What `appendOutput` writes. -/
def outputDoc (fl : FloatOps F) (i : OutputIdx) (out : OutputChannelConfig) (v : F)
    (failsafeActive : Bool) : Doc :=
  .object [(lit "index", intDoc i.val), (lit "name", .string (cstr out.name)),
    (lit "type", intDoc out.type.toByte.toNat),
    (lit "type_label", .string (outputTypeLabel out.type)), (lit "pin", intDoc out.pin.toNat),
    (lit "source_a", intDoc out.sourceA.toInt), (lit "source_b", intDoc out.sourceB.toInt),
    (lit "source_c", intDoc out.sourceC.toInt), (lit "mix_mode", intDoc out.mixMode.toByte.toNat),
    (lit "mix_mode_label", .string (mixModeLabel out.mixMode)),
    (lit "weight_a", intDoc out.weightA.toInt), (lit "weight_b", intDoc out.weightB.toInt),
    (lit "weight_c", intDoc out.weightC.toInt), (lit "offset_a", intDoc out.offsetA.toInt),
    (lit "offset_b", intDoc out.offsetB.toInt), (lit "offset_c", intDoc out.offsetC.toInt),
    (lit "threshold", intDoc out.thresholdPercent), (lit "inverted", boolDoc out.inverted),
    (lit "pwm_failsafe", intDoc out.pwmFailsafeMode.toByte.toNat),
    (lit "failsafe_active", boolDoc failsafeActive), (lit "signed_activity", floatDoc fl v),
    (lit "activity", floatDoc fl (fl.fabsf v)), (lit "active", activeDoc fl v)]

/-- The entry of an input in the activity payload. It is the part of the other
one that changes while a gamepad is in use. -/
def inputActivityDoc (fl : FloatOps F) (i : InputIdx) (v : F) : Doc :=
  .object [(lit "index", intDoc i.val), (lit "signed_activity", floatDoc fl v),
    (lit "active", activeDoc fl v)]

/-- An entry of the activity payload for an output. -/
def outputActivityDoc (fl : FloatOps F) (i : OutputIdx) (v : F) (failsafeActive : Bool) : Doc :=
  .object [(lit "index", intDoc i.val), (lit "signed_activity", floatDoc fl v),
    (lit "failsafe_active", boolDoc failsafeActive), (lit "active", activeDoc fl v)]

namespace StateSnapshot

variable (s : StateSnapshot F)

/-- The entries of the inputs in use, in the order of their slots. -/
def inputEntries (entry : InputIdx → Doc) : List Doc :=
  (List.finRange kMaxVirtualInputs).flatMap fun i =>
    if !(s.virtualInputs i).used then [] else [entry i]

/-- One entry for each output in use. -/
def outputEntries (entry : OutputIdx → Doc) : List Doc :=
  (List.finRange kMaxOutputChannels).flatMap fun i =>
    if !(s.outputs i).used then [] else [entry i]

def presetEntries : List Doc :=
  match s.presetDir with
  | none => []
  | some dir => (List.finRange dir.val.count).flatMap fun i => [.string (cstr (dir.name i))]

end StateSnapshot

/-- The document of the state payload. -/
def stateDoc (b : Board) (fl : FloatOps F) (s : StateSnapshot F) : Doc :=
  .object [(lit "ap_ip", .string s.apIp), (lit "ap_ssid", .string s.apSsid),
    (lit "ap_password", .string s.apPassword), (lit "gamepad", boolDoc s.gamepadConnected),
    (lit "bt_scan", boolDoc s.btScanActive), (lit "pairing", boolDoc s.pairingEnabled),
    (lit "current_model", .string s.currentModel), (lit "fw_version", .string s.fwVersion),
    (lit "fw_channel", .string s.fwChannel), (lit "boot_model", .string s.bootModel),
    (lit "model_dirty", boolDoc s.modelDirty), (lit "failsafe", boolDoc s.failsafeActive),
    (lit "virtual_inputs", .array (s.inputEntries fun i =>
      virtualInputDoc fl i (s.virtualInputs i) (s.virtualRuntime i))),
    (lit "outputs", .array (s.outputEntries fun i =>
      outputDoc fl i (s.outputs i) (s.outputRuntime i) s.failsafeActive)),
    (lit "pwm_pins", .array (OutputBank.scanPins.flatMap fun pin =>
      if b.hasPwm pin then [intDoc pin.toNat] else [])),
    (lit "presets", .array ([cstringDoc s.presetBuiltinA] ++ ([cstringDoc s.presetBuiltinB] ++
      ([cstringDoc s.presetBuiltinC] ++ s.presetEntries))))]

/-- The document of the activity payload. -/
def activityDoc (fl : FloatOps F) (s : StateSnapshot F) : Doc :=
  .object [(lit "ap_ssid", .string s.apSsid), (lit "gamepad", boolDoc s.gamepadConnected),
    (lit "bt_scan", boolDoc s.btScanActive), (lit "pairing", boolDoc s.pairingEnabled),
    (lit "failsafe", boolDoc s.failsafeActive), (lit "fw_version", .string s.fwVersion),
    (lit "fw_channel", .string s.fwChannel),
    (lit "virtual_inputs", .array (s.inputEntries fun i =>
      inputActivityDoc fl i (s.virtualRuntime i))),
    (lit "outputs", .array (s.outputEntries fun i =>
      outputActivityDoc fl i (s.outputRuntime i) s.failsafeActive))]

/-! ### The builders write them -/

section Builders

variable (b : Board) (fl : FloatOps F) (s : StateSnapshot F)

/-- The builder of an input entry writes its document. -/
theorem writes_virtualInputDoc (i : InputIdx) (inp : VirtualInputConfig) (v : F) :
    WritesDoc 1 (appendVirtualInput fl i inp v) (virtualInputDoc fl i inp v) := by
  unfold appendVirtualInput virtualInputDoc
  refine .object ?_
  apply_rules [Members.member, Members.endObject, WritesDoc.valueInt, WritesDoc.valueString,
    WritesDoc.valueBool, WritesDoc.valueFloat]

/-- The builder of an output entry writes its document. -/
theorem writes_outputDoc (i : OutputIdx) (out : OutputChannelConfig) (v : F)
    (failsafeActive : Bool) :
    WritesDoc 1 (appendOutput fl i out v failsafeActive) (outputDoc fl i out v failsafeActive) := by
  unfold appendOutput outputDoc
  refine .object ?_
  -- 23 members, fifty rules at a time
  apply_rules [Members.member, Members.endObject, WritesDoc.valueInt, WritesDoc.valueString,
    WritesDoc.valueBool, WritesDoc.valueFloat]
  · exact .valueInt _
  apply_rules [Members.member, Members.endObject, WritesDoc.valueInt, WritesDoc.valueString,
    WritesDoc.valueBool, WritesDoc.valueFloat]

/-- A loop that leaves out the inputs that are not in use. -/
theorem items_inputEntries {n : ℕ} {body : InputIdx → Writing} {entry : InputIdx → Doc}
    (h : ∀ i, WritesDoc n (body i) (entry i)) :
    Items n ((List.finRange kMaxVirtualInputs).forM fun i =>
      if !(s.virtualInputs i).used then pure () else body i) (s.inputEntries entry) := by
  refine .forM (fun i => ?_) _
  split
  · exact .none
  · exact .value (h i)

/-- The same for the outputs, for the pins with PWM, and for the names of the
presets. -/
theorem items_outputEntries {n : ℕ} {body : OutputIdx → Writing} {entry : OutputIdx → Doc}
    (h : ∀ i, WritesDoc n (body i) (entry i)) :
    Items n ((List.finRange kMaxOutputChannels).forM fun i =>
      if !(s.outputs i).used then pure () else body i) (s.outputEntries entry) := by
  refine .forM (fun i => ?_) _
  split
  · exact .none
  · exact .value (h i)

theorem items_pwmPins {n : ℕ} :
    Items n (OutputBank.scanPins.forM fun pin =>
        if b.hasPwm pin then Writing.valueInt pin.toNat else pure ())
      (OutputBank.scanPins.flatMap fun pin => if b.hasPwm pin then [intDoc pin.toNat] else []) := by
  refine .forM (fun pin => ?_) _
  split
  · exact .value (.valueInt _)
  · exact .none

theorem items_presetEntries {n : ℕ} : Items n (presetNames s.presetDir) s.presetEntries := by
  unfold presetNames StateSnapshot.presetEntries
  cases s.presetDir with
  | none => exact .none
  | some dir => exact .forM (fun i => .value (.valueString _)) _

/-- **The state payload** is written as its document. The members are taken in
the order of the calls, and three arrays are open at most. -/
theorem writes_stateDoc : WritesDoc 3 (stateCalls b fl s) (stateDoc b fl s) := by
  unfold stateCalls stateDoc
  -- the members before the first array, and the four arrays
  refine .object ?_
  refine .member rfl (.valueString _) <| .member rfl (.valueString _) <|
    .member rfl (.valueString _) <| .member rfl (.valueBool _) <|
    .member rfl (.valueBool _) <| .member rfl (.valueBool _) <|
    .member rfl (.valueString _) <| .member rfl (.valueString _) <|
    .member rfl (.valueString _) <| .member rfl (.valueString _) <|
    .member rfl (.valueBool _) <| .member rfl (.valueBool _) <| ?_
  refine .array rfl (.last (items_inputEntries s fun i => writes_virtualInputDoc fl i _ _) ?_)
  refine .array rfl (.last (items_outputEntries s fun i => writes_outputDoc fl i _ _ _) ?_)
  refine .array rfl (.last (items_pwmPins b) ?_)
  refine .array rfl (.items (.value (.valueCString _)) ?_)
  refine .items (.value (.valueCString _)) (.items (.value (.valueCString _)) ?_)
  exact .last (items_presetEntries s) .endObject

/-- **The activity payload** is written as its document. -/
theorem writes_activityDoc : WritesDoc 3 (activityCalls fl s) (activityDoc fl s) := by
  unfold activityCalls activityDoc
  refine .object ?_
  refine .member rfl (.valueString _) <| .member rfl (.valueBool _) <|
    .member rfl (.valueBool _) <| .member rfl (.valueBool _) <|
    .member rfl (.valueBool _) <| .member rfl (.valueString _) <|
    .member rfl (.valueString _) <| ?_
  -- the two arrays, one entry for each slot in use
  refine .array rfl (.last (items_inputEntries s fun i => .object ?_) ?_)
  · apply_rules [Members.member, Members.endObject, WritesDoc.valueInt, WritesDoc.valueBool,
      WritesDoc.valueFloat]
  refine .array rfl (.last (items_outputEntries s fun i => .object ?_) .endObject)
  apply_rules [Members.member, Members.endObject, WritesDoc.valueInt, WritesDoc.valueBool,
    WritesDoc.valueFloat]

end Builders

/-! ### They are JSON when the floats are numbers -/

section Strict

variable {b : Board} {fl : FloatOps F} (hfl : fl.Finite) (s : StateSnapshot F)

include hfl

/-- An entry of an input: of its words only two are floats. So it is strict when
floats are numbers. -/
theorem strict_virtualInputDoc (i : InputIdx) (inp : VirtualInputConfig) (v : F) :
    (virtualInputDoc fl i inp v).strict = true := by
  refine Doc.strict_object ?_
  simp [strict_floatDoc hfl, activeDoc]

/-- The same for an output. -/
theorem strict_outputDoc (i : OutputIdx) (out : OutputChannelConfig) (v : F)
    (failsafeActive : Bool) : (outputDoc fl i out v failsafeActive).strict = true := by
  refine Doc.strict_object ?_
  simp [strict_floatDoc hfl, activeDoc]

omit hfl in
/-- The entries of a loop over the slots that skips those not in use. -/
theorem strict_entries {ι : Type} {l : List ι} {skip : ι → Bool} {entry : ι → Doc}
    (h : ∀ i, (entry i).strict = true) :
    (Doc.array (l.flatMap fun i => if skip i then [] else [entry i])).strict = true := by
  refine Doc.strict_array fun d hd => ?_
  obtain ⟨i, -, hi⟩ := List.mem_flatMap.mp hd
  split at hi
  · cases hi
  · rw [List.mem_singleton.mp hi]
    exact h i

omit hfl in
/-- The names of the presets are strings. -/
theorem strict_presets : ∀ d ∈ s.presetEntries, d.strict = true := by
  intro d hd
  unfold StateSnapshot.presetEntries at hd
  split at hd
  · cases hd
  · obtain ⟨i, -, hi⟩ := List.mem_flatMap.mp hd
    rw [List.mem_singleton.mp hi]
    exact Doc.strict_string _

/-- **The full state is JSON** when the floats are numbers. -/
theorem strict_stateDoc : (stateDoc b fl s).strict = true := by
  -- the four arrays of the document; its other fields are texts, flags and integers
  have hinputs : (Doc.array (s.inputEntries fun i =>
      virtualInputDoc fl i (s.virtualInputs i) (s.virtualRuntime i))).strict = true :=
    strict_entries fun i => strict_virtualInputDoc hfl i _ _
  have houtputs : (Doc.array (s.outputEntries fun i =>
      outputDoc fl i (s.outputs i) (s.outputRuntime i) s.failsafeActive)).strict = true :=
    strict_entries fun i => strict_outputDoc hfl i _ _ _
  have hpins : (Doc.array (OutputBank.scanPins.flatMap fun pin =>
      if b.hasPwm pin then [intDoc pin.toNat] else [])).strict = true := by
    refine Doc.strict_array fun d hd => ?_
    obtain ⟨pin, -, hpin⟩ := List.mem_flatMap.mp hd
    split at hpin
    · rw [List.mem_singleton.mp hpin]
      exact strict_intDoc _
    · cases hpin
  have hpresets : (Doc.array ([cstringDoc s.presetBuiltinA] ++ ([cstringDoc s.presetBuiltinB] ++
      ([cstringDoc s.presetBuiltinC] ++ s.presetEntries)))).strict = true := by
    refine Doc.strict_array fun d hd => ?_
    simp only [List.mem_append, List.mem_singleton] at hd
    obtain rfl | rfl | rfl | hd := hd
    · exact Doc.strict_string _
    · exact Doc.strict_string _
    · exact Doc.strict_string _
    · exact strict_presets s d hd
  simp only [List.cons_append, List.nil_append] at hpresets
  refine Doc.strict_object ?_
  simp [hinputs, houtputs, hpins, hpresets]

/-- **The activity is JSON** when the floats are numbers. -/
theorem strict_activityDoc : (activityDoc fl s).strict = true := by
  have hinputs : (Doc.array (s.inputEntries fun i =>
      inputActivityDoc fl i (s.virtualRuntime i))).strict = true := by
    refine strict_entries fun i => Doc.strict_object ?_
    simp [strict_floatDoc hfl, activeDoc]
  have houtputs : (Doc.array (s.outputEntries fun i =>
      outputActivityDoc fl i (s.outputRuntime i) s.failsafeActive)).strict = true := by
    refine strict_entries fun i => Doc.strict_object ?_
    simp [strict_floatDoc hfl, activeDoc]
  refine Doc.strict_object ?_
  simp [hinputs, houtputs]

end Strict

/-! ### What the two documents share -/

/-- Two documents have the same value under a key. -/
def Agree (d d' : Doc) (k : Str) : Prop := ∃ v, d.field k = some v ∧ d'.field k = some v

/-- Two documents have arrays of one length under a key, and their entries agree
on some members, one by one. -/
def EntriesAgree (d d' : Doc) (k : Str) (shared : List Str) : Prop :=
  ∃ entries entries', d.field k = some (.array entries) ∧ d'.field k = some (.array entries') ∧
    List.Forall₂ (fun e e' => ∀ m ∈ shared, Agree e e' m) entries entries'

/-- The members at the top that both payloads have. -/
def sharedMembers : List Str :=
  [lit "ap_ssid", lit "gamepad", lit "bt_scan", lit "pairing", lit "failsafe", lit "fw_version",
    lit "fw_channel"]

/-- The activity document says what the state document does, of everything they
share. -/
structure Projects (state activity : Doc) : Prop where
  members : ∀ k ∈ sharedMembers, Agree state activity k
  inputs : EntriesAgree state activity (lit "virtual_inputs")
    [lit "index", lit "signed_activity", lit "active"]
  outputs : EntriesAgree state activity (lit "outputs")
    [lit "index", lit "signed_activity", lit "active", lit "failsafe_active"]

/-- Two loops over the same slots make lists of one shape. -/
theorem forall₂_flatMap {ι : Type} {R : Doc → Doc → Prop} {f g : ι → List Doc}
    (h : ∀ i, List.Forall₂ R (f i) (g i)) (l : List ι) :
    List.Forall₂ R (l.flatMap f) (l.flatMap g) := by
  induction l with
  | nil => exact .nil
  | cons i l ih => exact List.rel_append (h i) ih

section Agreement

variable (b : Board) (fl : FloatOps F) (s : StateSnapshot F)

/-- The two entries of an input agree on what they share, and so do those of an
output. -/
theorem virtualInput_agree (i : InputIdx) (inp : VirtualInputConfig) (v : F) :
    ∀ m ∈ [lit "index", lit "signed_activity", lit "active"],
      Agree (virtualInputDoc fl i inp v) (inputActivityDoc fl i v) m := by
  simp only [List.forall_mem_cons]
  exact ⟨⟨_, rfl, rfl⟩, ⟨_, rfl, rfl⟩, ⟨_, rfl, rfl⟩, nofun⟩

theorem output_agree (i : OutputIdx) (out : OutputChannelConfig) (v : F) (failsafeActive : Bool) :
    ∀ m ∈ [lit "index", lit "signed_activity", lit "active", lit "failsafe_active"],
      Agree (outputDoc fl i out v failsafeActive) (outputActivityDoc fl i v failsafeActive) m := by
  simp only [List.forall_mem_cons]
  exact ⟨⟨_, rfl, rfl⟩, ⟨_, rfl, rfl⟩, ⟨_, rfl, rfl⟩, ⟨_, rfl, rfl⟩, nofun⟩

/-- **The documents agree on what they share.** Both loops skip the slots that
are not in use, so the entries come in pairs. -/
theorem projects_activityDoc : Projects (stateDoc b fl s) (activityDoc fl s) where
  members := by
    unfold sharedMembers
    simp only [List.forall_mem_cons]
    exact ⟨⟨_, rfl, rfl⟩, ⟨_, rfl, rfl⟩, ⟨_, rfl, rfl⟩, ⟨_, rfl, rfl⟩, ⟨_, rfl, rfl⟩,
      ⟨_, rfl, rfl⟩, ⟨_, rfl, rfl⟩, nofun⟩
  inputs := by
    -- a slot has an entry in both arrays, or in none
    refine ⟨_, _, rfl, rfl, forall₂_flatMap (fun i => ?_) _⟩
    split
    · exact .nil
    · exact .cons (virtualInput_agree fl i _ _) .nil
  outputs := by
    refine ⟨_, _, rfl, rfl, forall₂_flatMap (fun i => ?_) _⟩
    split
    · exact .nil
    · exact .cons (output_agree fl i _ _ _) .nil

end Agreement

/-- **The activity payload is a projection of the state payload.** For every
snapshot, and every type of floats, both builders return a text, each text is
read as a document, and the second document agrees with the first on the shared
members and, entry by entry, on the arrays. When the floats are numbers, both
texts are JSON. -/
theorem activity_projects_state (b : Board) (fl : FloatOps F) (s : StateSnapshot F) :
    ∃ stateText activityText state activity,
      buildStateJson b fl s = some stateText ∧ Doc.scan stateText = some state ∧
      buildActivityJson fl s = some activityText ∧ Doc.scan activityText = some activity ∧
      Projects state activity ∧
      (fl.Finite → Doc.parse stateText = some state ∧ Doc.parse activityText = some activity) := by
  obtain ⟨stateText, hstate, hstateDoc⟩ := str_of_writesDoc (writes_stateDoc b fl s) (by decide)
  obtain ⟨activityText, hactivity, hactivityDoc⟩ :=
    str_of_writesDoc (writes_activityDoc fl s) (by decide)
  refine ⟨stateText, activityText, _, _, hstate, hstateDoc, hactivity, hactivityDoc,
    projects_activityDoc b fl s, fun hfl => ⟨?_, ?_⟩⟩
  · exact Doc.parse_of_scan hstateDoc (strict_stateDoc hfl s)
  · exact Doc.parse_of_scan hactivityDoc (strict_activityDoc hfl s)

end RcController
