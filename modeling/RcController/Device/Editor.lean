import RcController.Device.Controls
import RcController.Device.Partial
import RcController.Device.Ranges
import RcController.Device.Web

/-!
# Editing without a change

The page shows the tables of the device in editors and posts what their controls hold. Whoever
opens an editor and saves it without a change expects that nothing changes. For an input this
is so exactly when the editor can show the record (`Resavable`): the menus have neither `L2`
nor `R2` as buttons nor an id that is none, the box for the range is for toggles only, and a
name is trimmed. Whatever is not shown is replaced by what is (`resave_input_iff`).
-/

namespace RcController

open Json DeviceProg Runs UrlForm Page

/-- A parameter whose name no other one has is found. -/
theorem lookup_of_mem {params : List RequestArgument} (hkeys : (params.map Prod.fst).Nodup)
    {k v : Str} (h : (k, v) ∈ params) : params.lookup k = some v := by
  obtain ⟨front, back, rfl⟩ := List.append_of_mem h
  refine List.lookup_eq_some_iff.mpr ⟨front, back, rfl, fun p hp => ?_⟩
  rw [List.map_append, List.nodup_append] at hkeys
  have hne := hkeys.2.2 p.1 (List.mem_map_of_mem hp) k (by simp)
  exact bne_iff_ne.mpr (Ne.symm hne)

/-! ### The menus of inputs -/

/-- The menus have the input. -/
def InputId.Listed (id : InputId) : Prop := id ∈ listedInputs.map InputDefinition.id

instance : DecidablePred InputId.Listed := fun id =>
  inferInstanceAs (Decidable (id ∈ listedInputs.map InputDefinition.id))

/-- The page reads the numbers of the inputs off the menu. -/
theorem filterMap_inputDoc :
    (listedInputs.map inputDoc).filterMap (number "id") =
      listedInputs.map fun d => (d.id.toNat : ℤ) := by
  rw [List.filterMap_map]
  have hid : ∀ d ∈ listedInputs, (number "id" ∘ inputDoc) d = some (d.id.toNat : ℤ) :=
    fun d _ => number_of_field rfl
  rw [List.filterMap_congr hid, List.filterMap_eq_map']

/-- A number is in the menu when the input of that number is. -/
theorem mem_listedIds_iff (id : InputId) :
    (id.toNat : ℤ) ∈ listedInputs.map (fun d => (d.id.toNat : ℤ)) ↔ id.Listed := by
  simp only [InputId.Listed, List.mem_map]
  refine exists_congr fun d => and_congr_right fun _ => ?_
  rw [Nat.cast_inj]
  exact ⟨UInt8.toNat_inj.mp, congrArg UInt8.toNat⟩

/-- The menu for the primary input starts with the left stick. -/
theorem fillInputSelect_primary {p : Page} (hp : p.inputs = listedInputs.map inputDoc)
    (id : InputId) : p.fillInputSelect (some (id.toNat : ℤ)) false =
      Str.ofInt (if id.Listed then id else .axisX).toNat := by
  have hcons : (listedInputs.map fun d => (d.id.toNat : ℤ)) =
      1 :: (listedInputs.map fun d => (d.id.toNat : ℤ)).tail := by decide +kernel
  have hmem := mem_listedIds_iff id
  unfold fillInputSelect
  dsimp only
  rw [hp, filterMap_inputDoc, if_neg Bool.false_ne_true, List.nil_append]
  rw [hcons] at hmem ⊢
  rw [fillSelect_eq]
  by_cases h : id.Listed
  · rw [if_pos h, if_pos (hmem.mpr h)]
  · rw [if_neg h, if_neg (mt hmem.mp h)]
    rfl

/-- The other menus start with none. -/
theorem fillInputSelect_optional {p : Page} (hp : p.inputs = listedInputs.map inputDoc)
    (id : InputId) : p.fillInputSelect (some (id.toNat : ℤ)) true =
      Str.ofInt (if id.Listed then id else .none).toNat := by
  unfold fillInputSelect
  dsimp only
  rw [hp, filterMap_inputDoc, if_pos rfl, List.cons_append, List.nil_append, fillSelect_eq]
  -- an input of the menu is selected, and so is none; any other one falls back to none
  by_cases h : id.Listed
  · rw [if_pos h, if_pos (List.mem_cons_of_mem 0 ((mem_listedIds_iff id).mpr h))]
  · rw [if_neg h]
    -- the option for none stands in front of the inputs
    by_cases h0 : id = .none
    · subst h0
      exact congrArg Str.ofInt (if_pos List.mem_cons_self)
    · rw [if_neg]
      · rfl
      · rw [List.mem_cons, mem_listedIds_iff]
        rintro (hzero | hlisted)
        · exact h0 (UInt8.toNat_inj.mp (by exact_mod_cast hzero))
        · exact h hlisted

/-! ### What the editor of an input posts -/

section Input

variable {F : Type} {fl : FloatOps F} {br : Browser} {p : Page} {i : InputIdx}
  {c : VirtualInputConfig} {v : F}

/-- The controls of the editor of a record. -/
def shownInput (br : Browser) (i : InputIdx) (c : VirtualInputConfig) : VirtualEditor where
  index := Str.ofInt i.val
  name := br.shown (cstr c.name)
  input := Str.ofInt (if c.primary.Listed then c.primary else .axisX).toNat
  inputType := Str.ofInt c.inputType.toByte.toNat
  unipolar := decide (c.inputType ≠ .direct) && decide (c.toggleRange = .unipolar)
  rumble := c.rumbleEnabled
  secondary := Str.ofInt (if c.secondary.Listed then c.secondary else .none).toNat
  modifier := Str.ofInt (if c.modifier.Listed then c.modifier else .none).toNat
  modifierFn := Str.ofInt c.modifierFunction.toByte.toNat
  deadzone := Str.ofInt c.deadzonePercent
  expo := Str.ofInt c.expoPercent

/-- A member of the entry of an input. -/
theorem field_virtualInputDoc {k : Str} {d : Doc}
    (h : ∃ members, virtualInputDoc fl i c v = .object members ∧ (k, d) ∈ members) :
    (virtualInputDoc fl i c v).field k = some d := by
  obtain ⟨members, heq, hmem⟩ := h
  have hkeys : (members.map Prod.fst).Nodup := by
    cases heq
    simp only [List.map_cons, List.map_nil]
    decide +kernel
  rw [heq]
  exact Doc.field_of_mem hkeys hmem

/-- Every whole number of the entry. -/
theorem number_virtualInputDoc {k : String} {n : ℤ}
    (h : ∃ members, virtualInputDoc fl i c v = .object members ∧ (lit k, intDoc n) ∈ members) :
    number k (virtualInputDoc fl i c v) = some n :=
  number_of_field (field_virtualInputDoc h)

theorem openVirtualModal_eq (hp : p.inputs = listedInputs.map inputDoc) :
    p.openVirtualModal br (some (virtualInputDoc fl i c v)) = shownInput br i c := by
  -- what the page finds under each key of the entry
  have hindex : number "index" (virtualInputDoc fl i c v) = some (i.val : ℤ) :=
    number_virtualInputDoc ⟨_, rfl, by simp⟩
  have hname : text "name" (virtualInputDoc fl i c v) = cstr c.name :=
    text_of_field (field_virtualInputDoc ⟨_, rfl, by simp⟩)
  have hinput : number "input" (virtualInputDoc fl i c v) = some (c.primary.toNat : ℤ) :=
    number_virtualInputDoc ⟨_, rfl, by simp⟩
  have htype : number "input_type" (virtualInputDoc fl i c v)
      = some (c.inputType.toByte.toNat : ℤ) := number_virtualInputDoc ⟨_, rfl, by simp⟩
  have hrange : number "range_mode" (virtualInputDoc fl i c v)
      = some (c.toggleRange.toByte.toNat : ℤ) := number_virtualInputDoc ⟨_, rfl, by simp⟩
  have hrumble : flag "rumble" (virtualInputDoc fl i c v) = c.rumbleEnabled :=
    flag_of_field (field_virtualInputDoc ⟨_, rfl, by simp⟩)
  have hsecondary : number "input_secondary" (virtualInputDoc fl i c v)
      = some (c.secondary.toNat : ℤ) := number_virtualInputDoc ⟨_, rfl, by simp⟩
  have hmodifier : number "input_modifier" (virtualInputDoc fl i c v)
      = some (c.modifier.toNat : ℤ) := number_virtualInputDoc ⟨_, rfl, by simp⟩
  have hfn : number "modifier_function" (virtualInputDoc fl i c v)
      = some (c.modifierFunction.toByte.toNat : ℤ) := number_virtualInputDoc ⟨_, rfl, by simp⟩
  have hdeadzone : number "deadzone" (virtualInputDoc fl i c v) = some c.deadzonePercent :=
    number_virtualInputDoc ⟨_, rfl, by simp⟩
  have hexpo : number "expo" (virtualInputDoc fl i c v) = some c.expoPercent :=
    number_virtualInputDoc ⟨_, rfl, by simp⟩
  -- the three lists that are written out in the page hold every value of their
  -- enumeration
  have htypes : assignSelect [0, 1, 2] (c.inputType.toByte.toNat : ℤ)
      = Str.ofInt c.inputType.toByte.toNat :=
    assignSelect_eq (by cases c.inputType <;> decide)
  have hfns : assignSelect [0, 1, 2, 3, 4] (c.modifierFunction.toByte.toNat : ℤ)
      = Str.ofInt c.modifierFunction.toByte.toNat :=
    assignSelect_eq (by cases c.modifierFunction <;> decide)
  -- the box is checked for a toggle with one side
  have hbox : (decide (Str.ofInt c.inputType.toByte.toNat = Str.ofInt 1 ∨
      Str.ofInt c.inputType.toByte.toNat = Str.ofInt 2) &&
        decide ((c.toggleRange.toByte.toNat : ℤ) = 0)) =
      (decide (c.inputType ≠ .direct) && decide (c.toggleRange = .unipolar)) := by
    cases c.inputType <;> cases c.toggleRange <;> decide +kernel
  unfold openVirtualModal shownInput
  simp only [hindex, hname, hinput, htype, hrange, hrumble, hsecondary, hmodifier, hfn, hdeadzone,
    hexpo, Option.getD_some, htypes, hfns, hbox, fillInputSelect_primary hp,
    fillInputSelect_optional hp]
  rfl

/-- A parameter that the editor of an input posts is found by its name: the
names in the payload are distinct. -/
theorem VirtualEditor.lookup_payload {ui : VirtualEditor} (hui : ui.index ≠ []) {k t : Str}
    (h : (k, t) ∈ ui.payload) : ui.payload.lookup k = some t := by
  refine lookup_of_mem ?_ h
  unfold VirtualEditor.payload
  rw [if_neg hui]
  simp only [List.cons_append, List.nil_append, List.map_cons, List.map_nil]
  decide +kernel

/-- Among them the number of the slot. -/
theorem VirtualEditor.index_payload {ui : VirtualEditor} (hui : ui.index ≠ []) :
    formArgs ui.payload .index = some ui.index :=
  lookup_payload hui (by simp [payload, Param.key, hui])

/-- An input that its editor can show: the parts of it that come back. The name
has to survive the text field, the inputs have to be in the menus, and a direct
input has to be bipolar, since the box for the range is for toggles only. -/
structure VirtualInputConfig.Resavable (br : Browser) (c : VirtualInputConfig) : Prop where
  name : cstr c.name ≠ [] ∧ (br.shown (cstr c.name)).trim.take 23 = cstr c.name
  primary : c.primary.Listed
  secondary : c.secondary = .none ∨ c.secondary.Listed
  modifier : c.modifier = .none ∨ c.modifier.Listed
  range : c.inputType = .direct → c.toggleRange = .bipolar

/-- A box that is posted comes back. -/
theorem parseBoolArg_checkbox {args : Args} {q : Param} {checked : Bool}
    (h : args q = some (checkbox checked)) (fallback : Bool) :
    args.parseBoolArg q fallback = checked := by
  simp only [Args.parseBoolArg, Args.hasArg, Args.arg, h, Option.isSome_some, Option.getD_some,
    Bool.not_true, Bool.false_eq_true, if_false]
  cases checked <;> decide +kernel

/-- A byte that is posted as a number. -/
theorem ofInt_parseIntArg {args : Args} {q : Param} {id : UInt8}
    (h : args q = some (Str.ofInt id.toNat)) (fallback : ℤ) :
    UInt8.ofInt (args.parseIntArg q fallback) = id := by
  have hlt := id.toNat_lt
  rw [parseIntArg_ofInt h (by omega) (by omega), ofInt_toNat]

/-! The enumerations are read off their numbers. -/

/-- The type of an input is read off its number. -/
theorem inputType_back (t : InputType) : (if (t.toByte.toNat : ℤ) = 1 then InputType.toggle2Pos
    else if (t.toByte.toNat : ℤ) = 2 then .toggle3Pos else .direct) = t := by
  cases t <;> rfl

/-- So is the range of a toggle, and the function of the modifier. -/
theorem toggleRange_back (m : ToggleRangeMode) :
    (if (m.toByte.toNat : ℤ) = 1 then ToggleRangeMode.bipolar else .unipolar) = m := by
  cases m <;> rfl

theorem modifierFunction_back (m : ModifierFunction) :
    (if (m.toByte.toNat : ℤ) = 1 then ModifierFunction.reverse
      else if (m.toByte.toNat : ℤ) = 2 then .center
      else if (m.toByte.toNat : ℤ) = 3 then .activate
      else if (m.toByte.toNat : ℤ) = 4 then .desactivate
      else .none) = m := by
  cases m <;> rfl

/-- **What the device reads** when the editor of a record is saved as it was
opened. All fields are posted; those that the controls cannot show come back as
what they show. -/
theorem parse_shownInput (hc : c.InRange) :
    (formArgs (shownInput br i c).payload).parseVirtualFromRequest c i =
      { c with
        primary := if c.primary.Listed then c.primary else .axisX
        secondary := if c.secondary.Listed then c.secondary else .none
        modifier := if c.modifier.Listed then c.modifier else .none
        toggleRange := if c.inputType = .direct then .bipolar else c.toggleRange
        name := (formArgs (shownInput br i c).payload).parseName "Input" i c.name } := by
  have hui : (shownInput br i c).index ≠ [] := (ofInt_spec i.val).1
  -- each parameter is read from the payload, by its own name
  have hlook : ∀ {q : Param} {t : Str}, (q.key, t) ∈ (shownInput br i c).payload →
      formArgs (shownInput br i c).payload q = some t := fun h => VirtualEditor.lookup_payload hui h
  have hrumble : formArgs (shownInput br i c).payload .rumble = some (checkbox c.rumbleEnabled) :=
    hlook (by simp [VirtualEditor.payload, Param.key, shownInput])
  have hrange : formArgs (shownInput br i c).payload .rangeMode =
      some (Str.ofInt (if c.inputType = .direct then ToggleRangeMode.bipolar
        else c.toggleRange).toByte.toNat) := by
    have hbox : ∀ (type : InputType) (range : ToggleRangeMode),
        (if decide (type ≠ .direct) && decide (range = .unipolar) then lit "0" else lit "1") =
          Str.ofInt (if type = .direct then ToggleRangeMode.bipolar else range).toByte.toNat := by
      intro type range
      cases type <;> cases range <;> decide +kernel
    have hposted : formArgs (shownInput br i c).payload .rangeMode =
        some (if (shownInput br i c).unipolar then lit "0" else lit "1") :=
      hlook (by simp [VirtualEditor.payload, Param.key])
    exact hposted.trans (congrArg some (hbox c.inputType c.toggleRange))
  have hprimary : ∀ fallback, UInt8.ofInt ((formArgs (shownInput br i c).payload).parseIntArg
      .input fallback) = if c.primary.Listed then c.primary else .axisX := fun fallback =>
    ofInt_parseIntArg (hlook (by simp [VirtualEditor.payload, Param.key, shownInput])) fallback
  have hsecondary : ∀ fallback, UInt8.ofInt ((formArgs (shownInput br i c).payload).parseIntArg
      .inputSecondary fallback) = if c.secondary.Listed then c.secondary else .none :=
    fun fallback =>
      ofInt_parseIntArg (hlook (by simp [VirtualEditor.payload, Param.key, shownInput])) fallback
  have hmodifier : ∀ fallback, UInt8.ofInt ((formArgs (shownInput br i c).payload).parseIntArg
      .inputModifier fallback) = if c.modifier.Listed then c.modifier else .none :=
    fun fallback =>
      ofInt_parseIntArg (hlook (by simp [VirtualEditor.payload, Param.key, shownInput])) fallback
  have hint : ∀ {q : Param} {n : ℤ} (fallback : ℤ), 0 ≤ n → n ≤ 255 →
      (q.key, Str.ofInt n) ∈ (shownInput br i c).payload →
        (formArgs (shownInput br i c).payload).parseIntArg q fallback = n :=
    fun fallback hlo hhi h => parseIntArg_ofInt (hlook h) (by omega) (by omega) fallback
  have hbyte : ∀ byte : UInt8, (0 : ℤ) ≤ byte.toNat ∧ (byte.toNat : ℤ) ≤ 255 := fun byte => by
    have hlt := byte.toNat_lt
    omega
  have htype : ∀ fallback, (formArgs (shownInput br i c).payload).parseIntArg .inputType fallback =
      c.inputType.toByte.toNat := fun fallback =>
    hint fallback (hbyte _).1 (hbyte _).2 (by simp [VirtualEditor.payload, Param.key, shownInput])
  have hfn : ∀ fallback, (formArgs (shownInput br i c).payload).parseIntArg .modifierFunction
      fallback = c.modifierFunction.toByte.toNat := fun fallback =>
    hint fallback (hbyte _).1 (hbyte _).2 (by simp [VirtualEditor.payload, Param.key, shownInput])
  have hdeadzone : ∀ fallback, (formArgs (shownInput br i c).payload).parseIntArg .deadzone
      fallback = c.deadzonePercent := fun fallback =>
    hint fallback hc.deadzone.1 (hc.deadzone.2.trans (by decide))
      (by simp [VirtualEditor.payload, Param.key, shownInput])
  have hexpo : ∀ fallback, (formArgs (shownInput br i c).payload).parseIntArg .expo
      fallback = c.expoPercent := fun fallback =>
    hint fallback hc.expo.1 (hc.expo.2.trans (by decide))
      (by simp [VirtualEditor.payload, Param.key, shownInput])
  have hmode : ∀ fallback, (formArgs (shownInput br i c).payload).parseIntArg .rangeMode fallback =
      (if c.inputType = .direct then ToggleRangeMode.bipolar else c.toggleRange).toByte.toNat :=
    fun fallback => parseIntArg_ofInt hrange ((hbyte _).1.trans' (by decide))
      ((hbyte _).2.trans (by decide)) fallback
  unfold Args.parseVirtualFromRequest
  simp only [hprimary, hsecondary, hmodifier, htype, hfn, hdeadzone, hexpo, hmode, inputType_back,
    toggleRange_back, modifierFunction_back, parseBoolArg_checkbox hrumble,
    constrain_eq_self hc.deadzone.1 hc.deadzone.2, constrain_eq_self hc.expo.1 hc.expo.2]

/-- **An input comes back** exactly when its editor can show it. -/
theorem parse_shownInput_eq_iff (hc : c.InRange) :
    (formArgs (shownInput br i c).payload).parseVirtualFromRequest c i = c ↔ c.Resavable br := by
  have hui : (shownInput br i c).index ≠ [] := (ofInt_spec i.val).1
  have hname : formArgs (shownInput br i c).payload .name = some (br.shown (cstr c.name)) :=
    VirtualEditor.lookup_payload hui (by simp [VirtualEditor.payload, Param.key, shownInput])
  have hnames := parseName_eq_iff br "Input" i.val
    ⟨73, (lit "Input").tail, by decide +kernel, by decide, by decide +kernel⟩ hc.name hname
  -- a menu that falls back shows something else
  have hfallback : ∀ {first id : InputId}, (if id.Listed then id else first) = id ↔
      id = first ∨ id.Listed := by
    intro first id
    by_cases h : id.Listed
    · simp [h]
    · simp [h, eq_comm]
  have haxis : InputId.axisX.Listed := by decide +kernel
  rw [parse_shownInput hc]
  constructor
  · intro heq
    refine ⟨hnames.mp (congrArg VirtualInputConfig.name heq), ?_,
      hfallback.mp (congrArg VirtualInputConfig.secondary heq),
      hfallback.mp (congrArg VirtualInputConfig.modifier heq), fun hdirect => ?_⟩
    · obtain hfirst | hlisted := hfallback.mp (congrArg VirtualInputConfig.primary heq)
      · exact hfirst ▸ haxis
      · exact hlisted
    · have hrange := congrArg VirtualInputConfig.toggleRange heq
      exact (hrange.symm.trans (if_pos hdirect))
  · intro h
    have hrange : (if c.inputType = .direct then ToggleRangeMode.bipolar else c.toggleRange)
        = c.toggleRange := by
      split
      · next hdirect => exact (h.range hdirect).symm
      · rfl
    rw [hfallback.mpr (.inr h.primary), hfallback.mpr h.secondary, hfallback.mpr h.modifier, hrange,
      hnames.mpr h.name]

end Input

/-! ### What the editor of an output posts -/

section Output

variable {F : Type} {fl : FloatOps F} {br : Browser} {p : Page} {i : OutputIdx}
  {c : OutputChannelConfig} {v : F} {failsafeActive : Bool}

/-- A field of the document of an output. -/
theorem field_outputDoc {k : Str} {d : Doc} (h : ∃ members,
    outputDoc fl i c v failsafeActive = .object members ∧ (k, d) ∈ members) :
    (outputDoc fl i c v failsafeActive).field k = some d := by
  obtain ⟨members, heq, hmem⟩ := h
  have hkeys : (members.map Prod.fst).Nodup := by
    cases heq
    simp only [List.map_cons, List.map_nil]
    decide +kernel
  rw [heq]
  exact Doc.field_of_mem hkeys hmem

/-- The controls that count when the wiring is not touched. The others are
posted as well, and the handler does not read them without `allow_rewire`. -/
structure ShowsOutput (br : Browser) (i : OutputIdx) (c : OutputChannelConfig)
    (ui : OutputEditor) : Prop where
  index : ui.index = Str.ofInt i.val
  name : ui.name = br.shown (cstr c.name)
  threshold : ui.threshold = Str.ofInt c.thresholdPercent
  pwmFailsafe : ui.pwmFailsafe = Str.ofInt c.pwmFailsafeMode.toByte.toNat
  inverted : ui.inverted = c.inverted
  allowRewire : ui.allowRewire = false

/-- The editor of an output shows these parts of the record. -/
theorem showsOutput_openOutputModal :
    ShowsOutput br i c (p.openOutputModal br (some (outputDoc fl i c v failsafeActive))) where
  index := by
    have hindex : number "index" (outputDoc fl i c v failsafeActive) = some (i.val : ℤ) :=
      number_of_field (field_outputDoc ⟨_, rfl, by simp⟩)
    simp only [openOutputModal, hindex]
    rfl
  name := by
    have hname : text "name" (outputDoc fl i c v failsafeActive) = cstr c.name :=
      text_of_field (field_outputDoc ⟨_, rfl, by simp⟩)
    exact congrArg br.shown hname
  threshold := by
    have hthreshold : number "threshold" (outputDoc fl i c v failsafeActive) =
        some c.thresholdPercent := number_of_field (field_outputDoc ⟨_, rfl, by simp⟩)
    simp only [openOutputModal, hthreshold]
    rfl
  pwmFailsafe := by
    have hmode : number "pwm_failsafe" (outputDoc fl i c v failsafeActive) =
        some (c.pwmFailsafeMode.toByte.toNat : ℤ) :=
      number_of_field (field_outputDoc ⟨_, rfl, by simp⟩)
    simp only [openOutputModal, hmode, Option.getD_some]
    exact assignSelect_eq (by cases c.pwmFailsafeMode <;> decide)
  inverted := by
    have hinverted : flag "inverted" (outputDoc fl i c v failsafeActive) = c.inverted :=
      flag_of_field (field_outputDoc ⟨_, rfl, by simp⟩)
    exact hinverted
  allowRewire := rfl

/-- A parameter that the editor of an output posts is found by its name. -/
theorem OutputEditor.lookup_payload {ui : OutputEditor} (hui : ui.index ≠ []) {k t : Str}
    (h : (k, t) ∈ ui.payload) : ui.payload.lookup k = some t := by
  refine lookup_of_mem ?_ h
  unfold OutputEditor.payload
  rw [if_neg hui]
  simp only [List.cons_append, List.nil_append, List.map_cons, List.map_nil]
  decide +kernel

/-- Among them the number of the slot. -/
theorem OutputEditor.index_payload {ui : OutputEditor} (hui : ui.index ≠ []) :
    formArgs ui.payload .index = some ui.index :=
  lookup_payload hui (by simp [payload, Param.key, hui])

/-- The failsafe mode is read off its number. -/
theorem pwmFailsafe_back (m : PwmFailsafeMode) :
    (if constrain (m.toByte.toNat : ℤ) 0 2 = 0 then PwmFailsafeMode.min
      else if constrain (m.toByte.toNat : ℤ) 0 2 = 2 then .max else .center) = m := by
  cases m <;> rfl

/-- **What the device writes** when the editor of a used output is saved as it
was opened. -/
theorem updatedOutput_shown {ui : OutputEditor} (h : ShowsOutput br i c ui) (hused : c.used = true)
    (hc : c.InRange) :
    updatedOutput (formArgs ui.payload) c i =
      { c with name := (formArgs ui.payload).parseName "Output" i c.name } := by
  have hui : ui.index ≠ [] := h.index ▸ (ofInt_spec i.val).1
  have hlook : ∀ {q : Param} {t : Str}, (q.key, t) ∈ ui.payload →
      formArgs ui.payload q = some t := fun hmem => OutputEditor.lookup_payload hui hmem
  -- the box for a new wiring is clear, so only these parts are read
  have hrewire : (formArgs ui.payload).parseBoolArg .allowRewire false = false := by
    refine parseBoolArg_checkbox (hlook ?_) false
    rw [← h.allowRewire]
    simp [OutputEditor.payload, Param.key]
  have hinverted : ∀ fallback, (formArgs ui.payload).parseBoolArg .inverted fallback =
      c.inverted := by
    refine parseBoolArg_checkbox (hlook ?_)
    rw [← h.inverted]
    simp [OutputEditor.payload, Param.key]
  have hthreshold : ∀ fallback, (formArgs ui.payload).parseIntArg .threshold fallback =
      c.thresholdPercent := by
    refine parseIntArg_ofInt (hlook ?_) (hc.threshold.1.trans' (by decide))
      (hc.threshold.2.trans (by decide))
    rw [← h.threshold]
    simp [OutputEditor.payload, Param.key]
  have hmode : ∀ fallback, (formArgs ui.payload).parseIntArg .pwmFailsafe fallback =
      c.pwmFailsafeMode.toByte.toNat := by
    have hlt := c.pwmFailsafeMode.toByte.toNat_lt
    refine parseIntArg_ofInt (hlook ?_) (by omega) (by omega)
    rw [← h.pwmFailsafe]
    simp [OutputEditor.payload, Param.key]
  unfold updatedOutput Args.parseOutputFromRequest
  simp only [hrewire, Bool.not_false, if_true, hinverted, hthreshold, hmode, pwmFailsafe_back,
    constrain_eq_self hc.threshold.1 hc.threshold.2, hused]

end Output

end RcController
