import RcController.Lib.Json
import RcController.Lib.JsonDoc
import RcController.Model.WebServer

/-!
# The editors of the page

`data/index.html` keeps what `/api/inputs` and `/api/state` answered with (`Page`) and shows
it as cards. The editor of a card puts the members of its entry into form controls
(`openVirtualModal`, `openOutputModal`); the save button posts what the controls hold, as the
parameters of a request (`VirtualEditor.save`, `OutputEditor.save`).

A control is modelled by its value, the text that is posted. A menu without an option for
the value it is to show falls back to its first one, and a text field shows a text as the
browser decodes it (`Browser`). Left out is how cards and editors look.
-/

namespace RcController

open Json

/-- What a text field shows of a text in an answer. The browser decodes the
answer as UTF-8, with a replacement for what is none, and the field drops line
breaks. -/
structure Browser where
  shown : Str → Str
  noNul : ∀ s, (∀ c ∈ s, c ≠ 0) → ∀ c ∈ shown s, c ≠ 0
  blank : ∀ s, (shown s).trim = [] → s.trim = []

/-- `INPUTS` and the tables of `state`. -/
structure Page where
  inputs : List Doc := []
  virtualInputs : List Doc := []
  outputs : List Doc := []
  pwmPins : List ℤ := []

namespace Page

/-! ### Values of an answer -/

/-- A whole number. -/
def whole (d : Doc) : Option ℤ :=
  match d with
  | .word t =>
    match readInt t.text with
    | some (n, []) => some n
    | _ => none
  | _ => none

/-- `Number(v.k)` for a member that is a whole number. -/
def number (k : String) (v : Doc) : Option ℤ := (v.field (lit k)).bind whole

/-- `v.k` for a member that is a text. -/
def text (k : String) (v : Doc) : Str :=
  match v.field (lit k) with
  | some (.string s) => s
  | _ => []

/-- `!!v.k` for a member that is `true` or `false`. -/
def flag (k : String) (v : Doc) : Bool :=
  match v.field (lit k) with
  | some (.word t) => t.text = lit "true"
  | _ => false

/-- `v.k || []`. -/
def entries (k : String) (v : Doc) : List Doc :=
  match v.field (lit k) with
  | some (.array items) => items
  | _ => []

/-- `loadInputs` on the answer of `/api/inputs`. -/
def loadInputs (answer : Str) (p : Page) : Page :=
  match Doc.parse answer with
  | some (.array items) => { p with inputs := items }
  | _ => { p with inputs := [] }

/-- `refreshStatic` on the answer of `/api/state`. An answer that is no document
is dropped. -/
def refreshStatic (answer : Str) (p : Page) : Page :=
  match Doc.parse answer with
  | some data =>
    { p with
      virtualInputs := entries "virtual_inputs" data
      outputs := entries "outputs" data
      pwmPins := (entries "pwm_pins" data).filterMap whole }
  | none => p

/-- The entry with the given index, which a card stands for. -/
def findIndex (idx : ℤ) (entries : List Doc) : Option Doc :=
  entries.find? fun v => number "index" v = some idx

/-! ### Controls -/

/-- A field of type `number` that is given a number. -/
def numberField (n : Option ℤ) : Str := (n.map Str.ofInt).getD []

/-- A `<select>` that is filled with options, where the one with the given value
is selected. -/
def fillSelect (options : List ℤ) (selected : Option ℤ) : Str :=
  match options.find? fun id => some id = selected with
  | some id => Str.ofInt id
  | none => numberField options.head?

/-- A `<select>` of the markup that is given a value. -/
def assignSelect (options : List ℤ) (value : ℤ) : Str :=
  if value ∈ options then Str.ofInt value else []

/-- What a checkbox is posted as. -/
def checkbox (checked : Bool) : Str := if checked then lit "1" else lit "0"

def fillInputSelect (selected : Option ℤ) (withNone : Bool) (p : Page) : Str :=
  let opts := if withNone then [0] else []
  fillSelect (opts ++ p.inputs.filterMap (number "id")) selected

def fillVirtualSourceSelect (selected : Option ℤ) (p : Page) : Str :=
  fillSelect (-1 :: p.virtualInputs.filterMap (number "index")) selected

/-- The pins that other outputs use cannot be chosen, but the pin of the output
itself is shown in any case. -/
def fillPinOptions (selectedPin : Option ℤ) (editingIndex : Option ℤ) (p : Page) : Str :=
  let usedByOthers := (p.outputs.filter fun o => number "index" o ≠ editingIndex).filterMap
    (number "pin")
  let pins := p.pwmPins.mergeSort (· ≤ ·)
  match pins.find? fun pin => some pin = selectedPin with
  | some pin => Str.ofInt pin
  | none =>
    match pins.find? fun pin => pin ∉ usedByOthers with
    | some free => Str.ofInt free
    | none => numberField pins.head?

end Page

/-! ### The editor of an input -/

/-- The controls of `virtualModal`. -/
structure VirtualEditor where
  index : Str
  name : Str
  input : Str
  inputType : Str
  unipolar : Bool
  rumble : Bool
  secondary : Str
  modifier : Str
  modifierFn : Str
  deadzone : Str
  expo : Str

namespace Page

/-- `openVirtualModal`, for a new input or for the entry of a card. -/
def openVirtualModal (br : Browser) (p : Page) (entry : Option Doc) : VirtualEditor :=
  match entry with
  | none =>
    { index := []
      name := lit "Input"
      input := p.fillInputSelect (some 1) false
      inputType := assignSelect [0, 1, 2] 0
      -- a direct input is not unipolar
      unipolar := false
      rumble := false
      secondary := p.fillInputSelect (some 0) true
      modifier := p.fillInputSelect (some 0) true
      modifierFn := assignSelect [0, 1, 2, 3, 4] 0
      deadzone := numberField (some 10)
      expo := numberField (some 0) }
  | some v =>
    let inputType := assignSelect [0, 1, 2] ((number "input_type" v).getD 0)
    let rangeMode := (number "range_mode" v).getD 1
    -- `updateVirtualRangeUi`: the box is for toggles only
    let isToggle : Bool := inputType = Str.ofInt 1 ∨ inputType = Str.ofInt 2
    { index := numberField (number "index" v)
      name := br.shown (text "name" v)
      input := p.fillInputSelect (number "input" v) false
      inputType := inputType
      unipolar := isToggle && rangeMode = 0
      rumble := flag "rumble" v
      secondary := p.fillInputSelect (number "input_secondary" v) true
      modifier := p.fillInputSelect (number "input_modifier" v) true
      modifierFn := assignSelect [0, 1, 2, 3, 4] ((number "modifier_function" v).getD 0)
      deadzone := numberField (number "deadzone" v)
      expo := numberField (number "expo" v) }

/-- The button `Edit` of the card of an input. -/
def editInput (br : Browser) (idx : ℤ) (p : Page) : Option VirtualEditor :=
  (findIndex idx p.virtualInputs).map fun v => p.openVirtualModal br (some v)

end Page

/-- The parameters that the save button of `virtualModal` posts. -/
def VirtualEditor.payload (ui : VirtualEditor) : List RequestArgument :=
  [(lit "name", ui.name), (lit "input", ui.input), (lit "input_type", ui.inputType),
   (lit "range_mode", if ui.unipolar then lit "0" else lit "1"),
   (lit "rumble", Page.checkbox ui.rumble), (lit "input_secondary", ui.secondary),
   (lit "input_modifier", ui.modifier), (lit "modifier_function", ui.modifierFn),
   (lit "deadzone", ui.deadzone), (lit "expo", ui.expo)] ++
    if ui.index = [] then [] else [(lit "index", ui.index)]

/-- Where they are posted to. -/
def VirtualEditor.url (ui : VirtualEditor) : String :=
  if ui.index = [] then "/api/virtual_add" else "/api/virtual_update"

/-! ### The editor of an output -/

/-- The controls of `outputModal`, with `outputEditState.allowRewire`: whether
one of the controls for the wiring was touched. -/
structure OutputEditor where
  index : Str
  name : Str
  pin : Str
  type : Str
  sourceA : Str
  sourceB : Str
  sourceC : Str
  mixMode : Str
  weightA : Str
  weightB : Str
  weightC : Str
  offsetA : Str
  offsetB : Str
  offsetC : Str
  threshold : Str
  pwmFailsafe : Str
  inverted : Bool
  allowRewire : Bool := false

namespace Page

/-- `openOutputModal`, for a new output or for the entry of a card. -/
def openOutputModal (br : Browser) (p : Page) (entry : Option Doc) : OutputEditor :=
  match entry with
  | none =>
    { index := []
      name := lit "Output"
      pin := p.fillPinOptions (some 13) (some (-1))
      type := assignSelect [0, 1] 0
      sourceA := p.fillVirtualSourceSelect (some (-1))
      sourceB := p.fillVirtualSourceSelect (some (-1))
      sourceC := p.fillVirtualSourceSelect (some (-1))
      mixMode := assignSelect [0, 1] 1
      weightA := numberField (some 100)
      weightB := numberField (some 0)
      weightC := numberField (some 0)
      offsetA := numberField (some 0)
      offsetB := numberField (some 0)
      offsetC := numberField (some 0)
      threshold := numberField (some 50)
      pwmFailsafe := assignSelect [0, 1, 2] 1
      inverted := false }
  | some o =>
    { index := numberField (number "index" o)
      name := br.shown (text "name" o)
      pin := p.fillPinOptions (number "pin" o) (number "index" o)
      type := assignSelect [0, 1] ((number "type" o).getD 0)
      sourceA := p.fillVirtualSourceSelect (number "source_a" o)
      sourceB := p.fillVirtualSourceSelect (number "source_b" o)
      sourceC := p.fillVirtualSourceSelect (number "source_c" o)
      mixMode := assignSelect [0, 1] ((number "mix_mode" o).getD 1)
      weightA := numberField (number "weight_a" o)
      weightB := numberField (number "weight_b" o)
      weightC := numberField (number "weight_c" o)
      offsetA := numberField (some ((number "offset_a" o).getD 0))
      offsetB := numberField (some ((number "offset_b" o).getD 0))
      offsetC := numberField (some ((number "offset_c" o).getD 0))
      threshold := numberField (number "threshold" o)
      pwmFailsafe := assignSelect [0, 1, 2] ((number "pwm_failsafe" o).getD 1)
      inverted := flag "inverted" o }

/-- The button `Edit` of the card of an output. -/
def editOutput (br : Browser) (idx : ℤ) (p : Page) : Option OutputEditor :=
  (findIndex idx p.outputs).map fun o => p.openOutputModal br (some o)

end Page

/-- The parameters that the save button of `outputModal` posts. -/
def OutputEditor.payload (ui : OutputEditor) : List RequestArgument :=
  [(lit "name", ui.name), (lit "pin", ui.pin), (lit "type", ui.type),
   (lit "pwm_failsafe", ui.pwmFailsafe), (lit "source_a", ui.sourceA),
   (lit "source_b", ui.sourceB), (lit "source_c", ui.sourceC), (lit "mix_mode", ui.mixMode),
   (lit "weight_a", ui.weightA), (lit "weight_b", ui.weightB), (lit "weight_c", ui.weightC),
   (lit "offset_a", ui.offsetA), (lit "offset_b", ui.offsetB), (lit "offset_c", ui.offsetC),
   (lit "threshold", ui.threshold), (lit "inverted", Page.checkbox ui.inverted),
   (lit "allow_rewire", Page.checkbox ui.allowRewire)] ++
    if ui.index = [] then [] else [(lit "index", ui.index)]

/-- Where they are posted to. -/
def OutputEditor.url (ui : OutputEditor) : String :=
  if ui.index = [] then "/api/output_add" else "/api/output_update"

end RcController
