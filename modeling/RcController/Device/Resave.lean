import RcController.Device.Editor
import RcController.Device.Servos
import RcController.Wiring.Tweak

/-!
# Saving what was not changed

The page shows the tables of the device in editors and posts what their controls hold. Whoever
opens an editor and saves it without a change expects that nothing changes. The whole way is
followed here: the answers that the page has read, the editor it opens, the bytes it posts, and
the handler they come to.

For an input nothing changes exactly when the editor can show its record
(`resave_input_iff`): the menus have neither the buttons `L2` and `R2` nor an id that is none,
the box for the range is for toggles only, and a name is trimmed. Whatever an editor cannot
show is replaced by what it shows. For an output the name alone counts
(`resave_output_iff`), as the wiring is left alone until one of its controls is touched.
-/

namespace RcController

open Json DeviceProg Runs UrlForm Page WebServer OutputBank

namespace Runtime

variable {b : Board} {w : WebEnv} {s : Runtime}

/-! ### What the page has read -/

/-- The body of the answer to a GET request of the page, as text; empty when
there is no answer. -/
def answer (b : Board) (w : WebEnv) (plan : Prog.Plan nvsInterface) (uri : String) (s : Runtime) :
    Str :=
  ((s.respond b w {} ⟨.get, lit uri, []⟩ plan).map Response.body).getD []

/-- The page once it has read the list of inputs and the state of the device. -/
def showPage (b : Board) (w : WebEnv) (plan : Prog.Plan nvsInterface) (s : Runtime) : Page :=
  refreshStatic (s.answer b w plan "/api/state") (loadInputs (s.answer b w plan "/api/inputs") {})

/-- The menu of inputs is the list of the device: the writer and the strict
reader are inverse to each other. -/
theorem inputs_showPage (plan : Prog.Plan nvsInterface) :
    (s.showPage b w plan).inputs = listedInputs.map inputDoc := by
  obtain ⟨menu, hmenu, hparse⟩ := buildInputsJson_spec
  have hanswer : s.answer b w plan "/api/inputs" = menu := by
    have hroute := (route_found ("/api/inputs", .get, .apiInputs) (by decide)).2
    have hhandler : (⟨.get, lit "/api/inputs", []⟩ : HttpRequest).currentHandler =
        some .apiInputs :=
      congrArg (Option.map fun route : String × HTTPMethod × RouteHandler => route.2.2) hroute
    simp only [answer, respond, hhandler, hmenu, Option.map_some, Response.json, Option.getD_some]
  have hload : loadInputs menu {} = { inputs := listedInputs.map inputDoc } := by
    simp only [loadInputs, hparse]
  rw [showPage, hanswer, hload]
  unfold refreshStatic
  split <;> rfl

/-- The snapshot the state answer is written from. -/
def shownState (w : WebEnv) (plan : Prog.Plan nvsInterface) (s : Runtime) : StateSnapshot ℚ :=
  { s.system.stateSnapshot w.firmware w.apIp with presetDir := some (loadDirectory plan s.nvs) }

/-- So what the page parses is the document of this snapshot. -/
theorem parse_state (plan : Prog.Plan nvsInterface) :
    Doc.parse (s.answer b w plan "/api/state") =
      some (stateDoc b ratFloat (s.shownState w plan)) := by
  obtain ⟨body, hbody, hparse⟩ :=
    str_of_writesDoc (writes_stateDoc b ratFloat (s.shownState w plan)) (by decide)
  have hanswer : s.answer b w plan "/api/state" = body := by
    have hroute := (route_found ("/api/state", .get, .apiState) (by decide)).2
    have hhandler : (⟨.get, lit "/api/state", []⟩ : HttpRequest).currentHandler = some .apiState :=
      congrArg (Option.map fun route : String × HTTPMethod × RouteHandler => route.2.2) hroute
    have hbuilt : buildStateJson b ratFloat (s.shownState w plan) = some body := hbody
    unfold shownState at hbuilt
    simp only [answer, respond, hhandler, hbuilt, Option.map_some, Response.json, Option.getD_some]
  rw [hanswer]
  exact Doc.parse_of_scan hparse (strict_stateDoc finite_ratFloat _)

/-- The page finds the arrays of the document by their names. -/
theorem entries_stateDoc {F : Type} {fl : FloatOps F} {t : StateSnapshot F} {k : String}
    {items : List Doc}
    (h : ∃ members, stateDoc b fl t = .object members ∧ (lit k, .array items) ∈ members) :
    entries k (stateDoc b fl t) = items := by
  obtain ⟨members, heq, hmem⟩ := h
  have hkeys : (members.map Prod.fst).Nodup := by
    cases heq
    simp only [List.map_cons, List.map_nil]
    decide +kernel
  rw [heq, entries, Doc.field_of_mem hkeys hmem]

/-- The page shows the inputs in use, in the order of their slots. -/
theorem virtualInputs_showPage (plan : Prog.Plan nvsInterface) :
    (s.showPage b w plan).virtualInputs =
      (s.shownState w plan).inputEntries fun i => virtualInputDoc ratFloat i
        (s.sketch.rc.virtualInputs i) (s.sketch.rc.memory i).runtime := by
  have hentries : entries "virtual_inputs" (stateDoc b ratFloat (s.shownState w plan)) =
      (s.shownState w plan).inputEntries fun i => virtualInputDoc ratFloat i
        ((s.shownState w plan).virtualInputs i) ((s.shownState w plan).virtualRuntime i) :=
    entries_stateDoc ⟨_, rfl, by simp⟩
  simp only [showPage, refreshStatic, parse_state]
  exact hentries

/-- The page shows the outputs in use, in the order of their slots. -/
theorem outputs_showPage (plan : Prog.Plan nvsInterface) :
    (s.showPage b w plan).outputs =
      (s.shownState w plan).outputEntries fun i => outputDoc ratFloat i
        (s.sketch.rc.bank.outputs i) (s.sketch.rc.bank.outputRuntime i)
        s.system.failsafeActive := by
  have hentries : entries "outputs" (stateDoc b ratFloat (s.shownState w plan)) =
      (s.shownState w plan).outputEntries fun i => outputDoc ratFloat i
        ((s.shownState w plan).outputs i) ((s.shownState w plan).outputRuntime i)
        (s.shownState w plan).failsafeActive :=
    entries_stateDoc ⟨_, rfl, by simp⟩
  simp only [showPage, refreshStatic, parse_state]
  exact hentries

/-- **The editor of an input in use** shows its record. The page looks the entry
up by its index, which no other entry has, and fills the controls from it. -/
theorem editInput_eq (br : Browser) (plan : Prog.Plan nvsInterface) {i : InputIdx}
    (hused : (s.sketch.rc.virtualInputs i).used = true) :
    (s.showPage b w plan).editInput br i.val =
      some (shownInput br i (s.sketch.rc.virtualInputs i)) := by
  have hfind : findIndex i.val (s.showPage b w plan).virtualInputs =
      some (virtualInputDoc ratFloat i (s.sketch.rc.virtualInputs i)
        (s.sketch.rc.memory i).runtime) := by
    rw [virtualInputs_showPage]
    exact findIndex_entries (fun i => (s.sketch.rc.virtualInputs i).used)
      (fun j => number_virtualInputDoc ⟨_, rfl, by simp⟩) hused
  rw [editInput, hfind, Option.map_some, openVirtualModal_eq (inputs_showPage plan)]

/-- The editor of an output in use shows what does not belong to the wiring. -/
theorem editOutput_shows (br : Browser) (plan : Prog.Plan nvsInterface) {i : OutputIdx}
    (hused : (s.sketch.rc.bank.outputs i).used = true) :
    ∃ ui, (s.showPage b w plan).editOutput br i.val = some ui ∧
      ShowsOutput br i (s.sketch.rc.bank.outputs i) ui := by
  have hfind : findIndex i.val (s.showPage b w plan).outputs =
      some (outputDoc ratFloat i (s.sketch.rc.bank.outputs i)
        (s.sketch.rc.bank.outputRuntime i) s.system.failsafeActive) := by
    rw [outputs_showPage]
    exact findIndex_entries (fun i => (s.sketch.rc.bank.outputs i).used)
      (fun j => number_of_field (field_outputDoc ⟨_, rfl, by simp⟩)) hused
  exact ⟨_, by rw [Page.editOutput, hfind]; rfl, showsOutput_openOutputModal⟩

/-! ### Runs -/

/-- However the two cores interleave, the tables stay within their ranges. An
event of the runtime is one of the sketch or leaves its tables alone. -/
theorem tablesOk_run (b : Board) (nvs : NvsStore) (plan : Prog.Plan nvsInterface)
    (millis : UInt32) (es : List RuntimeEvent) :
    TablesOk (run (step b) (boot b nvs plan millis) es).sketch.rc := by
  have hrefines := run_refines system (system_step b) (boot b nvs plan millis) es
  have hsystem : TablesOk (run (System.step b) (System.boot b nvs plan millis)
      (trace (step b) systemEvents (boot b nvs plan millis) es)).sketch.rc :=
    run_invariant_of_step (I := fun s : System => TablesOk s.sketch.rc)
      (fun _ e h => tablesOk_event h e) (tablesOk_boot b nvs plan millis) _
  exact congrArg (fun t : System => t.sketch.rc) hrefines ▸ hsystem

/-! ### Inputs -/

/-- The index that the page has from the device is read back by the handler. -/
theorem parseIndex_ofInt {args : Args} {n : ℕ} {i : Fin n} (hn : n ≤ 2147483647)
    (h : args .index = some (Str.ofInt i.val)) : parseIndex args n = some i := by
  have hlt := i.isLt
  have hindex : args.parseIntArg .index (-1) = i.val := parseIntArg_ofInt h (by omega) (by omega) _
  simp only [parseIndex, hindex]
  rw [dif_pos ⟨by omega, by omega⟩]
  rfl

/-- The handler that a saved input comes to. It writes nothing to the
storage. -/
theorem handleClient_resaveInput {i : InputIdx}
    (hused : (s.sketch.rc.virtualInputs i).used = true) {ui : VirtualEditor}
    (hui : ui.index = Str.ofInt i.val) {hs : List RequestArgument} (hok : ∀ f ∈ hs, HeaderOk f)
    (hform : AnnouncesForm hs (formText ui.payload).length)
    (plan restartPlan : Prog.Plan nvsInterface) {server : WebServer}
    (hserver : server.postArgs = []) :
    ∃ done, s.handleClient b w (postText (lit ui.url) hs ui.payload) plan restartPlan server
        = some done ∧ done.runtime.nvs = s.nvs ∧
      done.runtime.sketch =
        { s.sketch.setInputs (Function.update s.sketch.rc.virtualInputs i
            { (formArgs ui.payload).parseVirtualFromRequest (s.sketch.rc.virtualInputs i) i with
              used := true }) with modelDirty := true } := by
  have hne : ui.index ≠ [] := hui ▸ (ofInt_spec i.val).1
  have hurl : ui.url = "/api/virtual_update" := if_neg hne
  have hindex : parseIndex (formArgs ui.payload) kMaxVirtualInputs = some i :=
    parseIndex_ofInt (by decide) (hui ▸ VirtualEditor.index_payload hne)
  have hroute : ("/api/virtual_update", .post, .api .virtualUpdate) ∈ webRoutes := by decide
  have hreboot : ¬ (Endpoint.virtualUpdate = .apConfigApplyReboot ∧
      ((handleRequest b s.millis ⟨.virtualUpdate, formArgs ui.payload⟩ s.sketch).run nvsDevice plan
        s.nvs).1.2.ok = true) := fun h => by cases h.1
  -- the index names an input in use, so the handler parses its arguments into the record
  have hhandler : (handleApiVirtualUpdate (formArgs ui.payload) s.sketch).1 =
      { s.sketch.setInputs (Function.update s.sketch.rc.virtualInputs i
          { (formArgs ui.payload).parseVirtualFromRequest (s.sketch.rc.virtualInputs i) i with
            used := true }) with modelDirty := true } := by
    simp only [handleApiVirtualUpdate, hindex, hused, Bool.not_true, Bool.false_eq_true, if_false]
  refine ⟨_, hurl ▸ handleClient_postText hroute hok hform plan restartPlan server s, ?_, ?_⟩
  · -- nothing is written to the storage, and then the sketch is what the handler makes of
    -- it
    dsimp only [incoming]
    rw [serveRequest]
    dsimp only
    rw [argsOf_of_postArgs hserver, if_neg hreboot]
    rfl
  · dsimp only [incoming]
    rw [serveRequest]
    dsimp only
    rw [argsOf_of_postArgs hserver, if_neg hreboot]
    exact hhandler

/-- **Inputs.** However the two cores interleave: the page opens the editor of
an input in use, and saves it as it is at any time at which the record is still
the same, while the server keeps no arguments of a multipart form that was given
up. The storage stays, and nothing but the mark of a modified model changes if
and only if the editor can show the record. -/
theorem resave_input_iff (b : Board) (w : WebEnv) (br : Browser) (nvs : NvsStore)
    (bootPlan plan savePlan restartPlan : Prog.Plan nvsInterface) (millis : UInt32)
    (es : List RuntimeEvent) {i : InputIdx} {s t : Runtime} {server : WebServer}
    (hs : s = run (step b) (boot b nvs bootPlan millis) es)
    (hused : (s.sketch.rc.virtualInputs i).used = true)
    (hsame : t.sketch.rc.virtualInputs i = s.sketch.rc.virtualInputs i)
    (hserver : server.postArgs = []) :
    ∃ ui, (s.showPage b w plan).editInput br i.val = some ui ∧
      ∀ header, (∀ f ∈ header, HeaderOk f) →
        AnnouncesForm header (formText ui.payload).length →
          ∃ done, t.handleClient b w (postText (lit ui.url) header ui.payload) savePlan
              restartPlan server = some done ∧ done.runtime.nvs = t.nvs ∧
            (done.runtime.sketch = { t.sketch with modelDirty := true } ↔
              (s.sketch.rc.virtualInputs i).Resavable br) := by
  have htables : TablesOk s.sketch.rc := hs ▸ tablesOk_run b nvs bootPlan millis es
  have hcomes : (formArgs (shownInput br i (s.sketch.rc.virtualInputs i)).payload
      ).parseVirtualFromRequest (s.sketch.rc.virtualInputs i) i = s.sketch.rc.virtualInputs i ↔
        (s.sketch.rc.virtualInputs i).Resavable br :=
    parse_shownInput_eq_iff (htables.inputs.inRange i hused)
  refine ⟨_, editInput_eq br plan hused, fun header hok hform => ?_⟩
  obtain ⟨done, hdone, hstored, hsketch⟩ := handleClient_resaveInput (s := t) (hsame ▸ hused) rfl
    hok hform savePlan restartPlan hserver
  refine ⟨done, hdone, hstored, ?_⟩
  rw [hsketch, hsame, ← hcomes]
  generalize formArgs (shownInput br i (s.sketch.rc.virtualInputs i)).payload = args
  -- the parser leaves the mark of use alone
  have hstays : (args.parseVirtualFromRequest (s.sketch.rc.virtualInputs i) i).used = true := hused
  have hrecord : { args.parseVirtualFromRequest (s.sketch.rc.virtualInputs i) i with used := true }
      = args.parseVirtualFromRequest (s.sketch.rc.virtualInputs i) i := by
    rw [← hstays]
  rw [hrecord]
  constructor
  · intro heq
    have htable := congrArg (fun sk : Sketch => sk.rc.virtualInputs i) heq
    simpa [Sketch.setInputs, hsame] using htable
  · intro heq
    rw [heq, ← hsame, Function.update_eq_self]
    rfl

/-! ### Outputs -/

/-- The handler that a saved output comes to. It writes nothing to the
storage. -/
theorem handleClient_resaveOutput {i : OutputIdx}
    (hused : (s.sketch.rc.bank.outputs i).used = true)
    {ui : OutputEditor} (hui : ui.index = Str.ofInt i.val) {hs : List RequestArgument}
    (hok : ∀ f ∈ hs, HeaderOk f) (hform : AnnouncesForm hs (formText ui.payload).length)
    (plan restartPlan : Prog.Plan nvsInterface) {server : WebServer}
    (hserver : server.postArgs = []) :
    ∃ done, s.handleClient b w (postText (lit ui.url) hs ui.payload) plan restartPlan server
        = some done ∧ done.runtime.nvs = s.nvs ∧
      done.runtime.sketch =
        (RcController.editOutput b i
          (updatedOutput (formArgs ui.payload) (s.sketch.rc.bank.outputs i) i) "Output updated"
          s.sketch).1 := by
  have hne : ui.index ≠ [] := hui ▸ (ofInt_spec i.val).1
  have hurl : ui.url = "/api/output_update" := if_neg hne
  have hindex : parseIndex (formArgs ui.payload) kMaxOutputChannels = some i :=
    parseIndex_ofInt (by decide) (hui ▸ OutputEditor.index_payload hne)
  have hroute : ("/api/output_update", .post, .api .outputUpdate) ∈ webRoutes := by decide
  have hreboot : ¬ (Endpoint.outputUpdate = .apConfigApplyReboot ∧
      ((handleRequest b s.millis ⟨.outputUpdate, formArgs ui.payload⟩ s.sketch).run nvsDevice plan
        s.nvs).1.2.ok = true) := fun h => by cases h.1
  -- the index names an output in use, so the handler edits it
  have hhandler : handleApiOutputUpdate b (formArgs ui.payload) s.sketch =
      RcController.editOutput b i
        (updatedOutput (formArgs ui.payload) (s.sketch.rc.bank.outputs i) i) "Output updated"
        s.sketch := by
    simp only [handleApiOutputUpdate, hindex, hused, Bool.not_true, Bool.false_eq_true, if_false]
  refine ⟨_, hurl ▸ handleClient_postText hroute hok hform plan restartPlan server s, ?_, ?_⟩
  · dsimp only [incoming]
    rw [serveRequest]
    dsimp only
    rw [argsOf_of_postArgs hserver, if_neg hreboot]
    rfl
  · dsimp only [incoming]
    rw [serveRequest]
    dsimp only
    rw [argsOf_of_postArgs hserver, if_neg hreboot]
    exact congrArg Prod.fst hhandler

/-- An edit of what is not wiring takes place, and leaves every servo on its
pin. -/
theorem editOutput_tweaked {sk : Sketch} {i : OutputIdx} {record : OutputChannelConfig}
    (hb : b.Reliable) (hwired : WiringOk b sk.rc.bank.outputs)
    (ht : Tweaked (sk.rc.bank.outputs i) record) (message : String) :
    (RcController.editOutput b i record message sk).1.rc.bank.outputs =
        Function.update sk.rc.bank.outputs i record ∧
      ServosAttached (RcController.editOutput b i record message sk).1.rc.bank := by
  obtain ⟨hok, hsame⟩ := rebuild_in_place (wiringOk_tweak hwired ht)
    (ownPinsAttach_tweak (ownPinsAttach_of_reliable hb hwired) ht)
  obtain ⟨-, -, hrc⟩ | ⟨msg, herr, -⟩ := editOutput_cases b i record message sk
  · rw [hrc]
    exact ⟨hsame, servosAttached_rebuild hok⟩
  -- the way back is not taken
  · rw [hok] at herr
    cases herr

/-- **Outputs.** However the two cores interleave: the page opens the editor of
an output in use, and saves it as it is at any time at which the record is still
the same and the table is wired, while the server keeps no arguments of a
multipart form that was given up. The storage and the other records stay and
every servo is attached to its pin; the record stays if and only if its name
comes back from the text field. -/
theorem resave_output_iff {b : Board} (hb : b.Reliable) (w : WebEnv) (br : Browser)
    (nvs : NvsStore) (bootPlan plan savePlan restartPlan : Prog.Plan nvsInterface) (millis : UInt32)
    (es : List RuntimeEvent) {i : OutputIdx} {s t : Runtime} {server : WebServer}
    (hs : s = run (step b) (boot b nvs bootPlan millis) es)
    (hused : (s.sketch.rc.bank.outputs i).used = true)
    (hsame : t.sketch.rc.bank.outputs i = s.sketch.rc.bank.outputs i)
    (hwired : WiringOk b t.sketch.rc.bank.outputs) (hserver : server.postArgs = []) :
    ∃ ui, (s.showPage b w plan).editOutput br i.val = some ui ∧
      ∀ header, (∀ f ∈ header, HeaderOk f) →
        AnnouncesForm header (formText ui.payload).length →
          ∃ done, t.handleClient b w (postText (lit ui.url) header ui.payload) savePlan
              restartPlan server = some done ∧ done.runtime.nvs = t.nvs ∧
            ServosAttached done.runtime.sketch.rc.bank ∧
            (∀ j, j ≠ i → done.runtime.sketch.rc.bank.outputs j = t.sketch.rc.bank.outputs j) ∧
            (done.runtime.sketch.rc.bank.outputs i = t.sketch.rc.bank.outputs i ↔
              cstr (s.sketch.rc.bank.outputs i).name ≠ [] ∧
                (br.shown (cstr (s.sketch.rc.bank.outputs i).name)).trim.take 23 =
                  cstr (s.sketch.rc.bank.outputs i).name) := by
  have htables : TablesOk s.sketch.rc := hs ▸ tablesOk_run b nvs bootPlan millis es
  have hrange := (outputsOk_iff.mp htables.outputs i).1 hused
  obtain ⟨ui, hopen, hui⟩ := editOutput_shows (b := b) (w := w) br plan hused
  refine ⟨ui, hopen, fun header hok hform => ?_⟩
  have hne : ui.index ≠ [] := hui.index ▸ (ofInt_spec i.val).1
  -- the one control whose value the handler does not simply take over is the name
  have hname : formArgs ui.payload .name =
      some (br.shown (cstr (s.sketch.rc.bank.outputs i).name)) :=
    hui.name ▸ OutputEditor.lookup_payload hne (by simp [OutputEditor.payload, Param.key])
  have hnames := parseName_eq_iff br "Output" i.val
    ⟨79, (lit "Output").tail, by decide +kernel, by decide, by decide +kernel⟩ hrange.name hname
  have hrecord := updatedOutput_shown hui hused hrange
  obtain ⟨done, hdone, hstored, hsketch⟩ := handleClient_resaveOutput (s := t) (hsame ▸ hused)
    hui.index hok hform savePlan restartPlan hserver
  refine ⟨done, hdone, hstored, ?_⟩
  rw [hsketch, hsame, hrecord]
  generalize (formArgs ui.payload).parseName "Output" i (s.sketch.rc.bank.outputs i).name = name
    at hnames
  -- without `allow_rewire` the record that is written is tweaked in its name
  have ht : Tweaked (t.sketch.rc.bank.outputs i)
      { s.sketch.rc.bank.outputs i with name := name } := by rw [hsame]; rfl
  obtain ⟨houtputs, hservos⟩ := editOutput_tweaked hb hwired ht "Output updated"
  refine ⟨hservos, fun j hj => ?_, ?_⟩
  · exact (congrFun houtputs j).trans (Function.update_of_ne hj _ _)
  · rw [← hnames, houtputs, Function.update_self]
    refine ⟨congrArg OutputChannelConfig.name, fun heq => ?_⟩
    rw [heq]

/-! ### The car -/

/-- A text is trimmed to nothing when all of it is white space. -/
theorem trim_eq_nil_iff {text : Str} : text.trim = [] ↔ ∀ c ∈ text, isspace c = true := by
  constructor
  · intro h
    have hall := List.rdropWhile_eq_nil_iff.mp h
    intro c hc
    -- a byte that is no blank is the first one kept by the left trim
    by_contra hspace
    have hne : text.dropWhile isspace ≠ [] := fun hnil =>
      hspace (List.dropWhile_eq_nil_iff.mp hnil c hc)
    have hhead := List.head_dropWhile_not isspace hne
    rw [hall _ (List.head_mem hne)] at hhead
    cases hhead
  · intro h
    rw [Str.trim, List.dropWhile_eq_nil_iff.mpr h]
    rfl

/-- A browser whose text fields drop line breaks and keep the rest. Its lists
show the label of the option. -/
def plainBrowser : Browser where
  shown text := text.filter fun c => c ≠ 10 && c ≠ 13
  noNul text h c hc := h c (List.mem_of_mem_filter hc)
  blank text h := by
    rw [trim_eq_nil_iff] at h ⊢
    intro c hc
    by_cases hbreak : c = 10 ∨ c = 13
    · obtain rfl | rfl := hbreak <;> rfl
    · refine h c (List.mem_filter.mpr ⟨hc, ?_⟩)
      simpa [not_or] using hbreak

/-- A reliable board boots with a wired table. -/
theorem wiringOk_boot (hb : b.Reliable) (nvs : NvsStore) (plan : Prog.Plan nvsInterface)
    (millis : UInt32) : WiringOk b (boot b nvs plan millis).sketch.rc.bank.outputs :=
  (managed_boot hb nvs plan millis).wiring

/-- The car after boot: its first input is opened and saved. -/
theorem resave_input_iff_car :
    ∃ ui, (carDevice.showPage smallBoard bareEnv fun _ _ => false).editInput plainBrowser
        (0 : InputIdx).val = some ui ∧
      ∀ header, (∀ f ∈ header, HeaderOk f) →
        AnnouncesForm header (formText ui.payload).length →
          ∃ done, carDevice.handleClient smallBoard bareEnv
              (postText (lit ui.url) header ui.payload) (fun _ _ => false) (fun _ _ => false) {} =
                some done ∧ done.runtime.nvs = carDevice.nvs ∧
            (done.runtime.sketch = { carDevice.sketch with modelDirty := true } ↔
              (carDevice.sketch.rc.virtualInputs 0).Resavable plainBrowser) :=
  resave_input_iff smallBoard bareEnv plainBrowser {} (fun _ _ => false) (fun _ _ => false)
    (fun _ _ => false) (fun _ _ => false) 0 [] rfl (by decide +kernel) rfl rfl

/-- And its first output, which is the servo on pin 4. -/
theorem resave_output_iff_car :
    ∃ ui, (carDevice.showPage smallBoard bareEnv fun _ _ => false).editOutput plainBrowser
        (0 : OutputIdx).val = some ui ∧
      ∀ header, (∀ f ∈ header, HeaderOk f) →
        AnnouncesForm header (formText ui.payload).length →
          ∃ done, carDevice.handleClient smallBoard bareEnv
              (postText (lit ui.url) header ui.payload) (fun _ _ => false) (fun _ _ => false) {} =
                some done ∧ done.runtime.nvs = carDevice.nvs ∧
            ServosAttached done.runtime.sketch.rc.bank ∧
            (∀ j, j ≠ 0 → done.runtime.sketch.rc.bank.outputs j =
              carDevice.sketch.rc.bank.outputs j) ∧
            (done.runtime.sketch.rc.bank.outputs 0 = carDevice.sketch.rc.bank.outputs 0 ↔
              cstr (carDevice.sketch.rc.bank.outputs 0).name ≠ [] ∧
                (plainBrowser.shown (cstr (carDevice.sketch.rc.bank.outputs 0).name)).trim.take 23 =
                  cstr (carDevice.sketch.rc.bank.outputs 0).name) :=
  have hwired : WiringOk smallBoard carDevice.sketch.rc.bank.outputs := by
    unfold carDevice
    exact wiringOk_boot smallBoard_reliable {} (fun _ _ => false) 0
  resave_output_iff smallBoard_reliable bareEnv plainBrowser {} (fun _ _ => false)
    (fun _ _ => false) (fun _ _ => false) (fun _ _ => false) 0 [] rfl (by decide +kernel) rfl hwired
    rfl

end Runtime

end RcController
