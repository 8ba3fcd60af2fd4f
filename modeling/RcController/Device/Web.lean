import RcController.Device.Loop
import RcController.Device.Payloads
import RcController.Service.Learn
import RcController.Service.Multipart
import RcController.Service.Request
import RcController.Wiring.Setup

/-!
# The device on the network

`handleClient` takes the bytes of a client to a handler and its answer back. Whatever the
bytes are, one of three things happens (`handleClient_responds`). A multipart form that is
cut off may keep the server reading for ever. Bytes that are no request get no answer. Every
request is answered, an answer that calls itself JSON is JSON, and only a POST to a route of
the API changes anything. What the server keeps for later requests (`_postArgs`) changes by a
multipart form or a restart only.

The calls of the page are such requests: a form with some parameters, sent to an address of the
API, comes to the handler with just these parameters, and the page reads off the answer whether
it was carried out (`api_call`). This needs that no arguments of a multipart form that was given
up are left in the server, where a handler would find them first; the page itself never sends
such a form. So the requests of the other modules are those that the page makes.
-/

namespace RcController

open Json DeviceProg UrlForm WebServer

/-- What the device on the network has besides its runtime: what the HTTP
library relies on, the address of the access point, the firmware texts and the
page it serves. -/
structure WebEnv where
  http : HttpEnv
  apIp : Str
  firmware : Firmware
  page : UiPage

/-- The directory that is loaded has at most as many entries as there are
slots. -/
theorem loadPresetDirectory_always :
    loadPresetDirectory.Always fun dir => dir.count ≤ kMaxUserPresets := by
  refine Prog.always_bind_of_forall _ fun opened => ?_
  cases opened with
  | false => exact Nat.zero_le _
  | true =>
    refine Prog.always_bind_of_forall _ fun blob => ?_
    split
    · split
      · exact Nat.zero_le _
      · exact Nat.min_le_right _ _
    · exact Nat.zero_le _

/-- The directory as a run of its reads, with this bound. -/
def loadDirectory (plan : Prog.Plan nvsInterface) (nvs : NvsStore) : LoadedDirectory :=
  ⟨(loadPresetDirectory.run nvsDevice plan nvs).1,
    loadPresetDirectory_always.run nvsDevice plan nvs⟩

namespace Runtime

/-- The last packet of the gamepad, if one is connected. -/
def connectedGamepad (s : Runtime) : Option Snapshot :=
  match s.sketch.gamepad with
  | none => none
  | some g =>
    let c := s.bluepad.controllers g
    if c.connected then some c.data.reading else none

/-- The answer to a request, by its handler. It is computed from the runtime
before the request takes effect; what takes effect is told apart below. -/
def respond (b : Board) (w : WebEnv) (server : WebServer) (r : HttpRequest)
    (plan : Prog.Plan nvsInterface) (s : Runtime) : Option Response :=
  match r.currentHandler with
  | none => some (notFound r.method w.apIp)
  | some .root => some (streamWebUiPage w.page)
  | some .captiveRedirect => some (redirectCaptivePortal w.apIp)
  | some .apiState =>
    let snapshot := { s.system.stateSnapshot w.firmware w.apIp with
      presetDir := some (loadDirectory plan s.nvs) }
    (buildStateJson b ratFloat snapshot).map (.json 200)
  | some .apiActivity =>
    (buildActivityJson ratFloat (s.system.activitySnapshot w.firmware)).map (.json 200)
  | some .apiInputs => buildInputsJson.map (.json 200)
  | some (.api endpoint) =>
    ((handleRequest b s.millis ⟨endpoint, argsOf server r.args⟩ s.sketch).run nvsDevice plan
      s.nvs).1.2.response
  | some .apiLearnDetect => some (handleApiLearnDetect s.connectedGamepad)

/-- The request that a POST handler carries out. -/
def incoming (handler : Option RouteHandler) (args : Args)
    (plan restartPlan : Prog.Plan nvsInterface) : Option Incoming :=
  match handler with
  | some (.api endpoint) => some ⟨⟨endpoint, args⟩, plan, restartPlan⟩
  | _ => none

/-- Whether the device restarts before it would serve the next client. -/
def restarts (b : Board) (incoming : Option Incoming) (s : Runtime) : Bool :=
  match incoming with
  | none => false
  | some r => r.request.endpoint = .apConfigApplyReboot ∧
      ((handleRequest b s.millis r.request s.sketch).run nvsDevice r.plan s.nvs).1.2.ok = true

/-- What one client leaves: the server with the arguments it keeps, the runtime,
and the answer if there is one. -/
structure Handled where
  server : WebServer
  runtime : Runtime
  response : Option Response

/-- One turn of the server: the bytes of a client are parsed, its handler is
called, and the answer is sent. It is `none` when the parser never returns. -/
def handleClient (b : Board) (w : WebEnv) (data : Str) (plan restartPlan : Prog.Plan nvsInterface)
    (server : WebServer) (s : Runtime) : Option Handled :=
  match parseRequest w.http server data with
  | .hangs => none
  | .invalid server => some ⟨server, s.serveRequest b none, none⟩
  | .request r server =>
    let request := incoming r.currentHandler (argsOf server r.args) plan restartPlan
    some ⟨if s.restarts b request then {} else server, s.serveRequest b request,
      s.respond b w server r plan⟩

end Runtime

/-! ### Routes -/

/-- The routes that change something answer to POST. -/
theorem post_of_api : ∀ route ∈ webRoutes, ∀ endpoint, route.2.2 = .api endpoint →
    route.2.1 = .post := by
  intro route hroute endpoint hend
  have hall : ∀ route ∈ webRoutes, route.2.1 = .post ∨ route.2.2 = .root ∨
      route.2.2 = .captiveRedirect ∨ route.2.2 = .apiState ∨ route.2.2 = .apiActivity ∨
      route.2.2 = .apiInputs := by decide
  obtain hpost | hother := hall route hroute
  · exact hpost
  · rw [hend] at hother
    simp at hother

/-- So a request that has come to such a handler is a POST. -/
theorem HttpRequest.post_of_api {r : HttpRequest} {endpoint : Endpoint}
    (h : r.currentHandler = some (.api endpoint)) : r.method = .post := by
  obtain ⟨route, hfind, hroute⟩ := Option.map_eq_some_iff.mp h
  have hmatch := List.find?_some hfind
  simp only [decide_eq_true_eq] at hmatch
  rw [← hmatch.1]
  exact RcController.post_of_api route (List.mem_of_find?_eq_some hfind) endpoint hroute

/-- The routes that answer to POST are those of the requests and the learn mode.
The latter changes nothing, and answers by a document of its own. -/
theorem post_handler {uri : String} {handler : RouteHandler}
    (hroute : (uri, .post, handler) ∈ webRoutes) :
    (∃ endpoint, handler = .api endpoint) ∨ handler = .apiLearnDetect := by
  have hall : ∀ route ∈ webRoutes, route.2.1 = .post → route.2.2 ≠ .root ∧
      route.2.2 ≠ .captiveRedirect ∧ route.2.2 ≠ .apiState ∧ route.2.2 ≠ .apiActivity ∧
      route.2.2 ≠ .apiInputs := by decide
  obtain ⟨hroot, hredirect, hstate, hactivity, hinputs⟩ := hall _ hroute rfl
  cases handler with
  | api endpoint => exact .inl ⟨endpoint, rfl⟩
  | apiLearnDetect => exact .inr rfl
  | root => exact absurd rfl hroot
  | captiveRedirect => exact absurd rfl hredirect
  | apiState => exact absurd rfl hstate
  | apiActivity => exact absurd rfl hactivity
  | apiInputs => exact absurd rfl hinputs

/-- Each route is found by its address, which has no query. -/
theorem route_found : ∀ route ∈ webRoutes, UriOk (lit route.1) ∧
    (webRoutes.find? fun other => other.2.1 = route.2.1 ∧ lit other.1 = lit route.1)
      = some route := by
  intro route hroute
  -- over the bytes of the address, not over all bytes
  have huri : ∀ route ∈ webRoutes,
      (lit route.1).all (fun c => c ≠ 0 ∧ c ≠ 13 ∧ c ≠ 32 ∧ c ≠ 63) = true := by
    decide +kernel
  have hfind : ∀ route ∈ webRoutes,
      (webRoutes.find? fun other => other.2.1 = route.2.1 ∧ lit other.1 = lit route.1)
        = some route := by
    decide +kernel
  refine ⟨fun c hc => ?_, hfind route hroute⟩
  exact of_decide_eq_true (List.all_eq_true.mp (huri route hroute) c hc)

/-! ### Any bytes -/

/-- An answer that calls itself JSON has a body that the strict reader
accepts. -/
def Response.WellFormed (r : Response) : Prop :=
  r.contentType = "application/json" → ∃ d, Doc.parse r.body = some d

namespace Runtime

variable {b : Board} {w : WebEnv}

/-- Every handler answers, and what it calls JSON is JSON. One case for each
handler: the page and the redirect are something else, the payloads and the
answers of the API are documents. -/
theorem respond_wellFormed (server : WebServer) (r : HttpRequest) (plan : Prog.Plan nvsInterface)
    (s : Runtime) : ∃ resp, s.respond b w server r plan = some resp ∧ resp.WellFormed := by
  have hplain : ∀ resp : Response, resp.contentType ≠ "application/json" → resp.WellFormed :=
    fun resp hne heq => absurd heq hne
  have htext : "text/plain" ≠ "application/json" := by decide
  have hhtml : "text/html; charset=utf-8" ≠ "application/json" := by decide
  unfold respond
  -- not found, the page, the redirect, the state, the activity, the inputs, the API, the
  -- learn mode
  split
  · refine ⟨_, rfl, hplain _ ?_⟩
    unfold notFound
    split <;> exact htext
  · refine ⟨_, rfl, hplain _ ?_⟩
    cases w.page with
    | mountFailed | missing | unreadable => exact htext
    | found content => exact hhtml
  · exact ⟨_, rfl, hplain _ htext⟩
  · obtain ⟨text, htext, hdoc⟩ := str_of_writesDoc (writes_stateDoc b ratFloat
      { s.system.stateSnapshot w.firmware w.apIp with
        presetDir := some (loadDirectory plan s.nvs) }) (by decide)
    exact ⟨_, congrArg (Option.map (Response.json 200)) htext, fun _ =>
      ⟨_, Doc.parse_of_scan hdoc (strict_stateDoc finite_ratFloat _)⟩⟩
  · obtain ⟨text, htext, hdoc⟩ := str_of_writesDoc (writes_activityDoc ratFloat
      (s.system.activitySnapshot w.firmware)) (by decide)
    exact ⟨_, congrArg (Option.map (Response.json 200)) htext, fun _ =>
      ⟨_, Doc.parse_of_scan hdoc (strict_activityDoc finite_ratFloat _)⟩⟩
  · obtain ⟨text, htext, hdoc⟩ := buildInputsJson_spec
    exact ⟨_, congrArg (Option.map (Response.json 200)) htext, fun _ => ⟨_, hdoc⟩⟩
  · next endpoint _ =>
    -- every reply is clean, whatever the storage answers
    have hclean := (reply_clean b s.millis s.sketch ⟨endpoint, argsOf server r.args⟩).run nvsDevice
      plan s.nvs
    obtain ⟨body, hbody, hdoc⟩ := Reply.response_spec hclean
    exact ⟨_, hbody, fun _ => ⟨_, hdoc⟩⟩
  · obtain ⟨body, hbody, hdoc⟩ := handleApiLearnDetect_spec s.connectedGamepad
    exact ⟨_, congrArg some hbody, fun _ => ⟨_, hdoc⟩⟩

/-- **Any bytes**, whatever the server still keeps from earlier requests. Either
`handleClient` does not return, which only a multipart form brings about. Or the
bytes are no request: there is no answer, and nothing of the device changes. Or
there is an answer; one that calls itself JSON is JSON, and only a POST that a
route of the API takes changes anything: it has the effect of the request of
that route, with the arguments that the server finds. Without a multipart form
the server keeps what it kept, unless the device restarts. -/
theorem handleClient_responds (b : Board) (w : WebEnv) (data : Str)
    (plan restartPlan : Prog.Plan nvsInterface) (server : WebServer) (s : Runtime) :
    let done := s.handleClient b w data plan restartPlan server
    (parseRequest w.http server data = .hangs ∧ done = none ∧ hasForm w.http data = true) ∨
      (∃ server', parseRequest w.http server data = .invalid server' ∧
        done = some ⟨server', s.serveRequest b none, none⟩ ∧
        (hasForm w.http data = false → server' = server)) ∨
      ∃ r server' resp, parseRequest w.http server data = .request r server' ∧
        resp.WellFormed ∧ (hasForm w.http data = false → server' = server) ∧
        (done = some ⟨server', s.serveRequest b none, some resp⟩ ∨
          ∃ endpoint, r.method = .post ∧ r.currentHandler = some (.api endpoint) ∧
            let request := some ⟨⟨endpoint, argsOf server' r.args⟩, plan, restartPlan⟩
            done = some ⟨if s.restarts b request then {} else server', s.serveRequest b request,
              some resp⟩) := by
  intro done
  have hkept := fun h : hasForm w.http data = false => parseRequest_of_not_hasForm h server
  cases hparse : parseRequest w.http server data with
  | hangs =>
    refine .inl ⟨rfl, by simp only [done, handleClient, hparse], ?_⟩
    -- every other request returns
    by_contra hform
    obtain hinvalid | ⟨r, hr⟩ := hkept (Bool.eq_false_iff.mpr hform)
    · rw [hparse] at hinvalid
      cases hinvalid
    · rw [hparse] at hr
      cases hr
  | invalid server' =>
    refine .inr (.inl ⟨server', rfl, by simp only [done, handleClient, hparse], fun hform => ?_⟩)
    obtain hinvalid | ⟨r, hr⟩ := hkept hform
    · rw [hparse] at hinvalid
      cases hinvalid
      rfl
    · rw [hparse] at hr
      cases hr
  | request r server' =>
    obtain ⟨resp, hresp, hwell⟩ := respond_wellFormed (b := b) (w := w) server' r plan s
    refine .inr (.inr ⟨r, server', resp, rfl, hwell, fun hform => ?_, ?_⟩)
    · obtain hinvalid | ⟨r', hr⟩ := hkept hform
      · rw [hparse] at hinvalid
        cases hinvalid
      · rw [hparse] at hr
        cases hr
        rfl
    · simp only [done, handleClient, hparse, hresp]
      cases hhandler : r.currentHandler with
      | none => exact .inl rfl
      | some handler =>
        cases handler with
        | api endpoint => exact .inr ⟨endpoint, HttpRequest.post_of_api hhandler, rfl, rfl⟩
        | root => exact .inl rfl
        | captiveRedirect => exact .inl rfl
        | apiState => exact .inl rfl
        | apiActivity => exact .inl rfl
        | apiInputs => exact .inl rfl
        | apiLearnDetect => exact .inl rfl

/-! ### Calls of the page -/

/-- The reply of a handler to a request. -/
def replyTo (b : Board) (r : Request) (plan : Prog.Plan nvsInterface) (s : Runtime) : Reply :=
  ((handleRequest b s.millis r s.sketch).run nvsDevice plan s.nvs).1.2

/-- The answer of a POST route, which for the learn mode is a document about the
gamepad. -/
def postAnswer (b : Board) (handler : RouteHandler) (args : Args) (plan : Prog.Plan nvsInterface)
    (s : Runtime) : Answer :=
  match handler with
  | .api endpoint => (s.replyTo b ⟨endpoint, args⟩ plan).answer
  | _ => learnAnswer s.connectedGamepad

/-- **A form comes to its handler**, with the parameters it was made of. -/
theorem handleClient_postText {uri : String} {handler : RouteHandler}
    (hroute : (uri, .post, handler) ∈ webRoutes) {hs params : List RequestArgument}
    (hok : ∀ f ∈ hs, HeaderOk f) (hform : AnnouncesForm hs (formText params).length)
    (plan restartPlan : Prog.Plan nvsInterface) (server : WebServer) (s : Runtime) :
    let request := incoming (some handler) (argsOf server params) plan restartPlan
    s.handleClient b w (postText (lit uri) hs params) plan restartPlan server =
      some ⟨if s.restarts b request then {} else server, s.serveRequest b request,
        s.respond b w server ⟨.post, lit uri, params⟩ plan⟩ := by
  obtain ⟨huri, hfind⟩ := route_found _ hroute
  have hhandler : (⟨.post, lit uri, params⟩ : HttpRequest).currentHandler = some handler :=
    congrArg (Option.map fun route : String × HTTPMethod × RouteHandler => route.2.2) hfind
  rw [handleClient, parseRequest_postText w.http server huri hok hform]
  simp only [hhandler]

/-- The answer of a POST route is sent as a JSON text, of the document that
belongs to it. -/
theorem respond_postText {uri : String} {handler : RouteHandler}
    (hroute : (uri, .post, handler) ∈ webRoutes) (params : List RequestArgument)
    (plan : Prog.Plan nvsInterface) (server : WebServer) (s : Runtime) :
    let answer := s.postAnswer b handler (argsOf server params) plan
    ∃ body, s.respond b w server ⟨.post, lit uri, params⟩ plan = some (.json answer.code body) ∧
      Doc.parse body = some answer.doc := by
  obtain ⟨-, hfind⟩ := route_found _ hroute
  have hhandler : (⟨.post, lit uri, params⟩ : HttpRequest).currentHandler = some handler :=
    congrArg (Option.map fun route : String × HTTPMethod × RouteHandler => route.2.2) hfind
  -- a route of the requests, or the learn mode
  obtain ⟨endpoint, rfl⟩ | rfl := post_handler hroute
  · have hclean : (s.replyTo b ⟨endpoint, argsOf server params⟩ plan).Clean :=
      (reply_clean b s.millis s.sketch _).run nvsDevice plan s.nvs
    obtain ⟨body, hbody, hdoc⟩ := Reply.response_spec hclean
    refine ⟨body, ?_, hdoc⟩
    rw [respond, hhandler]
    exact hbody
  · obtain ⟨body, hbody, hdoc⟩ := handleApiLearnDetect_spec s.connectedGamepad
    refine ⟨body, ?_, hdoc⟩
    rw [respond, hhandler]
    exact congrArg some hbody

/-- **Calls of the page.** A form that is sent to a POST route of the API comes
to its handler with the parameters of the form, when the server keeps none of an
earlier multipart form. The body of the answer is the document that belongs to
the answer of the handler, and the page reads off it whether the request was
carried out. -/
theorem api_call (b : Board) (w : WebEnv) {uri : String} {handler : RouteHandler}
    (hroute : (uri, .post, handler) ∈ webRoutes) {hs params : List RequestArgument}
    (hok : ∀ f ∈ hs, HeaderOk f) (hform : AnnouncesForm hs (formText params).length)
    (plan restartPlan : Prog.Plan nvsInterface) {server : WebServer}
    (hserver : server.postArgs = []) (s : Runtime) :
    let args := formArgs params
    let answer := s.postAnswer b handler args plan
    ∃ body, s.handleClient b w (postText (lit uri) hs params) plan restartPlan server =
        some ⟨server, s.serveRequest b (incoming (some handler) args plan restartPlan),
          some (.json answer.code body)⟩ ∧
      Doc.parse body = some answer.doc ∧
        answer.doc.field (lit "ok") = some (boolDoc answer.ok) := by
  intro args answer
  have hargs : argsOf server params = args := argsOf_of_postArgs hserver params
  obtain ⟨body, hbody, hdoc⟩ := respond_postText (b := b) (w := w) hroute params plan server s
  rw [hargs] at hbody hdoc
  refine ⟨body, ?_, hdoc, ?_⟩
  · -- a restart leaves a server without arguments too
    have hfresh : server = {} := by
      obtain ⟨postArgs⟩ := server
      exact congrArg WebServer.mk hserver
    rw [handleClient_postText hroute hok hform, hargs, hbody, hfresh, ite_self]
  · -- the member `ok` of either document says so
    obtain ⟨endpoint, rfl⟩ | rfl := post_handler hroute
    · exact Reply.field_ok _
    · exact field_ok_learnAnswer _

/-- The header fields of a form as a browser sends it. -/
def browserHeader : List RequestArgument :=
  [(lit "Host", lit "192.168.4.1"),
   (lit "Content-Length", lit "11"),
   (lit "Content-Type", lit "application/x-www-form-urlencoded;charset=UTF-8"),
   (lit "Origin", lit "http://192.168.4.1")]

/-- Each of them is one line, and they announce the form and its length. -/
theorem headerOk_browserHeader : ∀ f ∈ browserHeader, HeaderOk f := by
  intro f hf
  have hall : ∀ f ∈ browserHeader, f.1 ≠ [] ∧
      f.1.all (fun c => c ≠ 0 ∧ c ≠ 13 ∧ c ≠ 58) = true ∧ 13 ∉ f.2 := by
    decide +kernel
  obtain ⟨hne, hname, hvalue⟩ := hall f hf
  exact ⟨hne, fun c hc => of_decide_eq_true (List.all_eq_true.mp hname c hc), hvalue⟩

theorem announcesForm_browserHeader :
    AnnouncesForm browserHeader (formText [(lit "name", lit "a b\t")]).length := by
  have hlength : (formText [(lit "name", lit "a b\t")]).length = 11 := by decide +kernel
  rw [hlength]
  exact ⟨by decide +kernel, by decide +kernel, by decide +kernel, by decide +kernel⟩

/-- A device without a page. -/
def bareEnv : WebEnv :=
  ⟨⟨[], fun rest => !rest.isEmpty, fun _ _ => 0⟩, lit "192.168.4.1", ⟨[], []⟩, .missing⟩

/-- The car, right after boot. -/
def carDevice : Runtime := boot smallBoard {} (fun _ _ => false) 0

/-- A form with a name that has a space and a tab in it. -/
def presetArgs : Args := formArgs [(lit "name", lit "a b\t")]

/-- Applying a preset under this name, from the page. -/
theorem api_call_preset :
    ∃ body, carDevice.handleClient smallBoard bareEnv
          (postText (lit "/api/preset_apply") browserHeader [(lit "name", lit "a b\t")])
          (fun _ _ => false) (fun _ _ => false) {} =
        some ⟨{}, carDevice.serveRequest smallBoard
            (incoming (some (.api .presetApply)) presetArgs (fun _ _ => false) fun _ _ => false),
          some (.json (carDevice.postAnswer smallBoard (.api .presetApply) presetArgs
            fun _ _ => false).code body)⟩ ∧
      Doc.parse body = some (carDevice.postAnswer smallBoard (.api .presetApply) presetArgs
        fun _ _ => false).doc ∧
      (carDevice.postAnswer smallBoard (.api .presetApply) presetArgs fun _ _ => false).doc.field
        (lit "ok") = some (boolDoc (carDevice.postAnswer smallBoard (.api .presetApply) presetArgs
          fun _ _ => false).ok) :=
  api_call smallBoard bareEnv (by decide) headerOk_browserHeader announcesForm_browserHeader
    (fun _ _ => false) (fun _ _ => false) rfl carDevice

end Runtime

end RcController
