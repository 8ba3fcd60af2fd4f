import RcController.Model.Sketch
import RcController.Model.StateService

/-!
# The web server

How a request of a client becomes the call of a handler, and the answer of the handler a
response. `WebServer::_parseRequest` reads the bytes that arrive: a line with the method
and the address, the header, the body. A form is a list of arguments
(`_parseArguments`), of which the handlers see the first one of each name.

A body can also be a multipart form (`_parseForm`). No page of this device sends one, but a
client may. Its arguments are collected in `_postArgs`, which are emptied at the end of a
complete form only: after a form that is given up they stay, and the handlers of later
requests find them before their own (`argsOf`). When the data ends within a form,
`_parseForm` reads empty lines for ever (`FormResult.hangs`).

`String::indexOf` searches up to the next NUL only, and comparisons end there too; a request
may contain NULs.

The names of the HTTP methods come from the SDK, and two things that `_parseForm` looks at
are not in the bytes; these are parameters (`HttpEnv`). No route has an upload handler, so
the bytes of an uploaded file go nowhere. The handlers and `_hostHeader` aside, headers have
no effect here. What a client sends is taken to arrive at once, and memory not to run out.
-/

namespace RcController

/-- `HTTPMethod`; those that the server or the sketch never mention are one. -/
inductive HTTPMethod where
  | get
  | post
  | put
  | patch
  | delete
  | other
  deriving DecidableEq

/-- The methods whose requests have a body. -/
def HTTPMethod.hasBody (method : HTTPMethod) : Bool :=
  method = .post ∨ method = .put ∨ method = .patch ∨ method = .delete

/-- `RequestArgument`: a key and a value. -/
abbrev RequestArgument := Str × Str

structure HttpEnv where
  /-- The methods of `HTTP_METHOD_MAP` besides those of `HTTPMethod`. -/
  otherMethods : List Str
  /-- `NetworkClient::connected` when there are these bytes to read. -/
  connected : Str → Bool
  /-- What the stack of `_parseForm` holds where it puts `fastBoundary`, when there are these bytes
  to read. -/
  stackByte : Str → ℕ → UInt8

/-- The request that `_parseRequest` leaves in the server, with
`_currentArgs`. -/
structure HttpRequest where
  method : HTTPMethod
  uri : Str
  args : List RequestArgument

/-- What the server keeps from one request to the next one: `_postArgs`, as far
as `_postArgsLen`. -/
structure WebServer where
  postArgs : List RequestArgument := []

namespace WebServer

/-- `String::indexOf(ch)`. -/
def indexOf (c : UInt8) (s : Str) : Option ℕ := (s.takeWhile (· ≠ 0)).idxOf? c

/-! ### Arguments -/

/-- The value of a hexadecimal digit. -/
def hexValue (c : UInt8) : Option UInt8 :=
  if 48 ≤ c && c ≤ 57 then some (c - 48)
  else if 65 ≤ c && c ≤ 70 then some (c - 55)
  else if 97 ≤ c && c ≤ 102 then some (c - 87)
  else none

/-- `strtol` on `0x` and two characters: it stops at the first that is no
digit. -/
def strtolHex (c d : UInt8) : UInt8 :=
  match hexValue c, hexValue d with
  | none, _ => 0
  | some high, none => high
  | some high, some low => 16 * high + low

def urlDecode : Str → Str
  | 37 :: c :: d :: text => strtolHex c d :: urlDecode text
  | c :: text => (if c = 43 then 32 else c) :: urlDecode text
  | [] => []

/-- The loop of `_parseArguments`: `data` is what lies behind `pos`, `left` how
many arguments the array still has room for. Each round with another one takes
an ampersand off the data. -/
def parseArgumentsLoop : ℕ → ℕ → Str → List RequestArgument
  | 0, _, _ => []
  | _ + 1, 0, _ => []
  | fuel + 1, left + 1, data =>
    match indexOf 61 data, indexOf 38 data with
    -- no value, and the data ends
    | none, none => []
    | none, some next => parseArgumentsLoop fuel (left + 1) (data.drop (next + 1))
    | some equal, none => [(urlDecode (data.take equal), urlDecode (data.drop (equal + 1)))]
    | some equal, some next =>
      -- the equals sign belongs to a later argument
      if next < equal then parseArgumentsLoop fuel (left + 1) (data.drop (next + 1))
      else (urlDecode (data.take equal), urlDecode ((data.take next).drop (equal + 1))) ::
        parseArgumentsLoop fuel left (data.drop (next + 1))

/-- `_parseArguments`. -/
def parseArguments (data : Str) : List RequestArgument :=
  if data = [] then []
  else parseArgumentsLoop (data.length + 1) (1 + (data.takeWhile (· ≠ 0)).count 38) data

/-! ### Requests -/

/-- `Stream::readStringUntil`, and the bytes that are left. -/
def readStringUntil (terminator : UInt8) (s : Str) : Str × Str :=
  (s.takeWhile (· ≠ terminator), (s.dropWhile (· ≠ terminator)).drop 1)

/-- A line without its end, and the bytes behind it. -/
def readLine (s : Str) : Str × Str :=
  let line := readStringUntil 13 s
  (line.1, (readStringUntil 10 line.2).2)

/-! ### Multipart forms -/

/-- `WEBSERVER_MAX_POST_ARGS` -/
def maxPostArgs : ℕ := 32

/-- The first line of a form, of which up to three may be empty: `left` is how
many are tried still. -/
def readFirstLine : ℕ → Str → Str × Str
  | 0, s => ([], s)
  | left + 1, s =>
    let line := readStringUntil 13 s
    if line.1 = [] then readFirstLine left line.2 else line

/-- The lines of the header of a part, up to one that is empty. The end of the
data makes an empty line as well. -/
def skipPartHeader : ℕ → Str → Str
  | 0, s => s
  | fuel + 1, s =>
    let (line, rest) := readLine s
    if line = [] then rest else skipPartHeader fuel rest

/-- The loop over the lines of a value, up to one that starts with the boundary:
the value, that line, and the bytes behind it. Nothing in the loop looks for the
end of the data, so without such a line it does not end. -/
def readArgValue (boundary : Str) : ℕ → Str → Str → Option (Str × Str × Str)
  | 0, _, _ => none
  | fuel + 1, argValue, s =>
    let (line, rest) := readLine s
    if line.startsWith ([45, 45] ++ boundary) then some (argValue, line, rest)
    else
      readArgValue boundary fuel ((if argValue ≠ [] then argValue ++ [10] else []) ++ line) rest

/-- The array that `_parseForm` looks for behind a file, without its last byte.
`snprintf` writes the boundary up to its first NUL, and the bytes behind that
NUL are what was on the stack. -/
def fastBoundary (env : HttpEnv) (boundary s : Str) : Str :=
  let text := [13, 10, 45, 45] ++ boundary.takeWhile (· ≠ 0) ++ [0]
  (List.range (4 + boundary.length)).map fun k => text.getD k (env.stackByte s k)

/-- The loop over the bytes of a file. The first `boundaryPtr` bytes of `fast`
have just been read. The result is what lies behind the boundary; when the data
ends first, the upload is aborted. -/
def skipFile (fast : Str) : ℕ → Str → Option Str
  | _, [] => none
  | boundaryPtr, c :: s =>
    if fast[boundaryPtr]? = some c then
      if boundaryPtr + 1 = fast.length then some s else skipFile fast (boundaryPtr + 1) s
    else skipFile fast (if fast[0]? = some c then 1 else 0) s

/-- What `_parseForm` comes to. -/
inductive FormResult where
  /-- It reads empty lines for ever. -/
  | hangs
  /-- It returns `false` and leaves these `_postArgs`. -/
  | fails (postArgs : List RequestArgument)
  /-- It returns `true`, with these arguments, and leaves no `_postArgs`. -/
  | parsed (args : List RequestArgument)
  deriving DecidableEq

/-- What a round of the loop over the parts of a form comes to. -/
inductive FormRound where
  | next (postArgs : List RequestArgument) (rest : Str)
  | ends (result : FormResult)

/-- One round of the loop over the parts of a form, with the `_postArgs` so far.
It takes a line off the data, and more when that line starts a part. -/
def parseFormPart (env : HttpEnv) (boundary : Str) (postArgs : List RequestArgument) (s : Str) :
    FormRound :=
  let (line, rest) := readLine s
  if 19 < line.length ∧ (line.substring 19).equalsIgnoreCase (lit "Content-Disposition") then
    match indexOf 61 line with
    | none => .next postArgs rest
    | some nameStart =>
      let argName := line.drop (nameStart + 2)
      let rest := skipPartHeader (rest.length + 1) rest
      match indexOf 61 argName with
      | none =>
        match readArgValue boundary rest.length [] rest with
        | none => .ends .hangs
        | some (argValue, line, rest) =>
          -- the quote behind the name goes
          let postArgs := postArgs ++ [(argName.dropLast, argValue)]
          if line.equals ([45, 45] ++ boundary ++ [45, 45]) then .ends (.parsed postArgs)
          else if maxPostArgs ≤ postArgs.length then .ends (.fails postArgs)
          else .next postArgs rest
      -- a file name follows: the part is a file
      | some _ =>
        match skipFile (fastBoundary env boundary rest) 0 rest with
        | none => .ends (.fails postArgs)
        | some rest =>
          if env.connected rest then
            let (line, rest) := readLine rest
            if line.equalsCStr "--" then .ends (.parsed postArgs) else .next postArgs rest
          else .ends (.fails postArgs)
  else .next postArgs rest

/-- The loop over the parts of a form. There is no way out of it when the data
has ended. -/
def parseFormLoop (env : HttpEnv) (boundary : Str) :
    ℕ → List RequestArgument → Str → FormResult
  | 0, _, _ => .hangs
  | fuel + 1, postArgs, s =>
    match parseFormPart env boundary postArgs s with
    | .next postArgs rest => parseFormLoop env boundary fuel postArgs rest
    | .ends result => result

/-- `_parseForm`, with the arguments of the address. They come behind those of
the form, as far as there is room. -/
def parseForm (env : HttpEnv) (boundary : Str) (currentArgs : List RequestArgument)
    (server : WebServer) (s : Str) : FormResult :=
  let line := readFirstLine 3 s
  if line.1.equals ([45, 45] ++ boundary) then
    match parseFormLoop env boundary s.length [] (readStringUntil 10 line.2).2 with
    | .parsed args => .parsed (args ++ currentArgs.take (maxPostArgs - args.length))
    | other => other
  else .fails server.postArgs

/-! ### Request lines and headers -/

/-- The search for `methodStr` in `_http_method_str`. -/
def parseMethod (env : HttpEnv) (methodStr : Str) : Option HTTPMethod :=
  let name := methodStr.takeWhile (· ≠ 0)
  if name = lit "GET" then some .get
  else if name = lit "POST" then some .post
  else if name = lit "PUT" then some .put
  else if name = lit "PATCH" then some .patch
  else if name = lit "DELETE" then some .delete
  else if name ∈ env.otherMethods then some .other
  else none

/-- The first line of a request. -/
structure RequestLine where
  method : HTTPMethod
  uri : Str
  searchStr : Str

def parseRequestLine (env : HttpEnv) (req : Str) : Option RequestLine :=
  match indexOf 32 req with
  | none => none
  | some addrStart =>
    let rest := req.drop (addrStart + 1)
    match indexOf 32 rest with
    | none => none
    | some addrEnd =>
      let url := rest.take addrEnd
      match parseMethod env (req.take addrStart) with
      | none => none
      | some method =>
        match indexOf 63 url with
        | none => some ⟨method, url, []⟩
        | some hasSearch => some ⟨method, url.take hasSearch, url.drop (hasSearch + 1)⟩

/-- What the header says about the body. -/
structure BodyHeader where
  isForm : Bool := false
  isEncoded : Bool := false
  boundaryStr : Str := []
  clientContentLength : ℤ := 0

/-- One line of the header. -/
def parseHeader (headerName headerValue : Str) (h : BodyHeader) : BodyHeader :=
  if headerName.equalsIgnoreCase (lit "Content-Type") then
    if (lit "text/plain").isPrefixOf headerValue then { h with isForm := false }
    else if (lit "application/x-www-form-urlencoded").isPrefixOf headerValue then
      { h with isForm := false, isEncoded := true }
    else if (lit "multipart/").isPrefixOf headerValue then
      { h with
        isForm := true
        boundaryStr := Str.removeQuotes (match indexOf 61 headerValue with
          | none => headerValue
          | some equal => headerValue.drop (equal + 1)) }
    else h
  else if headerName.equalsIgnoreCase (lit "Content-Length") then
    { h with clientContentLength := headerValue.toInt }
  else h

/-- The lines of the header, up to one that is empty or has no colon. -/
def parseHeaders : ℕ → BodyHeader → Str → BodyHeader × Str
  | 0, h, s => (h, s)
  | fuel + 1, h, s =>
    let (req, rest) := readLine s
    if req.takeWhile (· ≠ 0) = [] then (h, rest)
    else match indexOf 58 req with
      | none => (h, rest)
      | some headerDiv =>
        parseHeaders fuel
          (parseHeader (req.take headerDiv) (Str.trim (req.drop (headerDiv + 1))) h) rest

/-- A body that is no multipart form. `readBytesWithTimeout` takes what has
arrived, which may be more than announced. -/
def parsePlainBody (h : BodyHeader) (searchStr body : Str) : Option (List RequestArgument) :=
  -- the length is compared as a `size_t`
  if (body.length : ℤ) < h.clientContentLength % 4294967296 then none
  else if 0 < h.clientContentLength then
    let plainBuf := body.takeWhile (· ≠ 0)
    if h.isEncoded then
      some (parseArguments ((if searchStr ≠ [] then searchStr ++ [38] else []) ++ plainBuf))
    else some (parseArguments searchStr ++ [(lit "plain", plainBuf)])
  else some (parseArguments searchStr)

/-- What `_parseRequest` comes to. -/
inductive ParseResult where
  /-- It does not return. -/
  | hangs
  /-- It returns `false`. -/
  | invalid (server : WebServer)
  /-- It returns `true`. -/
  | request (r : HttpRequest) (server : WebServer)

/-- `_parseRequest`. -/
def parseRequest (env : HttpEnv) (server : WebServer) (data : Str) : ParseResult :=
  let line := readLine data
  match parseRequestLine env line.1 with
  | none => .invalid server
  | some ⟨method, uri, searchStr⟩ =>
    if method.hasBody then
      let (header, body) := parseHeaders (line.2.length + 1) {} line.2
      if header.isForm then
        match parseForm env header.boundaryStr (parseArguments searchStr) server body with
        | .hangs => .hangs
        | .fails postArgs => .invalid ⟨postArgs⟩
        | .parsed args => .request ⟨method, uri, args⟩ ⟨[]⟩
      else
        match parsePlainBody header searchStr body with
        | none => .invalid server
        | some args => .request ⟨method, uri, args⟩ server
    else .request ⟨method, uri, parseArguments searchStr⟩ server

end WebServer

/-! ### Routes -/

/-- The name of a parameter. -/
def Param.key : Param → Str
  | .index => lit "index"
  | .name => lit "name"
  | .input => lit "input"
  | .inputSecondary => lit "input_secondary"
  | .inputType => lit "input_type"
  | .rangeMode => lit "range_mode"
  | .rumble => lit "rumble"
  | .inputModifier => lit "input_modifier"
  | .modifierFunction => lit "modifier_function"
  | .deadzone => lit "deadzone"
  | .expo => lit "expo"
  | .type => lit "type"
  | .pin => lit "pin"
  | .inverted => lit "inverted"
  | .threshold => lit "threshold"
  | .sourceA => lit "source_a"
  | .sourceB => lit "source_b"
  | .sourceC => lit "source_c"
  | .mixMode => lit "mix_mode"
  | .pwmFailsafe => lit "pwm_failsafe"
  | .weightA => lit "weight_a"
  | .weightB => lit "weight_b"
  | .weightC => lit "weight_c"
  | .offsetA => lit "offset_a"
  | .offsetB => lit "offset_b"
  | .offsetC => lit "offset_c"
  | .allowRewire => lit "allow_rewire"
  | .fromCurrent => lit "from_current"
  | .base => lit "base"
  | .ssid => lit "ssid"
  | .password => lit "password"

/-- What `hasArg` and `arg` find: the first of the `_postArgs` with the name, or
else the first argument of the request. -/
def argsOf (server : WebServer) (args : List RequestArgument) : Args := fun p =>
  (server.postArgs.lookup p.key).or (args.lookup p.key)

/-- The arguments of a form by themselves. -/
def formArgs (params : List RequestArgument) : Args := fun p => params.lookup p.key

/-- The handlers of `WebRouteHandlers`. -/
inductive RouteHandler where
  | root
  | captiveRedirect
  | apiState
  | apiActivity
  | apiInputs
  | api (endpoint : Endpoint)
  | apiLearnDetect
  deriving DecidableEq

/-- `registerWebRoutes`. -/
def webRoutes : List (String × HTTPMethod × RouteHandler) :=
  [("/", .get, .root),
   ("/generate_204", .get, .captiveRedirect),
   ("/gen_204", .get, .captiveRedirect),
   ("/hotspot-detect.html", .get, .captiveRedirect),
   ("/connecttest.txt", .get, .captiveRedirect),
   ("/ncsi.txt", .get, .captiveRedirect),
   ("/fwlink", .get, .captiveRedirect),
   ("/api/state", .get, .apiState),
   ("/api/activity", .get, .apiActivity),
   ("/api/inputs", .get, .apiInputs),
   ("/api/virtual_add", .post, .api .virtualAdd),
   ("/api/virtual_update", .post, .api .virtualUpdate),
   ("/api/virtual_delete", .post, .api .virtualDelete),
   ("/api/output_add", .post, .api .outputAdd),
   ("/api/output_update", .post, .api .outputUpdate),
   ("/api/output_delete", .post, .api .outputDelete),
   ("/api/preset_apply", .post, .api .presetApply),
   ("/api/model_set_default", .post, .api .modelSetDefault),
   ("/api/model_create", .post, .api .modelCreate),
   ("/api/model_save_current", .post, .api .modelSaveCurrent),
   ("/api/model_revert", .post, .api .modelRevert),
   ("/api/model_delete", .post, .api .modelDelete),
   ("/api/ap_config_set", .post, .api .apConfigSet),
   ("/api/ap_config_apply_reboot", .post, .api .apConfigApplyReboot),
   ("/api/pairing_on", .post, .api .pairingOn),
   ("/api/pairing_off", .post, .api .pairingOff),
   ("/api/learn_detect", .post, .apiLearnDetect)]

/-- The first handler of the server that can handle the request. -/
def HttpRequest.currentHandler (r : HttpRequest) : Option RouteHandler :=
  (webRoutes.find? fun route => route.2.1 = r.method ∧ lit route.1 = r.uri).map fun route =>
    route.2.2

/-! ### Responses -/

/-- What a handler sends, with the headers of its own. -/
structure Response where
  code : ℕ
  contentType : String
  body : Str
  headers : List (Str × Str) := []

/-- A response with a JSON text. -/
def Response.json (code : ℕ) (body : Str) : Response := ⟨code, "application/json", body, []⟩

/-- `rcctl::sendJson`. -/
def sendJson (ok : Bool) (message : Str) : Option Response :=
  let j : Writing := do
    Writing.beginObject
    Writing.key "ok"
    Writing.valueBool ok
    if message ≠ [] then do
      Writing.key "message"
      Writing.valueString message
      Writing.endObject
    else Writing.endObject
  j.str.map (.json (if ok then 200 else 400))

/-- What `handleApiModelSaveCurrent` sends for a built-in model: a text put
together by hand. -/
def readonlyJson (suggested currentModelName : Str) : Str :=
  lit "\x7b\"ok\":false,\"readonly\":true,"
    ++ lit "\"message\":\"Readonly preset: create a fork to save changes\","
    ++ lit "\"suggested_name\":\"" ++ suggested ++ lit "\",\"base\":\"" ++ currentModelName
    ++ lit "\"\x7d"

/-- The response of a handler of the API. -/
def Reply.response : Reply → Option Response
  | .json ok message => sendJson ok (lit message)
  | .readonly suggested base => some (.json 200 (readonlyJson suggested base))

/-- `buildInputsJson`. -/
def buildInputsJson : Option Str :=
  Writing.str do
    Writing.beginArray
    kInputs.forM fun d =>
      if d.id = .buttonL2 ∨ d.id = .buttonR2 then pure ()
      else do
        Writing.beginObject
        Writing.key "id"
        Writing.valueInt d.id.toNat
        Writing.key "label"
        Writing.valueString (lit d.label)
        Writing.endObject
    Writing.endArray

/-- The candidates of `detectDominantInput`: the input, its threshold,
`absValue`. -/
def dominantCandidates : List (InputId × ℚ × Bool) :=
  [(.buttonA, 1 / 2, false), (.buttonB, 1 / 2, false), (.buttonX, 1 / 2, false),
   (.buttonY, 1 / 2, false), (.buttonL1, 1 / 2, false), (.buttonR1, 1 / 2, false),
   (.buttonStart, 1 / 2, false), (.buttonSelect, 1 / 2, false), (.dpadUp, 1 / 2, false),
   (.dpadDown, 1 / 2, false), (.dpadLeft, 1 / 2, false), (.dpadRight, 1 / 2, false),
   (.throttle, 15 / 100, false), (.brake, 15 / 100, false), (.axisX, 1 / 4, true),
   (.axisY, 1 / 4, true), (.axisRX, 1 / 4, true), (.axisRY, 1 / 4, true)]

/-- The value of a candidate. -/
def candidateValue (ctl : Snapshot) (c : InputId × ℚ × Bool) : ℚ :=
  let v := normalizedForInput c.1 ctl
  if c.2.2 then |v| else v

/-- `detectDominantInput`. -/
def detectDominantInput (ctl : Snapshot) : InputId :=
  (dominantCandidates.foldl (fun (best : InputId × ℚ) c =>
    let v := candidateValue ctl c
    if c.2.1 ≤ v ∧ best.2 < v then (c.1, v) else best) (InputId.none, 0)).1

/-- `handleApiLearnDetect`, given the gamepad when one is connected. -/
def handleApiLearnDetect (gamepad : Option Snapshot) : Response :=
  match gamepad with
  | none => .json 400 (lit "\x7b\"ok\":false,\"message\":\"No gamepad connected\"\x7d")
  | some ctl =>
    let hit := detectDominantInput ctl
    if hit = .none then .json 200 (lit "\x7b\"ok\":false,\"message\":\"No active input\"\x7d")
    else
      let label := match getInputDefinition hit with
        | some d => lit d.label
        | none => lit "Unknown"
      .json 200 (lit "\x7b\"ok\":true,\"input\":" ++ Str.ofInt hit.toNat ++ lit ",\"label\":\""
        ++ label ++ lit "\"\x7d")

/-- `redirectCaptivePortal`. -/
def redirectCaptivePortal (apIp : Str) : Response where
  code := 302
  contentType := "text/plain"
  body := []
  headers :=
    [(lit "Location", lit "http://" ++ apIp ++ lit "/"),
     (lit "Cache-Control", lit "no-cache, no-store, must-revalidate"),
     (lit "Pragma", lit "no-cache"),
     (lit "Expires", lit "-1")]

/-- What `streamWebUiPage` finds in the file system. -/
inductive UiPage where
  | mountFailed
  -- no file, or an empty one
  | missing
  | unreadable
  | found (content : Str)

/-- `streamWebUiPage`. The chunks it streams make up the file. -/
def streamWebUiPage : UiPage → Response
  | .mountFailed => ⟨500, "text/plain", lit "SPIFFS mount failed.", []⟩
  | .missing =>
    ⟨500, "text/plain", lit "Missing UI asset /index.html. Upload filesystem image.", []⟩
  | .unreadable => ⟨500, "text/plain", lit "Failed to open UI asset.", []⟩
  | .found content =>
    ⟨200, "text/html; charset=utf-8", content, [(lit "Cache-Control", lit "no-cache")]⟩

/-- The `notFound` handler of `setupWebUi`. -/
def notFound (method : HTTPMethod) (apIp : Str) : Response :=
  if method = .get then redirectCaptivePortal apIp else ⟨404, "text/plain", lit "Not found", []⟩

end RcController
