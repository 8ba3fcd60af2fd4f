import RcController.Model.WebServer
import RcController.Service.Writing
import RcController.Store.Suggest
import Mathlib.Data.List.MinMax

/-!
# What the API answers

The page reads every answer of the API as JSON and looks at the member `ok`. Most answers are
built by `sendJson`, which escapes. The answer for a built-in model and those of the learn
mode are put together by hand, and are well formed because of what goes into them: a suggested
name has the characters of a preset name only, whatever the storage answers
(`reply_clean`), and a label comes from the table of inputs.
-/

namespace RcController

open Json DeviceProg

/-! ### Texts that need no escape -/

/-- A text that the writer would leave as it is. -/
def Clean (s : Str) : Prop := JsonWriter.escape s = s

instance (s : Str) : Decidable (Clean s) := inferInstanceAs (Decidable (_ = _))

/-- A text is clean when each of its bytes is. -/
theorem clean_of_forall {s : Str} (h : ∀ c ∈ s, JsonWriter.escapeChar c = [c]) : Clean s := by
  unfold Clean JsonWriter.escape
  calc s.flatMap JsonWriter.escapeChar = s.flatMap fun c => [c] := by
        rw [List.flatMap_def, List.flatMap_def, List.map_congr_left h]
    _ = s := List.flatMap_singleton' s

/-- The characters of names are, so names are clean. -/
theorem escapeChar_of_nameCharOk {c : UInt8} (h : nameCharOk c = true) :
    JsonWriter.escapeChar c = [c] := by
  have hall : ∀ n < 256, nameCharOk (UInt8.ofNat n) = true →
      JsonWriter.escapeChar (UInt8.ofNat n) = [UInt8.ofNat n] := by decide +kernel
  have hc := hall c.toNat c.toNat_lt
  rw [UInt8.ofNat_toNat] at hc
  exact hc h

theorem clean_of_nameChars {s : Str} (h : ∀ c ∈ s, nameCharOk c = true) : Clean s :=
  clean_of_forall fun c hc => escapeChar_of_nameCharOk (h c hc)

/-- A clean string between quotes is a string of a document. -/
theorem quoted_of_clean {s : Str} (h : Clean s) : writerPrinter.quoted s = 34 :: s ++ [34] := by
  change 34 :: (JsonWriter.escape s ++ [34]) = _
  rw [h]
  rfl

/-! ### Answers -/

/-- The document of an answer: whether the request was carried out, and a
message. -/
def sendJsonDoc (ok : Bool) (message : Str) : Doc :=
  .object ((lit "ok", boolDoc ok) ::
    if message ≠ [] then [(lit "message", .string message)] else [])

/-- Its scalars are those of JSON. -/
theorem strict_sendJsonDoc (ok : Bool) (message : Str) :
    (sendJsonDoc ok message).strict = true := by
  refine Doc.strict_object ?_
  split <;> simp

/-- **What `sendJson` sends** is read as this document, and the code goes with
it. -/
theorem sendJson_spec (ok : Bool) (message : Str) :
    ∃ body, sendJson ok message = some (.json (if ok then 200 else 400) body) ∧
      Doc.parse body = some (sendJsonDoc ok message) := by
  -- an empty message is left out
  have hwrites : WritesDoc 1 (do
      Writing.beginObject
      Writing.key "ok"
      Writing.valueBool ok
      if message ≠ [] then do
        Writing.key "message"
        Writing.valueString message
        Writing.endObject
      else Writing.endObject) (sendJsonDoc ok message) := by
    refine .object (.member (by decide +kernel) (.valueBool ok) ?_)
    split
    · exact .member (by decide +kernel) (.valueString message) .endObject
    · exact .endObject
  obtain ⟨body, hbody, hparse⟩ := str_of_writesDoc hwrites (by decide)
  refine ⟨body, ?_, Doc.parse_of_scan hparse (strict_sendJsonDoc ok message)⟩
  rw [sendJson, hbody]
  rfl

/-- The document of the answer for a built-in model, which suggests a name for a
fork. -/
def readonlyDoc (suggested base : Str) : Doc :=
  .object
    [(lit "ok", boolDoc false),
     (lit "readonly", boolDoc true),
     (lit "message", .string (lit "Readonly preset: create a fork to save changes")),
     (lit "suggested_name", .string suggested),
     (lit "base", .string base)]

/-- Its scalars are those of JSON too. -/
theorem strict_readonlyDoc (suggested base : Str) : (readonlyDoc suggested base).strict = true := by
  refine Doc.strict_object ?_
  simp

/-- The text put together by hand is read as this document when nothing in it
needs an escape. -/
theorem parse_readonlyJson {suggested base : Str} (hsuggested : Clean suggested)
    (hbase : Clean base) :
    Doc.parse (readonlyJson suggested base) = some (readonlyDoc suggested base) := by
  have htext : readonlyJson suggested base = (readonlyDoc suggested base).text writerPrinter := by
    -- the texts around the two names are the tokens around them
    have hfront : lit "\x7b\"ok\":false,\"readonly\":true,"
        ++ lit "\"message\":\"Readonly preset: create a fork to save changes\","
        ++ lit "\"suggested_name\":\"" = textOf writerPrinter
          [.mark .openObject, .string (lit "ok"), .mark .colon, .word (boolWord false),
           .mark .comma, .string (lit "readonly"), .mark .colon, .word (boolWord true),
           .mark .comma, .string (lit "message"), .mark .colon,
           .string (lit "Readonly preset: create a fork to save changes"),
           .mark .comma, .string (lit "suggested_name"), .mark .colon] ++ [34] := by decide +kernel
    have hmiddle : lit "\",\"base\":\"" = 34 :: textOf writerPrinter
        [.mark .comma, .string (lit "base"), .mark .colon] ++ [34] := by decide +kernel
    have hback : lit "\"\x7d" = 34 :: textOf writerPrinter [.mark .closeObject] := by
      decide +kernel
    rw [readonlyJson, hfront, hmiddle, hback, readonlyDoc, Doc.text, Doc.tokens]
    simp only [Doc.memberTokens, Doc.tokens, textOf_cons, textOf_nil, Token.text, boolDoc,
      quoted_of_clean hsuggested, quoted_of_clean hbase, if_true, Bool.false_eq_true, if_false,
      List.append_assoc, List.nil_append, List.append_nil, List.cons_append]
  rw [htext, Doc.parse_text writerPrinter (strict_readonlyDoc suggested base)]

/-- The document of an answer. -/
def Reply.doc : Reply → Doc
  | .json ok message => sendJsonDoc ok (lit message)
  | .readonly suggested base => readonlyDoc suggested base

/-- The code of an answer. The page is told of a built-in model with a
success. -/
def Reply.code : Reply → ℕ
  | .json ok _ => if ok then 200 else 400
  | .readonly _ _ => 200

/-- What the page gets to know: the code, whether the request was carried out,
and the document. -/
structure Answer where
  code : ℕ
  ok : Bool
  doc : Doc

def Reply.answer (r : Reply) : Answer := ⟨r.code, r.ok, r.doc⟩

/-- What a reply puts into a text by hand needs no escape. -/
def Reply.Clean : Reply → Prop
  | .json _ _ => True
  | .readonly suggested base => RcController.Clean suggested ∧ RcController.Clean base

/-- A clean reply is sent as a JSON text, of its document. -/
theorem Reply.response_spec {r : Reply} (h : r.Clean) :
    ∃ body, r.response = some (.json r.code body) ∧ Doc.parse body = some r.doc := by
  cases r with
  | json ok message => exact sendJson_spec ok (lit message)
  | readonly suggested base => exact ⟨_, rfl, parse_readonlyJson h.1 h.2⟩

/-- The page finds in the answer whether the request was carried out. -/
theorem Reply.field_ok (r : Reply) :
    r.doc.field (lit "ok") = some (boolDoc r.ok) := by
  cases r with
  | json ok message =>
    have hne : lit "message" ≠ lit "ok" := by decide +kernel
    change (sendJsonDoc ok (lit message)).field (lit "ok") = _
    unfold sendJsonDoc Doc.field
    by_cases hempty : lit message = [] <;> simp [hempty, hne, Reply.ok]
  | readonly suggested base =>
    have h1 : lit "readonly" ≠ lit "ok" := by decide +kernel
    have h2 : lit "message" ≠ lit "ok" := by decide +kernel
    have h3 : lit "suggested_name" ≠ lit "ok" := by decide +kernel
    have h4 : lit "base" ≠ lit "ok" := by decide +kernel
    simp [Reply.doc, readonlyDoc, Doc.field, h1, h2, h3, h4, Reply.ok]

/-! ### Every request is answered so -/

/-- A candidate of the search has the characters of a name. -/
theorem nameChars_numbered {base : Str} (h : ∀ c ∈ base, nameCharOk c = true) (i : ℕ) :
    ∀ c ∈ base ++ lit "_" ++ Str.ofNat i, nameCharOk c = true := by
  intro c hc
  obtain hc | hdigit := List.mem_append.mp hc
  · obtain hbase | hline := List.mem_append.mp hc
    · exact h c hbase
    · have hall : ∀ c ∈ lit "_", nameCharOk c = true := by decide +kernel
      exact hall c hline
  · exact nameCharOk_of_isDigit ((ofNat_spec i).1 c hdigit)

/-- The search for a free suffix, by induction on the suffixes. What the
directory answers decides which candidate is returned, and all of them will
do. -/
theorem nextFreeSuffix_always {base : Str} (h : ∀ c ∈ base, nameCharOk c = true) (is : List ℕ) :
    (nextFreeSuffix base is).Always fun r => ∀ name, r = some name →
      ∀ c ∈ name, nameCharOk c = true := by
  induction is with
  | nil =>
    intro name hname
    cases hname
  | cons i is ih =>
    refine Prog.always_bind_of_forall _ fun taken => ?_
    cases taken with
    -- the number is free and names the preset, or the loop goes on
    | false =>
      intro name hname
      cases hname
      exact nameChars_numbered h i
    | true => exact ih

/-- **A suggested name is made of the characters of a name**, whatever the
storage answers. -/
theorem nextAvailable_always (baseName : Str) (millis : UInt32) :
    (nextAvailableCustomModelName baseName millis).Always fun name =>
      ∀ c ∈ name, nameCharOk c = true := by
  have hbase := (sanitizedName_sanitize baseName).chars
  refine Prog.always_bind_of_forall _ fun taken => ?_
  cases taken with
  | false => exact hbase
  | true =>
    refine Prog.Always.bind (nextFreeSuffix_always hbase _) fun found hfound => ?_
    cases found with
    | none => exact nameChars_numbered hbase _
    | some name => exact hfound name rfl

/-- The names of built-in models are clean. -/
theorem clean_of_isReadonlyModel {name : Str} (h : isReadonlyModel name = true) : Clean name := by
  unfold isReadonlyModel at h
  simp only [Bool.or_eq_true, decide_eq_true_eq] at h
  obtain (rfl | rfl) | rfl := h <;> decide +kernel

section Handlers

variable (b : Board) (millis : UInt32) (args : Args) (s : Sketch)

/-- An edit answers by `sendJson`, which escapes what it writes, so there is
nothing to show. -/
theorem clean_editOutput (i : OutputIdx) (record : OutputChannelConfig) (message : String) :
    (editOutput b i record message s).2.Clean := by
  unfold editOutput
  split <;> trivial

/-- Applying a preset answers by `sendJson`, whatever the storage says. -/
theorem clean_presetApply : (handleApiPresetApply b args s).Always fun x => x.2.Clean := by
  refine Prog.always_bind_of_forall _ fun loaded => ?_
  cases loaded with
  | error e => trivial
  | ok cfg =>
    refine Prog.always_bind_of_forall _ fun applied => ?_
    obtain ⟨s', _ | _⟩ := applied <;> trivial

/-- So does setting the boot model. -/
theorem clean_modelSetDefault : (handleApiModelSetDefault args s).Always fun x => x.2.Clean := by
  refine Prog.always_bind_of_forall _ fun loaded => ?_
  cases loaded with
  | error e => trivial
  | ok cfg =>
    refine Prog.always_bind_of_forall _ fun saved => ?_
    cases saved <;> trivial

/-- So does creating a model, in each of its errors. -/
theorem clean_modelCreate : (handleApiModelCreate b args s).Always fun x => x.2.Clean := by
  refine Prog.always_bind_of_forall _ fun config => ?_
  cases config with
  | error e => trivial
  | ok cfg =>
    refine Prog.always_bind_of_forall _ fun saved => ?_
    cases saved with
    | error e => trivial
    | ok _ =>
      refine Prog.always_bind_of_forall _ fun applied => ?_
      obtain ⟨s', _ | _⟩ := applied <;> trivial

/-- Saving has one answer that is put together by hand. Its base is the name of
a built-in model, and the suggestion comes from the search. -/
theorem clean_modelSaveCurrent :
    (handleApiModelSaveCurrent millis s).Always fun x => x.2.Clean := by
  unfold handleApiModelSaveCurrent
  split
  · next hreadonly =>
    refine Prog.Always.bind (nextAvailable_always _ millis) fun name hname => ?_
    exact ⟨clean_of_nameChars hname, clean_of_isReadonlyModel hreadonly⟩
  · refine Prog.always_bind_of_forall _ fun saved => ?_
    cases saved with
    | error e => trivial
    | ok _ => exact Prog.always_bind_of_forall _ fun _ => trivial

theorem clean_modelRevert : (handleApiModelRevert b s).Always fun x => x.2.Clean := by
  refine Prog.always_bind_of_forall _ fun loaded => ?_
  cases loaded with
  | error e => trivial
  | ok cfg =>
    refine Prog.always_bind_of_forall _ fun applied => ?_
    obtain ⟨s', _ | _⟩ := applied <;> trivial

/-- Deleting a model may end in any of several errors, all answered by
`sendJson`. -/
theorem clean_modelDelete : (handleApiModelDelete b args s).Always fun x => x.2.Clean := by
  unfold handleApiModelDelete
  dsimp only
  split
  · trivial
  · refine Prog.always_bind_of_forall _ fun deleted => ?_
    cases deleted with
    | error e => trivial
    | ok _ =>
      -- the deleted preset may be the current one
      have hend : ∀ t : Sketch,
          (if t.currentModelName = sanitizePresetName (args.arg .name) then
            (fallBackToBootModel b t).bind fun t' => .pure (t', Reply.json true "Preset deleted")
          else .pure (t, Reply.json true "Preset deleted") : NvsM (Sketch × Reply)).Always
            fun x => x.2.Clean := by
        intro t
        split
        · exact Prog.always_bind_of_forall _ fun _ => trivial
        · trivial
      dsimp only
      split
      · exact Prog.always_bind_of_forall _ fun _ => hend _
      · exact hend s

/-- So may a change of the access point. -/
theorem clean_apConfig (message : String) :
    (handleApConfig message args s).Always fun x => x.2.Clean := by
  unfold handleApConfig
  split
  · trivial
  · dsimp only
    split
    · trivial
    · -- two writes, and each of them may fail
      apply Prog.always_bind_of_forall
      intro savedSsid
      cases savedSsid with
      | false => trivial
      | true =>
        apply Prog.always_bind_of_forall
        intro savedPass
        cases savedPass <;> trivial

/-- **Whatever goes into an answer by hand needs no escape**, whatever the
storage answers. -/
theorem reply_clean (r : Request) : (handleRequest b millis r s).Always fun x => x.2.Clean := by
  unfold handleRequest
  cases r.endpoint with
  -- the handlers on the tables answer by `sendJson` alone
  | virtualAdd =>
    change (handleApiVirtualAdd r.args s).2.Clean
    unfold handleApiVirtualAdd
    split <;> trivial
  | virtualUpdate =>
    change (handleApiVirtualUpdate r.args s).2.Clean
    unfold handleApiVirtualUpdate
    split
    · trivial
    · split <;> trivial
  | virtualDelete =>
    change (handleApiVirtualDelete r.args s).2.Clean
    unfold handleApiVirtualDelete
    split
    · trivial
    · split <;> trivial
  | outputAdd =>
    change (handleApiOutputAdd b r.args s).2.Clean
    unfold handleApiOutputAdd
    split
    · trivial
    · exact clean_editOutput ..
  | outputUpdate =>
    change (handleApiOutputUpdate b r.args s).2.Clean
    unfold handleApiOutputUpdate
    split
    · trivial
    · split
      · trivial
      · exact clean_editOutput ..
  | outputDelete =>
    change (handleApiOutputDelete b r.args s).2.Clean
    unfold handleApiOutputDelete
    split
    · trivial
    · split
      · trivial
      · exact clean_editOutput ..
  -- those on the presets have lemmas of their own
  | presetApply => exact clean_presetApply b r.args s
  | modelSetDefault => exact clean_modelSetDefault r.args s
  | modelCreate => exact clean_modelCreate b r.args s
  | modelSaveCurrent => exact clean_modelSaveCurrent millis s
  | modelRevert => exact clean_modelRevert b s
  | modelDelete => exact clean_modelDelete b r.args s
  | apConfigSet => exact clean_apConfig r.args s _
  | apConfigApplyReboot => exact clean_apConfig r.args s _
  | pairingOn => trivial
  | pairingOff => trivial

end Handlers

end RcController
