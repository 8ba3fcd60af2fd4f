import RcController.Lib.UrlForm
import RcController.Model.WebServer
import RcController.Service.Json

/-!
# Forms on the wire

The page sends the parameters of a call as a URL-encoded form. `_parseArguments` walks along
the text by indices and skips what has no value; on a text without NULs that comes to cutting
it at the ampersands and each part at its first equals sign (`parseArguments_eq_fields`), by
induction on the rounds of its loop. So it reads the form that was written
(`parseArguments_formText`).

Around the form stand the request line and the header. Whatever else the header says and in
whatever order, as long as it names the type and the length of the form, `_parseRequest` finds
the address and the parameters (`parseRequest_postText`). What the server keeps from an earlier
request stays: a form of this kind neither reads the `_postArgs` nor empties them.
-/

namespace RcController

open UrlForm

namespace WebServer

/-! ### Arguments -/

/-- What does not occur does not end a text. -/
theorem takeWhile_ne_eq_self {s : Str} {c : UInt8} (h : c ∉ s) : s.takeWhile (· ≠ c) = s := by
  rw [List.takeWhile_eq_self_iff]
  intro d hd
  simpa using fun heq : d = c => h (heq ▸ hd)

/-- Without NULs, `indexOf` is the index of the first occurrence. -/
theorem indexOf_eq {s : Str} (h : 0 ∉ s) (c : UInt8) : indexOf c s = s.idxOf? c := by
  rw [indexOf, takeWhile_ne_eq_self h]

/-- A byte that starts no code stands for itself, but for a plus sign. -/
theorem urlDecode_cons {c : UInt8} (h : c ≠ 37) (text : Str) :
    urlDecode (c :: text) = (if c = 43 then 32 else c) :: urlDecode text := by
  rw [urlDecode]
  intro d e rest heq
  exact absurd heq h

/-- The decoder of the server undoes each way of writing a byte. It is more
lenient than that, which does not matter for texts that were encoded. -/
theorem decodes_urlDecode : Decodes urlDecode where
  nil := rfl
  kept {c} hc s := by
    -- a byte that is kept is neither of the two that the decoder treats apart
    have hplus : c ≠ 43 := by
      rintro rfl
      exact absurd hc (by decide)
    have hpercent : c ≠ 37 := by
      rintro rfl
      exact absurd hc (by decide)
    rw [urlDecode_cons hpercent, if_neg hplus]
  space s := urlDecode_cons (by decide) s
  percent c s := by
    -- two hexadecimal digits give back each of the 256 bytes
    have hall : ∀ n < 256, strtolHex (hexDigit (n / 16)) (hexDigit (n % 16)) = UInt8.ofNat n := by
      decide +kernel
    have hc := hall c.toNat c.toNat_lt
    rw [UInt8.ofNat_toNat] at hc
    rw [urlDecode, hc]

/-- The loop of `_parseArguments` takes a text apart, by induction on its
rounds: the array has room for what is left, so only the end of the text ends
it. -/
theorem parseArgumentsLoop_eq {fuel left : ℕ} {data : Str} (hfuel : data.length < fuel)
    (hleft : data.count 38 < left) (hnul : 0 ∉ data) :
    parseArgumentsLoop fuel left data = fields urlDecode data := by
  induction fuel generalizing left data with
  | zero => exact absurd hfuel (Nat.not_lt_zero _)
  | succ fuel ih =>
    obtain ⟨left, rfl⟩ : ∃ k, left = k + 1 := ⟨left - 1, by omega⟩
    rw [parseArgumentsLoop, indexOf_eq hnul, indexOf_eq hnul]
    cases hamp : data.idxOf? 38 with
    | none =>
      rw [fields_of_notMem (List.idxOf?_eq_none_iff.mp hamp), field]
      cases data.idxOf? 61 <;> rfl
    | some next =>
      obtain ⟨part, rest, rfl, hpart, rfl⟩ := exists_append_of_idxOf? hamp
      have hdrop : (part ++ 38 :: rest).drop (part.length + 1) = rest := by simp
      rw [fields_append_cons hpart]
      -- behind the first ampersand the loop does what `fields` does, by induction
      have hrest : ∀ n, rest.count 38 < n →
          parseArgumentsLoop fuel n rest = fields urlDecode rest := by
        intro n hn
        refine ih ?_ hn fun hmem => hnul ?_
        · simp only [List.length_append, List.length_cons] at hfuel
          omega
        · exact List.mem_append_right _ (List.mem_cons_of_mem _ hmem)
      have hcount : rest.count 38 < left := by
        rw [List.count_append, List.count_cons_self] at hleft
        omega
      by_cases hequal : 61 ∈ part
      · -- the argument ends at the ampersand
        obtain ⟨name, value, rfl, hname⟩ := List.eq_append_cons_of_mem hequal
        have hidx : ((name ++ 61 :: value) ++ 38 :: rest).idxOf? 61 = some name.length := by
          rw [List.append_assoc, List.cons_append, idxOf?_append_cons hname]
        have hdropName : (name ++ 61 :: value).drop (name.length + 1) = value := by simp
        have htake : ((name ++ 61 :: value) ++ 38 :: rest).take name.length = name := by
          rw [List.append_assoc, List.take_left]
        rw [hidx]
        simp only [htake, List.take_left, hdropName, hdrop, hrest left hcount]
        rw [if_neg (by simp), field_append_cons hname]
        rfl
      · -- it has no equals sign, and the first one, if any, stands behind the ampersand
        have hskip := hrest (left + 1) (by omega)
        rw [field_of_notMem hequal]
        cases hidx : (part ++ 38 :: rest).idxOf? 61 with
        | none => simp only [hdrop, hskip, Option.toList_none, List.nil_append]
        | some equal =>
          have hlt := length_lt_of_idxOf? hequal (by decide) hidx
          simp only [if_pos hlt, hdrop, hskip, Option.toList_none, List.nil_append]

/-- **What `_parseArguments` finds**: the parts between ampersands that have an
equals sign. Both the array and the rounds suffice, as there are no more parts
than ampersands and one. -/
theorem parseArguments_eq_fields {data : Str} (hnul : 0 ∉ data) :
    parseArguments data = fields urlDecode data := by
  unfold parseArguments
  split
  · next hempty =>
    subst hempty
    rfl
  · refine parseArgumentsLoop_eq (Nat.lt_succ_self _) ?_ hnul
    rw [takeWhile_ne_eq_self hnul]
    omega

/-- So it reads a form that was written down. -/
theorem parseArguments_formText (params : List RequestArgument) :
    parseArguments (formText params) = params := by
  rw [parseArguments_eq_fields (zero_notMem_formText params), decodes_urlDecode.fields_formText]

/-! ### Header -/

/-- A line ends at its carriage return, and the byte after that is dropped. -/
theorem readLine_append {line : Str} (h : 13 ∉ line) (rest : Str) :
    readLine (line ++ 13 :: 10 :: rest) = (line, rest) := by
  have hall : ∀ c ∈ line, decide (c ≠ 13) = true := fun c hc =>
    decide_eq_true fun heq => h (heq ▸ hc)
  simp only [readLine, readStringUntil]
  rw [List.takeWhile_append_of_pos hall, List.dropWhile_append_of_pos hall]
  simp

/-- The space behind the colon is trimmed. -/
theorem trim_space (s : Str) : Str.trim (32 :: s) = Str.trim s := rfl

/-- The text of the lines of a header. -/
def headerText (hs : List RequestArgument) : Str :=
  hs.flatMap fun h => h.1 ++ 58 :: 32 :: h.2 ++ [13, 10]

/-- A header field that is one line with a name and a value. -/
structure HeaderOk (h : RequestArgument) : Prop where
  name_ne : h.1 ≠ []
  name : ∀ c ∈ h.1, c ≠ 0 ∧ c ≠ 13 ∧ c ≠ 58
  value : 13 ∉ h.2

/-- What the loop over the header makes of it, line by line. -/
def bodyHeader (h : BodyHeader) (hs : List RequestArgument) : BodyHeader :=
  hs.foldl (fun h f => parseHeader f.1 (Str.trim f.2) h) h

/-- The header is read line by line, by induction on its lines. -/
theorem parseHeaders_headerText {hs : List RequestArgument} (hok : ∀ f ∈ hs, HeaderOk f) {fuel : ℕ}
    (hfuel : hs.length < fuel) (h : BodyHeader) (body : Str) :
    parseHeaders fuel h (headerText hs ++ 13 :: 10 :: body) = (bodyHeader h hs, body) := by
  induction hs generalizing fuel h with
  | nil =>
    obtain ⟨fuel, rfl⟩ : ∃ k, fuel = k + 1 := ⟨fuel - 1, by simp at hfuel; omega⟩
    have hline : readLine (13 :: 10 :: body) = ([], body) := readLine_append List.not_mem_nil body
    rw [headerText, List.flatMap_nil, List.nil_append, parseHeaders, hline]
    rfl
  | cons f hs ih =>
    obtain ⟨fuel, rfl⟩ : ∃ k, fuel = k + 1 := ⟨fuel - 1, by simp at hfuel; omega⟩
    have hf := hok f List.mem_cons_self
    have hnul : ∀ c ∈ f.1, decide (c ≠ 0) = true := fun c hc => decide_eq_true (hf.name c hc).1
    have hline : 13 ∉ f.1 ++ 58 :: 32 :: f.2 := by
      rw [List.mem_append, List.mem_cons, List.mem_cons]
      rintro (hmem | heq | heq | hmem)
      · exact (hf.name 13 hmem).2.1 rfl
      · exact absurd heq (by decide)
      · exact absurd heq (by decide)
      · exact hf.value hmem
    have htext : headerText (f :: hs) ++ 13 :: 10 :: body =
        (f.1 ++ 58 :: 32 :: f.2) ++ 13 :: 10 :: (headerText hs ++ 13 :: 10 :: body) := by
      simp [headerText]
    -- the name ends at the first colon of the line
    have hdiv : indexOf 58 (f.1 ++ 58 :: 32 :: f.2) = some f.1.length := by
      rw [indexOf, List.takeWhile_append_of_pos hnul, List.takeWhile_cons_of_pos (by decide)]
      exact idxOf?_append_cons (fun hmem => (hf.name 58 hmem).2.2 rfl) _
    have hne : (f.1 ++ 58 :: 32 :: f.2).takeWhile (· ≠ 0) ≠ [] := by
      rw [List.takeWhile_append_of_pos hnul]
      simp [hf.name_ne]
    have hdrop : (f.1 ++ 58 :: 32 :: f.2).drop (f.1.length + 1) = 32 :: f.2 := by simp
    rw [htext, parseHeaders, readLine_append hline]
    simp only [if_neg hne, hdiv, List.take_left, hdrop, trim_space]
    exact ih (fun g hg => hok g (List.mem_cons_of_mem f hg)) (by simpa using hfuel) _

def isType (f : RequestArgument) : Bool := Str.equalsIgnoreCase f.1 (lit "Content-Type")

def isLength (f : RequestArgument) : Bool := Str.equalsIgnoreCase f.1 (lit "Content-Length")

/-- The header names the type and the length of the form. It may say so more
than once, but not otherwise. -/
structure AnnouncesForm (hs : List RequestArgument) (n : ℕ) : Prop where
  hasType : ∃ f ∈ hs, isType f = true
  hasLength : ∃ f ∈ hs, isLength f = true
  type : ∀ f ∈ hs, isType f = true →
    (lit "application/x-www-form-urlencoded").isPrefixOf (Str.trim f.2) = true
  length : ∀ f ∈ hs, isLength f = true → (Str.trim f.2).toInt = n

/-- The two names are not the same. -/
theorem isLength_of_isType {f : RequestArgument} (h : isType f = true) : isLength f = false := by
  unfold isType Str.equalsIgnoreCase at h
  unfold isLength Str.equalsIgnoreCase
  split at h
  · cases h
  · next hlen =>
    -- the two names differ in length
    have htype : f.1.length = 12 := by
      rw [not_not.mp hlen]
      decide +kernel
    have hlength : (lit "Content-Length").length = 14 := by decide +kernel
    rw [if_pos]
    rw [htype, hlength]
    decide

/-- One line of a header that announces a form of length `n`. -/
theorem parseHeader_spec {f : RequestArgument} {n : ℤ} {h : BodyHeader}
    (htype : isType f = true →
      (lit "application/x-www-form-urlencoded").isPrefixOf (Str.trim f.2) = true)
    (hlength : isLength f = true → (Str.trim f.2).toInt = n) :
    let h' := parseHeader f.1 (Str.trim f.2) h
    h'.isForm = (if isType f then false else h.isForm) ∧
      h'.isEncoded = (isType f || h.isEncoded) ∧
      h'.clientContentLength = if isLength f then n else h.clientContentLength := by
  intro h'
  cases hf : isType f with
  | true =>
    -- a content type of a form that is not multipart
    have hprefix := htype hf
    have hplain : (lit "text/plain").isPrefixOf (Str.trim f.2) = false := by
      obtain ⟨rest, hrest⟩ := List.isPrefixOf_iff_prefix.mp hprefix
      rw [← hrest]
      rfl
    have hh : h' = { h with isForm := false, isEncoded := true } := by
      have hname : Str.equalsIgnoreCase f.1 (lit "Content-Type") = true := hf
      change parseHeader f.1 (Str.trim f.2) h = _
      rw [parseHeader, hname, hplain, hprefix]
      rfl
    rw [hh, isLength_of_isType hf]
    exact ⟨rfl, rfl, rfl⟩
  | false =>
    have hh : h' = if isLength f then { h with clientContentLength := (Str.trim f.2).toInt }
        else h := by
      have hname : Str.equalsIgnoreCase f.1 (lit "Content-Type") = false := hf
      change parseHeader f.1 (Str.trim f.2) h = _
      rw [parseHeader, hname]
      rfl
    rw [hh]
    cases hl : isLength f with
    | true => exact ⟨rfl, rfl, hlength hl⟩
    | false => exact ⟨rfl, rfl, rfl⟩

/-- The lines of a header that announces a form, by induction on them. -/
theorem bodyHeader_spec {hs : List RequestArgument} {n : ℤ} {h : BodyHeader}
    (htype : ∀ f ∈ hs, isType f = true →
      (lit "application/x-www-form-urlencoded").isPrefixOf (Str.trim f.2) = true)
    (hlength : ∀ f ∈ hs, isLength f = true → (Str.trim f.2).toInt = n) (hform : h.isForm = false) :
    (bodyHeader h hs).isForm = false ∧
      (bodyHeader h hs).isEncoded = (hs.any isType || h.isEncoded) ∧
      (bodyHeader h hs).clientContentLength =
        if hs.any isLength then n else h.clientContentLength := by
  induction hs generalizing h with
  | nil => exact ⟨hform, rfl, rfl⟩
  | cons f hs ih =>
    obtain ⟨hform', hencoded', hlength'⟩ := parseHeader_spec (h := h)
      (htype f List.mem_cons_self) (hlength f List.mem_cons_self)
    obtain ⟨h1, h2, h3⟩ := ih (h := parseHeader f.1 (Str.trim f.2) h)
      (fun g hg => htype g (List.mem_cons_of_mem f hg))
      (fun g hg => hlength g (List.mem_cons_of_mem f hg)) (by rw [hform', hform, ite_self])
    -- the rest of the lines decides, and this line where they are silent
    refine ⟨h1, ?_, ?_⟩
    · refine h2.trans ?_
      rw [hencoded', List.any_cons]
      cases isType f <;> simp
    · refine h3.trans ?_
      rw [hlength', List.any_cons]
      cases isLength f with
      | true => rw [Bool.true_or, if_pos rfl, ite_self]
      | false => rw [Bool.false_or, if_neg Bool.false_ne_true]

/-- So the header is one of an encoded form with its length. -/
theorem AnnouncesForm.bodyHeader {hs : List RequestArgument} {n : ℕ} (h : AnnouncesForm hs n) :
    (bodyHeader {} hs).isForm = false ∧ (bodyHeader {} hs).isEncoded = true ∧
      (bodyHeader {} hs).clientContentLength = n := by
  obtain ⟨hform, hencoded, hlength⟩ := bodyHeader_spec (h := {}) h.type h.length rfl
  refine ⟨hform, ?_, ?_⟩
  · rw [hencoded, List.any_eq_true.mpr h.hasType, Bool.true_or]
  · rw [hlength, List.any_eq_true.mpr h.hasLength, if_pos rfl]

/-! ### Requests -/

/-- An address that stands in a request line as it is. -/
def UriOk (uri : Str) : Prop := ∀ c ∈ uri, c ≠ 0 ∧ c ≠ 13 ∧ c ≠ 32 ∧ c ≠ 63

/-- The bytes of a call: the request line, the header, an empty line and the
form. -/
def postText (uri : Str) (hs params : List RequestArgument) : Str :=
  lit "POST" ++ 32 :: (uri ++ 32 :: lit "HTTP/1.1") ++ 13 :: 10 ::
    (headerText hs ++ 13 :: 10 :: formText params)

/-- The request line is taken apart at its spaces. -/
theorem parseRequestLine_post (env : HttpEnv) {uri : Str} (huri : UriOk uri) :
    parseRequestLine env (lit "POST" ++ 32 :: (uri ++ 32 :: lit "HTTP/1.1"))
      = some ⟨.post, uri, []⟩ := by
  have hversion : (0 : UInt8) ∉ (lit "HTTP/1.1") := by decide +kernel
  -- no NUL in the line, so `indexOf` looks at all of it
  have hrest : (0 : UInt8) ∉ uri ++ 32 :: lit "HTTP/1.1" := by
    rw [List.mem_append, List.mem_cons]
    rintro (hmem | heq | hmem)
    · exact (huri 0 hmem).1 rfl
    · exact absurd heq (by decide)
    · exact hversion hmem
  have hline : (0 : UInt8) ∉ lit "POST" ++ 32 :: (uri ++ 32 :: lit "HTTP/1.1") := by
    rw [List.mem_append, List.mem_cons]
    rintro (hmem | heq | hmem)
    · exact absurd hmem (by decide +kernel)
    · exact absurd heq (by decide)
    · exact hrest hmem
  have hmethod : parseMethod env (lit "POST") = some .post := by
    have hname : (lit "POST").takeWhile (· ≠ 0) = lit "POST" := by decide +kernel
    have hget : lit "POST" ≠ lit "GET" := by decide +kernel
    simp only [parseMethod, hname, if_neg hget, if_true]
  have hdrop : (lit "POST" ++ 32 :: (uri ++ 32 :: lit "HTTP/1.1")).drop ((lit "POST").length + 1)
      = uri ++ 32 :: lit "HTTP/1.1" := by simp
  -- the route has no question mark and so no search string
  have hsearch : indexOf 63 uri = none := by
    rw [indexOf_eq fun hmem => (huri 0 hmem).1 rfl, List.idxOf?_eq_none_iff]
    exact fun hmem => (huri 63 hmem).2.2.2 rfl
  rw [parseRequestLine, indexOf_eq hline, idxOf?_append_cons (by decide +kernel)]
  simp only [hdrop]
  rw [indexOf_eq hrest, idxOf?_append_cons fun hmem => (huri 32 hmem).2.2.1 rfl]
  simp only [List.take_left, hmethod, hsearch]

/-- **Calls of the page.** Whatever else its header says, `_parseRequest` finds
the address and the parameters, and the server stays as it was. -/
theorem parseRequest_postText (env : HttpEnv) (server : WebServer) {uri : Str} (huri : UriOk uri)
    {hs params : List RequestArgument} (hok : ∀ f ∈ hs, HeaderOk f)
    (hform : AnnouncesForm hs (formText params).length) :
    parseRequest env server (postText uri hs params) =
      .request ⟨.post, uri, params⟩ server := by
  have hline : (13 : UInt8) ∉ lit "POST" ++ 32 :: (uri ++ 32 :: lit "HTTP/1.1") := by
    simp only [List.mem_append, List.mem_cons]
    rintro (hmem | heq | hmem | heq | hmem)
    · exact absurd hmem (by decide +kernel)
    · exact absurd heq (by decide)
    · exact (huri 13 hmem).2.1 rfl
    · exact absurd heq (by decide)
    · exact absurd hmem (by decide +kernel)
  have hfuel : hs.length < (headerText hs ++ 13 :: 10 :: formText params).length + 1 := by
    have hlines : hs.length ≤ (headerText hs).length := by
      rw [headerText, List.length_flatMap]
      refine le_trans ?_ (List.length_le_sum_of_one_le _ ?_)
      · rw [List.length_map]
      · intro n hn
        obtain ⟨f, -, rfl⟩ := List.mem_map.mp hn
        simp only [List.length_append, List.length_cons]
        omega
    rw [List.length_append]
    omega
  obtain ⟨hisForm, hencoded, hlength⟩ := hform.bodyHeader
  have hbody : parsePlainBody (bodyHeader {} hs) [] (formText params) = some params := by
    have hle : ((formText params).length : ℤ) ≤ 2147483647 := by
      -- the value of the header is an `int`
      obtain ⟨f, hf, hname⟩ := hform.hasLength
      rw [← hform.length f hf hname]
      exact (constrain_mem _ (by decide)).2
    have hmod : ((formText params).length : ℤ) % 4294967296 = (formText params).length := by omega
    have hnul := zero_notMem_formText params
    rw [parsePlainBody, hencoded, hlength, hmod]
    simp only [lt_self_iff_false, if_false, ne_eq, not_true_eq_false, if_true, List.nil_append]
    rw [takeWhile_ne_eq_self hnul, parseArguments_formText]
    split
    · rfl
    · next hzero =>
      -- an empty form has no parameters
      have hnil : formText params = [] := List.length_eq_zero_iff.mp (by omega)
      have hparams := parseArguments_formText params
      rw [hnil] at hparams
      rw [← hparams]
  have hmethod : HTTPMethod.post.hasBody = true := by decide
  rw [parseRequest, postText, readLine_append hline]
  simp only [parseRequestLine_post env huri, hmethod, if_true]
  rw [parseHeaders_headerText hok hfuel]
  simp only [hisForm, Bool.false_eq_true, if_false, hbody]

/-! ### Arguments of a handler -/

/-- A server that keeps no arguments of its own lets a handler find those of the
form. -/
theorem argsOf_of_postArgs {server : WebServer} (h : server.postArgs = [])
    (params : List RequestArgument) : argsOf server params = formArgs params := by
  funext p
  rw [argsOf, h]
  rfl

end WebServer

end RcController
