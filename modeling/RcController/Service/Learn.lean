import RcController.Lib.FirstBest
import RcController.Service.Replies

/-!
# The learn mode

While the learn mode of the page runs, it asks which input is being moved and takes the answer
over into a menu of the inputs. `detectDominantInput` goes through its candidates with one
comparison and finds the first of the strongest ones (`detectDominantInput_spec`). The answer is
an input of the menu, under the label it has there (`learn_detect`).
-/

namespace RcController

open Json FirstBest

/-! ### The menu -/

/-- The inputs of the menu. The handler leaves out the two buttons that the
triggers stand for as well. -/
def listedInputs : List InputDefinition :=
  kInputs.filter fun d => ¬ (d.id = .buttonL2 ∨ d.id = .buttonR2)

def inputDoc (d : InputDefinition) : Doc :=
  .object [(lit "id", intDoc d.id.toNat), (lit "label", .string (lit d.label))]

/-- The document of the menu has no scalar that is not one of JSON. -/
theorem strict_menu : (Doc.array (listedInputs.map inputDoc)).strict = true := by
  refine Doc.strict_array fun d hd => ?_
  obtain ⟨i, -, rfl⟩ := List.mem_map.mp hd
  refine Doc.strict_object ?_
  simp

/-- The page reads the menu as this document. -/
theorem buildInputsJson_spec : ∃ body, buildInputsJson = some body ∧
    Doc.parse body = some (.array (listedInputs.map inputDoc)) := by
  -- one round of the loop writes one entry; the two triggers are left out
  have hitem : ∀ d : InputDefinition, Items 1
      (if d.id = .buttonL2 ∨ d.id = .buttonR2 then pure ()
        else do
          Writing.beginObject
          Writing.key "id"
          Writing.valueInt d.id.toNat
          Writing.key "label"
          Writing.valueString (lit d.label)
          Writing.endObject)
      (if d.id = .buttonL2 ∨ d.id = .buttonR2 then [] else [inputDoc d]) := by
    intro d
    split
    · exact .none
    · refine .value (.object (.member (by decide +kernel) (.valueInt _) ?_))
      exact .member (by decide +kernel) (.valueString _) .endObject
  obtain ⟨body, hbody, hscan⟩ := str_of_writesDoc (.array (.forM hitem kInputs)) (by decide)
  exact ⟨body, hbody, Doc.parse_of_scan (hscan.trans rfl) strict_menu⟩

/-! ### The strongest input -/

/-- A candidate that is moved far enough to count. -/
def Moved (ctl : Snapshot) (c : InputId × ℚ × Bool) : Prop := c.2.1 ≤ candidateValue ctl c

instance (ctl : Snapshot) : DecidablePred (Moved ctl) := fun c =>
  inferInstanceAs (Decidable (c.2.1 ≤ candidateValue ctl c))

/-- Every candidate has a threshold above zero, so an input at rest never
counts. -/
theorem threshold_pos : ∀ c ∈ dominantCandidates, 0 < c.2.1 := by decide +kernel

/-- The loop of `detectDominantInput` is the scan for the first of the best. -/
theorem detectDominantInput_eq (ctl : Snapshot) : detectDominantInput ctl =
    ((scan (Moved ctl) (candidateValue ctl) 0 dominantCandidates).1.map Prod.fst).getD .none := by
  unfold detectDominantInput scan
  -- the code keeps the input of the candidate that the scan keeps
  have hhom : ∀ (l : List (InputId × ℚ × Bool)) (best : Option (InputId × ℚ × Bool) × ℚ),
      l.foldl (fun best c => if c.2.1 ≤ candidateValue ctl c ∧ best.2 < candidateValue ctl c
        then (c.1, candidateValue ctl c) else best) ((best.1.map Prod.fst).getD .none, best.2) =
      (((l.foldl (fun best c => if Moved ctl c ∧ best.2 < candidateValue ctl c
        then (some c, candidateValue ctl c) else best) best).1.map Prod.fst).getD .none,
        (l.foldl (fun best c => if Moved ctl c ∧ best.2 < candidateValue ctl c
          then (some c, candidateValue ctl c) else best) best).2) := by
    intro l
    induction l with
    | nil => exact fun best => rfl
    | cons c l ih =>
      intro best
      rw [List.foldl_cons, List.foldl_cons, ← ih]
      by_cases h : Moved ctl c ∧ best.2 < candidateValue ctl c
      · rw [if_pos h, if_pos (show c.2.1 ≤ candidateValue ctl c ∧ _ from h)]
        rfl
      · rw [if_neg h, if_neg (show ¬ (c.2.1 ≤ candidateValue ctl c ∧ _) from h)]
  exact congrArg Prod.fst (hhom dominantCandidates (none, 0))

/-- **The input that is found** is the first of the strongest ones. Ties go to
the candidate that stands earlier in the list. -/
theorem detectDominantInput_spec (ctl : Snapshot) :
    (detectDominantInput ctl = .none ∧ ∀ c ∈ dominantCandidates, ¬ Moved ctl c) ∨
      ∃ c, detectDominantInput ctl = c.1 ∧
        FirstBest (Moved ctl) (candidateValue ctl) dominantCandidates c := by
  have hscan : Found (Moved ctl) (candidateValue ctl) 0 dominantCandidates
      (scan (Moved ctl) (candidateValue ctl) 0 dominantCandidates) :=
    scan_spec fun c hc hmoved => (threshold_pos c hc).trans_le hmoved
  rw [detectDominantInput_eq]
  generalize scan (Moved ctl) (candidateValue ctl) 0 dominantCandidates = found at hscan
  obtain ⟨_ | c, v⟩ := found
  · exact .inl ⟨rfl, hscan.2⟩
  · exact .inr ⟨c, rfl, hscan.2⟩

/-! ### The answer -/

/-- The answer that an input was found. -/
def learnDoc (d : InputDefinition) : Doc :=
  .object
    [(lit "ok", boolDoc true),
     (lit "input", intDoc d.id.toNat),
     (lit "label", .string (lit d.label))]

/-- The answer that none was found, with the reason. -/
def noInputDoc (message : String) : Doc :=
  .object
    [(lit "ok", boolDoc false),
     (lit "message", .string (lit message))]

/-- The definition of the input that was found. -/
def foundInput (ctl : Snapshot) : Option InputDefinition :=
  if detectDominantInput ctl = .none then none else getInputDefinition (detectDominantInput ctl)

/-- The answer to a report of the gamepad, or to none. -/
def learnAnswer (gamepad : Option Snapshot) : Answer :=
  match gamepad with
  | none => ⟨400, false, noInputDoc "No gamepad connected"⟩
  | some ctl =>
    match foundInput ctl with
    | none => ⟨200, false, noInputDoc "No active input"⟩
    | some d => ⟨200, true, learnDoc d⟩

/-- Its two cases with a gamepad: nothing is moved, or an input is. -/
theorem learnAnswer_of_none {ctl : Snapshot} (h : foundInput ctl = none) :
    learnAnswer (some ctl) = ⟨200, false, noInputDoc "No active input"⟩ := by
  unfold learnAnswer
  dsimp only
  rw [h]

theorem learnAnswer_of_some {ctl : Snapshot} {d : InputDefinition} (h : foundInput ctl = some d) :
    learnAnswer (some ctl) = ⟨200, true, learnDoc d⟩ := by
  unfold learnAnswer
  dsimp only
  rw [h]

/-- The page finds in the answer whether there is an input. -/
theorem field_ok_learnAnswer (gamepad : Option Snapshot) :
    (learnAnswer gamepad).doc.field (lit "ok") = some (boolDoc (learnAnswer gamepad).ok) := by
  have h1 : lit "message" ≠ lit "ok" := by decide +kernel
  have h2 : lit "input" ≠ lit "ok" := by decide +kernel
  have h3 : lit "label" ≠ lit "ok" := by decide +kernel
  unfold learnAnswer
  split
  · simp [noInputDoc, Doc.field, h1]
  · split
    · simp [noInputDoc, Doc.field, h1]
    · simp [learnDoc, Doc.field, h2, h3]

/-- Both documents are strict. -/
theorem strict_learnDoc (d : InputDefinition) : (learnDoc d).strict = true := by
  refine Doc.strict_object ?_
  simp

theorem strict_noInputDoc (message : String) : (noInputDoc message).strict = true := by
  refine Doc.strict_object ?_
  simp

/-- The two answers without an input are put together by hand, and are read as
these documents. -/
theorem parse_noInputJson :
    Doc.parse (lit "\x7b\"ok\":false,\"message\":\"No gamepad connected\"\x7d")
        = some (noInputDoc "No gamepad connected") ∧
      Doc.parse (lit "\x7b\"ok\":false,\"message\":\"No active input\"\x7d")
        = some (noInputDoc "No active input") := by
  have hgamepad : lit "\x7b\"ok\":false,\"message\":\"No gamepad connected\"\x7d"
      = (noInputDoc "No gamepad connected").text writerPrinter := by decide +kernel
  have hactive : lit "\x7b\"ok\":false,\"message\":\"No active input\"\x7d"
      = (noInputDoc "No active input").text writerPrinter := by decide +kernel
  rw [hgamepad, hactive]
  exact ⟨Doc.parse_text writerPrinter (strict_noInputDoc _),
    Doc.parse_text writerPrinter (strict_noInputDoc _)⟩

theorem clean_label : ∀ d ∈ kInputs, Clean (lit d.label) := by decide +kernel

/-- The answer with an input is put together by hand too. A label needs no
escape. -/
theorem parse_learnJson {d : InputDefinition} (hd : d ∈ kInputs) :
    Doc.parse (lit "\x7b\"ok\":true,\"input\":" ++ Str.ofInt d.id.toNat ++ lit ",\"label\":\""
      ++ lit d.label ++ lit "\"\x7d") = some (learnDoc d) := by
  -- the answer is put together by hand: its pieces are the text of the document
  have hfront : lit "\x7b\"ok\":true,\"input\":" = textOf writerPrinter
      [.mark .openObject, .string (lit "ok"), .mark .colon, .word (boolWord true),
       .mark .comma, .string (lit "input"), .mark .colon] := by decide +kernel
  have hmiddle : lit ",\"label\":\"" = textOf writerPrinter
      [.mark .comma, .string (lit "label"), .mark .colon] ++ [34] := by decide +kernel
  have hback : lit "\"\x7d" = 34 :: textOf writerPrinter [.mark .closeObject] := by
    decide +kernel
  have htext : lit "\x7b\"ok\":true,\"input\":" ++ Str.ofInt d.id.toNat ++ lit ",\"label\":\""
      ++ lit d.label ++ lit "\"\x7d" = (learnDoc d).text writerPrinter := by
    rw [hfront, hmiddle, hback, learnDoc, Doc.text, Doc.tokens]
    simp only [Doc.memberTokens, Doc.tokens, textOf_cons, textOf_nil, Token.text, intDoc, boolDoc,
      intWord, quoted_of_clean (clean_label d hd), if_true, Bool.false_eq_true, if_false,
      List.append_assoc, List.nil_append, List.append_nil, List.cons_append]
  rw [htext, Doc.parse_text writerPrinter (strict_learnDoc d)]

/-- Every candidate has a definition, and stands in the menu. -/
theorem candidate_listed {c : InputId × ℚ × Bool} (hc : c ∈ dominantCandidates) :
    c.1 ≠ .none ∧ ∃ d ∈ listedInputs, getInputDefinition c.1 = some d ∧ d.id = c.1 := by
  have hall : ∀ c ∈ dominantCandidates, c.1 ≠ .none ∧ c.1 ≠ .buttonL2 ∧ c.1 ≠ .buttonR2 ∧
      (getInputDefinition c.1).isSome = true := by decide +kernel
  obtain ⟨hne, hl2, hr2, hsome⟩ := hall c hc
  obtain ⟨d, hd⟩ := Option.isSome_iff_exists.mp hsome
  have hid : d.id = c.1 := by simpa using List.find?_some hd
  refine ⟨hne, d, ?_, hd, hid⟩
  rw [listedInputs, List.mem_filter, hid]
  exact ⟨List.mem_of_find?_eq_some hd, decide_eq_true (not_or.mpr ⟨hl2, hr2⟩)⟩

/-- The input that is found, with its entry in the menu. -/
theorem foundInput_spec (ctl : Snapshot) :
    (detectDominantInput ctl = .none ∧ foundInput ctl = none ∧
        ∀ c ∈ dominantCandidates, ¬ Moved ctl c) ∨
      ∃ c, ∃ d ∈ listedInputs, detectDominantInput ctl = d.id ∧ d.id = c.1 ∧ d.id ≠ .none ∧
        getInputDefinition d.id = some d ∧ foundInput ctl = some d ∧
        FirstBest (Moved ctl) (candidateValue ctl) dominantCandidates c := by
  obtain ⟨hnone, hidle⟩ | ⟨c, hc, hbest⟩ := detectDominantInput_spec ctl
  · exact .inl ⟨hnone, if_pos hnone, hidle⟩
  · obtain ⟨hne, d, hd, hdef, hid⟩ := candidate_listed hbest.mem
    refine .inr ⟨c, d, hd, hc.trans hid.symm, hid, hid ▸ hne, hid ▸ hdef, ?_, hbest⟩
    rw [foundInput, hc, if_neg hne, hdef]

/-- **The answer of the handler** is a JSON text of the document that belongs to
it. The texts are put together by hand; the label comes from the table of inputs
and needs no escape. -/
theorem handleApiLearnDetect_spec (gamepad : Option Snapshot) :
    ∃ body, handleApiLearnDetect gamepad = .json (learnAnswer gamepad).code body ∧
      Doc.parse body = some (learnAnswer gamepad).doc := by
  cases gamepad with
  | none => exact ⟨_, rfl, parse_noInputJson.1⟩
  | some ctl =>
    obtain ⟨hnone, hfound, hidle⟩ | ⟨c, d, hd, hdetect, hid, hne, hdef, hfound, hbest⟩ :=
      foundInput_spec ctl
    · -- no input is dominant, or one is and its definition gives the label
      rw [learnAnswer_of_none hfound]
      refine ⟨_, ?_, parse_noInputJson.2⟩
      unfold handleApiLearnDetect
      dsimp only
      rw [if_pos hnone]
    · rw [learnAnswer_of_some hfound]
      refine ⟨_, ?_, parse_learnJson (List.mem_of_mem_filter hd)⟩
      unfold handleApiLearnDetect
      dsimp only
      rw [hdetect, if_neg hne, hdef]

/-- **Learning.** The menu is the document of the listed inputs. With a gamepad
the answer is a document as well: it tells of no input when none is moved far
enough, and otherwise of the first of the strongest ones, which the menu has
under the same number and label. -/
theorem learn_detect (ctl : Snapshot) :
    ∃ menu answer, buildInputsJson = some menu ∧
      Doc.parse menu = some (.array (listedInputs.map inputDoc)) ∧
      Doc.parse (handleApiLearnDetect (some ctl)).body = some answer ∧
      ((answer = noInputDoc "No active input" ∧ ∀ c ∈ dominantCandidates, ¬ Moved ctl c) ∨
        ∃ c, FirstBest (Moved ctl) (candidateValue ctl) dominantCandidates c ∧
          answer.field (lit "ok") = some (boolDoc true) ∧
          answer.field (lit "input") = some (intDoc c.1.toNat) ∧
          ∃ item ∈ listedInputs.map inputDoc,
            item.field (lit "id") = answer.field (lit "input") ∧
              item.field (lit "label") = answer.field (lit "label")) := by
  obtain ⟨menu, hmenu, hitems⟩ := buildInputsJson_spec
  obtain ⟨body, hbody, hparse⟩ := handleApiLearnDetect_spec (some ctl)
  have hanswer : Doc.parse (handleApiLearnDetect (some ctl)).body =
      some (learnAnswer (some ctl)).doc := by
    rw [hbody]
    exact hparse
  obtain ⟨hnone, hfound, hidle⟩ | ⟨c, d, hd, hdetect, hid, hne, hdef, hfound, hbest⟩ :=
    foundInput_spec ctl
  · rw [learnAnswer_of_none hfound] at hanswer
    exact ⟨menu, _, hmenu, hitems, hanswer, .inl ⟨rfl, hidle⟩⟩
  · rw [learnAnswer_of_some hfound] at hanswer
    refine ⟨menu, learnDoc d, hmenu, hitems, hanswer, .inr ⟨c, hbest, ?_⟩⟩
    rw [← hid]
    -- the keys differ, so each field found is the one written under this key
    have hkeys : lit "ok" ≠ lit "input" ∧ lit "ok" ≠ lit "label" ∧ lit "input" ≠ lit "label" ∧
        lit "id" ≠ lit "label" := by decide +kernel
    obtain ⟨h1, h2, h3, h4⟩ := hkeys
    refine ⟨?_, ?_, inputDoc d, List.mem_map_of_mem hd, ?_, ?_⟩
    · simp [learnDoc, Doc.field, h1.symm, h2.symm]
    · simp [learnDoc, Doc.field, h1, h3.symm]
    · simp [learnDoc, inputDoc, Doc.field, h1, h3.symm, h4.symm]
    · simp [learnDoc, inputDoc, Doc.field, h2, h3, h4]

end RcController
