import RcController.Model.WebServer

/-!
# Multipart forms

What the loops of `_parseForm` do with any data at all. Every loop takes bytes off the data
in each round, and without data it goes on for ever or stops at once. So as many rounds as
there are bytes tell how a loop ends, and a loop that has not ended by then does not end at
all (`readArgValue_fuel`, `parseFormLoop_fuel`): `FormResult.hangs` stands for a call that
does not return.

The array `_postArgs` has room for 32 arguments. A part is read only while fewer are in it,
so the index of the next one is within the array; this is the invariant of the outer loop
(`PartsFit`), and it carries over to what a form leaves behind when it is given up
(`parseForm_fits`).

Only a request whose header announces a multipart form gets that far. All other requests
return, and leave what the server keeps as it was (`parseRequest_of_not_hasForm`).
-/

namespace RcController

namespace WebServer

/-! ### Lines -/

/-- Reading up to a byte does not make data, and reading a line does not either,
but takes something off when there is something. -/
theorem length_readStringUntil_le (c : UInt8) (s : Str) :
    (readStringUntil c s).2.length ≤ s.length := by
  rw [readStringUntil, List.length_drop]
  have hsplit := congrArg List.length (List.takeWhile_append_dropWhile (p := (· ≠ c)) (l := s))
  rw [List.length_append] at hsplit
  omega

/-- Reading takes a byte off the data: one of the line, or the byte that ends
it. -/
theorem length_readStringUntil_lt {c : UInt8} {s : Str} (h : s ≠ []) :
    (readStringUntil c s).2.length < s.length := by
  obtain ⟨d, s, rfl⟩ := List.exists_cons_of_ne_nil h
  rw [readStringUntil, List.length_drop]
  by_cases hd : d = c
  · have hdrop : (d :: s).dropWhile (· ≠ c) = d :: s := List.dropWhile_cons_of_neg (by simp [hd])
    rw [hdrop, List.length_cons]
    omega
  · have hdrop : (d :: s).dropWhile (· ≠ c) = s.dropWhile (· ≠ c) :=
      List.dropWhile_cons_of_pos (by simp [hd])
    have hle := (List.dropWhile_suffix (l := s) (· ≠ c)).length_le
    rw [hdrop, List.length_cons]
    omega

@[simp] theorem readLine_nil : readLine [] = ([], []) := rfl

theorem length_readLine_le (s : Str) : (readLine s).2.length ≤ s.length :=
  (length_readStringUntil_le 10 _).trans (length_readStringUntil_le 13 s)

theorem length_readLine_lt {s : Str} (h : s ≠ []) : (readLine s).2.length < s.length :=
  (length_readStringUntil_le 10 _).trans_lt (length_readStringUntil_lt h)

/-- An empty line does not start with a boundary, which has two dashes in
front. -/
theorem startsWith_nil (boundary : Str) :
    Str.startsWith [] ([45, 45] ++ boundary) = false := by
  simp [Str.startsWith]

/-! ### The header of a part -/

/-- Skipping the header of a part is reading lines. -/
theorem length_skipPartHeader_le (fuel : ℕ) (s : Str) :
    (skipPartHeader fuel s).length ≤ s.length := by
  induction fuel generalizing s with
  | zero => exact le_rfl
  | succ fuel ih =>
    have hline := length_readLine_le s
    rw [skipPartHeader]
    dsimp only
    split
    · exact hline
    · exact (ih _).trans hline

/-- One round more than there are bytes is enough: the header ends where the
data ends, if it does not end before. -/
theorem skipPartHeader_fuel {m n : ℕ} {s : Str} (hm : s.length < m) (hn : s.length < n) :
    skipPartHeader m s = skipPartHeader n s := by
  induction m generalizing n s with
  | zero => exact absurd hm (Nat.not_lt_zero _)
  | succ m ih =>
    obtain ⟨n, rfl⟩ : ∃ k, n = k + 1 := ⟨n - 1, by omega⟩
    rw [skipPartHeader, skipPartHeader]
    dsimp only
    split
    · rfl
    · next hline =>
      -- a line that is not empty has taken a byte off the data
      have hne : s ≠ [] := by
        rintro rfl
        exact hline rfl
      have hlt := length_readLine_lt hne
      exact ih (by omega) (by omega)

/-! ### Values -/

/-- Without data the loop goes on for ever: an empty line is no boundary, and
the next one is empty again. -/
theorem readArgValue_nil (boundary : Str) (fuel : ℕ) (argValue : Str) :
    readArgValue boundary fuel argValue [] = none := by
  induction fuel generalizing argValue with
  | zero => rfl
  | succ fuel ih =>
    rw [readArgValue, readLine_nil]
    dsimp only
    rw [startsWith_nil]
    exact ih _

/-- **A value**: as many rounds as there are bytes tell how the loop ends, and
more rounds tell the same. By induction on the rounds, each of which takes a
line off the data. -/
theorem readArgValue_fuel (boundary : Str) {m n : ℕ} {s : Str} (hm : s.length ≤ m)
    (hn : s.length ≤ n) (argValue : Str) :
    readArgValue boundary m argValue s = readArgValue boundary n argValue s := by
  induction m generalizing n s argValue with
  | zero =>
    have hnil : s = [] := List.length_eq_zero_iff.mp (by omega)
    rw [hnil, readArgValue_nil, readArgValue_nil]
  | succ m ih =>
    by_cases hne : s = []
    · rw [hne, readArgValue_nil, readArgValue_nil]
    · have hpos := List.length_pos_iff.mpr hne
      -- a line takes at least one byte off, so the rounds last as long as the data
      have hlt := length_readLine_lt hne
      obtain ⟨n, rfl⟩ : ∃ k, n = k + 1 := ⟨n - 1, by omega⟩
      rw [readArgValue, readArgValue]
      dsimp only
      split
      · rfl
      · exact ih (by omega) (by omega) _

/-- A value leaves no more data than there was. -/
theorem length_readArgValue_le {boundary : Str} {fuel : ℕ} {argValue s value line rest : Str}
    (h : readArgValue boundary fuel argValue s = some (value, line, rest)) :
    rest.length ≤ s.length := by
  induction fuel generalizing argValue s with
  | zero => cases h
  | succ fuel ih =>
    have hline := length_readLine_le s
    rw [readArgValue] at h
    dsimp only at h
    split at h
    · cases h
      exact hline
    · exact (ih h).trans hline

/-! ### Files -/

/-- What lies behind a file is what the search has not read. By induction on the
data, which the search reads byte by byte. -/
theorem length_skipFile_lt {fast : Str} {boundaryPtr : ℕ} {s rest : Str}
    (h : skipFile fast boundaryPtr s = some rest) : rest.length < s.length := by
  induction s generalizing boundaryPtr with
  | nil => cases h
  | cons c s ih =>
    rw [List.length_cons]
    rw [skipFile] at h
    split at h
    · split at h
      · cases h
        exact Nat.lt_succ_self _
      · exact (ih h).trans (Nat.lt_succ_self _)
    · exact (ih h).trans (Nat.lt_succ_self _)

/-! ### Parts -/

/-- There is room for another argument. -/
def PartsFit (postArgs : List RequestArgument) : Prop := postArgs.length < maxPostArgs

/-- What a form leaves behind is within the array, however it ends. -/
def FormResult.Fits : FormResult → Prop
  | .hangs => True
  | .fails postArgs => postArgs.length ≤ maxPostArgs
  | .parsed args => args.length ≤ maxPostArgs

/-- A round takes a byte off the data if there is one, and leaves room for
another argument; or it is the last one. -/
def FormRound.Fits (s : Str) : FormRound → Prop
  | .next postArgs rest => (s ≠ [] → rest.length < s.length) ∧ PartsFit postArgs
  | .ends result => result.Fits

/-- **One round**, case by case: a line that starts no part, a value, a file.
The number of arguments grows with a value only, and the test for room comes
right after it. -/
theorem parseFormPart_fits (env : HttpEnv) (boundary : Str) {postArgs : List RequestArgument}
    (h : PartsFit postArgs) (s : Str) : (parseFormPart env boundary postArgs s).Fits s := by
  have hle : postArgs.length ≤ maxPostArgs := le_of_lt h
  have hline : s ≠ [] → (readLine s).2.length < s.length := length_readLine_lt
  unfold parseFormPart
  dsimp only
  split
  · split
    · exact ⟨hline, h⟩
    · have hheader := length_skipPartHeader_le ((readLine s).2.length + 1) (readLine s).2
      split
      · split
        · trivial
        · next hvalue =>
          have hrest := length_readArgValue_le hvalue
          -- the argument goes into the array; there was room for one
          have hroom : ∀ arg : RequestArgument, (postArgs ++ [arg]).length ≤ maxPostArgs := by
            intro arg
            rw [List.length_append]
            exact h
          split
          · exact hroom _
          · split
            · exact hroom _
            · next hfree =>
              exact ⟨fun hne => (hrest.trans hheader).trans_lt (hline hne), not_le.mp hfree⟩
      · split
        · exact hle
        · next hfile =>
          have hrest := length_skipFile_lt hfile
          split
          · split
            · exact hle
            · refine ⟨fun hne => ?_, h⟩
              have hlast := length_readLine_le ‹Str›
              have hfirst := hline hne
              omega
          · exact hle
  · exact ⟨hline, h⟩

/-- Without data a round changes nothing. -/
theorem parseFormPart_nil (env : HttpEnv) (boundary : Str) (postArgs : List RequestArgument) :
    parseFormPart env boundary postArgs [] = .next postArgs [] := rfl

/-- Without data the loop goes on for ever. -/
theorem parseFormLoop_nil (env : HttpEnv) (boundary : Str) (fuel : ℕ)
    (postArgs : List RequestArgument) : parseFormLoop env boundary fuel postArgs [] = .hangs := by
  induction fuel with
  | zero => rfl
  | succ fuel ih =>
    rw [parseFormLoop, parseFormPart_nil]
    exact ih

/-- **The parts of a form**: as many rounds as there are bytes tell how the loop
ends, and more rounds tell the same. -/
theorem parseFormLoop_fuel (env : HttpEnv) (boundary : Str) {m n : ℕ} {s : Str}
    {postArgs : List RequestArgument} (h : PartsFit postArgs) (hm : s.length ≤ m)
    (hn : s.length ≤ n) :
    parseFormLoop env boundary m postArgs s = parseFormLoop env boundary n postArgs s := by
  induction m generalizing n s postArgs with
  | zero =>
    have hnil : s = [] := List.length_eq_zero_iff.mp (by omega)
    rw [hnil, parseFormLoop_nil, parseFormLoop_nil]
  | succ m ih =>
    by_cases hne : s = []
    · rw [hne, parseFormLoop_nil, parseFormLoop_nil]
    · have hpos := List.length_pos_iff.mpr hne
      obtain ⟨n, rfl⟩ : ∃ k, n = k + 1 := ⟨n - 1, by omega⟩
      -- the round takes bytes off or ends the loop
      have hround := parseFormPart_fits env boundary h s
      rw [parseFormLoop, parseFormLoop]
      cases hpart : parseFormPart env boundary postArgs s with
      | ends result => rfl
      | next postArgs' rest =>
        rw [hpart] at hround
        have hlt := hround.1 hne
        exact ih hround.2 (by omega) (by omega)

-- a form that ends within its first value, without the boundary behind it
example : parseFormLoop ⟨[], fun _ => true, fun _ _ => 0⟩ (lit "b") 100 []
    (lit "Content-Disposition: form-data; name=\"a\"\r\n\r\nvalue\r\n") = .hangs := by
  decide +kernel

/-- The invariant carries over to the end of the loop. -/
theorem parseFormLoop_fits (env : HttpEnv) (boundary : Str) {fuel : ℕ} {s : Str}
    {postArgs : List RequestArgument} (h : PartsFit postArgs) :
    (parseFormLoop env boundary fuel postArgs s).Fits := by
  induction fuel generalizing s postArgs with
  | zero => trivial
  | succ fuel ih =>
    have hround := parseFormPart_fits env boundary h s
    rw [parseFormLoop]
    cases hpart : parseFormPart env boundary postArgs s with
    | ends result =>
      rw [hpart] at hround
      exact hround
    | next postArgs' rest =>
      rw [hpart] at hround
      exact ih hround.2

/-- **What a form leaves is within the array**, whatever the data is: a form
that is refused at its first line leaves what was there, every other one what it
has put there itself. -/
theorem parseForm_fits (env : HttpEnv) (boundary : Str) (currentArgs : List RequestArgument)
    {server : WebServer} (h : server.postArgs.length ≤ maxPostArgs) (s : Str) :
    (parseForm env boundary currentArgs server s).Fits := by
  have hempty : PartsFit [] := by
    unfold PartsFit
    decide
  have hloop : (parseFormLoop env boundary s.length []
      (readStringUntil 10 (readFirstLine 3 s).2).2).Fits := parseFormLoop_fits env boundary hempty
  unfold parseForm
  dsimp only
  split
  · cases hend : parseFormLoop env boundary s.length []
        (readStringUntil 10 (readFirstLine 3 s).2).2 with
    | hangs => trivial
    | fails postArgs =>
      rw [hend] at hloop
      exact hloop
    | parsed args =>
      rw [hend] at hloop
      have hargs : args.length ≤ maxPostArgs := hloop
      -- the arguments of the address are cut to what is left
      change (args ++ currentArgs.take (maxPostArgs - args.length)).length ≤ maxPostArgs
      rw [List.length_append, List.length_take]
      omega
  · exact h

/-! ### Requests -/

/-- The header of the request announces a multipart form. -/
def hasForm (env : HttpEnv) (data : Str) : Bool :=
  let line := readLine data
  match parseRequestLine env line.1 with
  | none => false
  | some request =>
    request.method.hasBody && (parseHeaders (line.2.length + 1) {} line.2).1.isForm

/-- **Requests without a multipart form** are read to the end or refused, and
leave what the server keeps as it was. -/
theorem parseRequest_of_not_hasForm {env : HttpEnv} {data : Str} (h : hasForm env data = false)
    (server : WebServer) : parseRequest env server data = .invalid server ∨
      ∃ r, parseRequest env server data = .request r server := by
  unfold parseRequest
  unfold hasForm at h
  dsimp only at h ⊢
  split
  · exact .inl rfl
  · next method uri searchStr hline =>
    rw [hline] at h
    dsimp only at h
    split
    · -- a method with a body, but no boundary was given
      next hbody =>
      rw [hbody, Bool.true_and] at h
      rw [h, if_neg Bool.false_ne_true]
      split
      · exact .inl rfl
      · exact .inr ⟨_, rfl⟩
    · exact .inr ⟨_, rfl⟩

/-- What the server keeps after a request is within the array. -/
def ParseResult.Fits : ParseResult → Prop
  | .hangs => True
  | .invalid server => server.postArgs.length ≤ maxPostArgs
  | .request _ server => server.postArgs.length ≤ maxPostArgs

/-- **The array of the server** is never written behind its end, over any number
of requests: each one finds it within its bounds and leaves it so. -/
theorem parseRequest_fits (env : HttpEnv) {server : WebServer}
    (h : server.postArgs.length ≤ maxPostArgs) (data : Str) :
    (parseRequest env server data).Fits := by
  unfold parseRequest
  dsimp only
  split
  · exact h
  · next method uri searchStr _ =>
    split
    · split
      · -- only here the array is touched
        have hform := parseForm_fits env
          (parseHeaders ((readLine data).2.length + 1) {} (readLine data).2).1.boundaryStr
          (parseArguments searchStr) h
          (parseHeaders ((readLine data).2.length + 1) {} (readLine data).2).2
        split
        · trivial
        · next hfails =>
          rw [hfails] at hform
          exact hform
        · exact Nat.zero_le _
      · split
        · exact h
        · exact h
    · exact h

end WebServer

end RcController
