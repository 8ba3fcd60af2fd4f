import RcController.Device.AccessPoint
import RcController.Model.Page
import RcController.Service.Activity
import RcController.Service.Learn

/-!
# What the controls of the page post

A number that the device writes into an answer is shown by a control as it was written, and
comes back as the same number (`parseIntArg_ofInt`). A menu posts the value it shows, or its
first one when it has no option for the value (`fillSelect_eq`). A name comes back as it was
when it is not blank and the text field shows it without a change that lasts
(`parseName_eq_iff`).
-/

namespace RcController

open Json

/-! ### Numbers -/

/-- The digits of a number have its value. The writer and the reader fold over
the same digits, one in ℕ and the other in ℤ as `strtol` does. -/
theorem digitsValue_ofNat (n : ℕ) : Str.digitsValue (Str.ofNat n) = n := by
  obtain ⟨hall, hvalue, -⟩ := ofNat_spec n
  have hdigit : ∀ c ∈ Str.ofNat n, 48 ≤ c.toNat := by
    intro c hc
    have h := hall c hc
    simp only [isDigit, Bool.and_eq_true, decide_eq_true_eq] at h
    exact UInt8.le_iff_toNat_le.mp h.1
  have htake : (Str.ofNat n).takeWhile isdigit = Str.ofNat n :=
    List.takeWhile_eq_self_iff.mpr hall
  -- the digits are subtracted from above 48, so the two folds agree
  have hfold : ∀ (s : Str) (a : ℕ), (∀ c ∈ s, 48 ≤ c.toNat) →
      s.foldl (fun (a : ℤ) c => 10 * a + ((c.toNat : ℤ) - 48)) (a : ℤ) =
        (s.foldl (fun a c => 10 * a + (c.toNat - 48)) a : ℕ) := by
    intro s
    induction s with
    | nil => exact fun a _ => rfl
    | cons c s ih =>
      intro a hs
      have hc := hs c List.mem_cons_self
      have hstep : (10 * (a : ℤ) + ((c.toNat : ℤ) - 48)) = ((10 * a + (c.toNat - 48) : ℕ) : ℤ) := by
        omega
      rw [List.foldl_cons, List.foldl_cons, hstep]
      exact ih _ fun d hd => hs d (List.mem_cons_of_mem c hd)
  rw [Str.digitsValue, htake]
  exact (hfold _ 0 hdigit).trans (congrArg Nat.cast hvalue)

/-- The text of a number has no white space, no NUL and no second sign. -/
theorem ofInt_spec (n : ℤ) : Str.ofInt n ≠ [] ∧
    ∀ c ∈ Str.ofInt n, isspace c = false ∧ c ≠ 0 := by
  obtain ⟨hall, -, c, ds, hcons, -⟩ := ofNat_spec n.natAbs
  have hdigit : ∀ c, isDigit c = true → isspace c = false ∧ c ≠ 0 := by
    -- checked byte by byte
    have hbytes : ∀ k < 256, isDigit (UInt8.ofNat k) = true →
        isspace (UInt8.ofNat k) = false ∧ UInt8.ofNat k ≠ 0 := by decide +kernel
    intro c hc
    have h := hbytes c.toNat (UInt8.toNat_lt c)
    rw [UInt8.ofNat_toNat] at h
    exact h hc
  unfold Str.ofInt
  split
  · -- a sign in front, which is neither white space nor a NUL
    refine ⟨List.cons_ne_nil _ _, fun c hc => ?_⟩
    rcases List.mem_cons.mp hc with rfl | hc
    · exact ⟨rfl, by decide⟩
    · exact hdigit c (hall c hc)
  · exact ⟨by rw [hcons]; exact List.cons_ne_nil c ds, fun c hc => hdigit c (hall c hc)⟩

/-- A text without white space is not trimmed. -/
theorem trim_of_no_space {s : Str} (h : ∀ c ∈ s, isspace c = false) : s.trim = s := by
  have hleft : s.dropWhile isspace = s := by
    cases s with
    | nil => rfl
    | cons c s => rw [List.dropWhile_cons, h c List.mem_cons_self]; rfl
  rw [Str.trim, hleft, List.rdropWhile_eq_self_iff]
  intro hne hspace
  rw [h _ (List.getLast_mem hne)] at hspace
  cases hspace

/-- **The text of a 32-bit number is read as that number.** -/
theorem toInt_ofInt {n : ℤ} (hlo : -2147483648 ≤ n) (hhi : n ≤ 2147483647) :
    (Str.ofInt n).toInt = n := by
  obtain ⟨-, hspec⟩ := ofInt_spec n
  -- there is no white space to skip and no NUL to stop at
  have htext : ((Str.ofInt n).takeWhile (· ≠ 0)).dropWhile isspace = Str.ofInt n := by
    rw [takeWhile_ne_zero fun c hc => (hspec c hc).2]
    cases hs : Str.ofInt n with
    | nil => rfl
    | cons c s =>
      have hc := (hspec c (by rw [hs]; exact List.mem_cons_self)).1
      rw [List.dropWhile_cons, hc]
      rfl
  unfold Str.toInt
  dsimp only
  rw [htext]
  have hvalue := digitsValue_ofNat n.natAbs
  unfold Str.ofInt
  split_ifs with hneg
  · -- the sign, and the digits of the absolute value
    have habs : -((n.natAbs : ℕ) : ℤ) = n := by omega
    simp only [hvalue, habs]
    exact constrain_eq_self hlo hhi
  · obtain ⟨hall, -, c, ds, hcons, -⟩ := ofNat_spec n.natAbs
    have habs : ((n.natAbs : ℕ) : ℤ) = n := by omega
    have hc := hall c (by rw [hcons]; exact List.mem_cons_self)
    have hminus : c ≠ 45 := by rintro rfl; cases hc
    have hplus : c ≠ 43 := by rintro rfl; cases hc
    rw [hcons] at hvalue ⊢
    split
    · next r heq => exact absurd (List.cons.inj heq).1 hminus
    · next r heq => exact absurd (List.cons.inj heq).1 hplus
    · rw [hvalue, habs]
      exact constrain_eq_self hlo hhi

/-- A number that is posted comes back. The argument is there, is not blank, and
is in the range of `toInt`. -/
theorem parseIntArg_ofInt {args : Args} {p : Param} {n : ℤ} (h : args p = some (Str.ofInt n))
    (hlo : -2147483648 ≤ n) (hhi : n ≤ 2147483647) (fallback : ℤ) :
    args.parseIntArg p fallback = n := by
  obtain ⟨hne, hspec⟩ := ofInt_spec n
  have htrim : (Str.ofInt n).trim = Str.ofInt n := trim_of_no_space fun c hc => (hspec c hc).1
  unfold Args.parseIntArg Args.hasArg Args.arg
  rw [h]
  simp only [Option.isSome_some, Bool.not_true, Bool.false_eq_true, if_false, Option.getD_some,
    htrim, hne, toInt_ofInt hlo hhi]

/-! ### Values of an answer -/

namespace Page

/-- The page reads a number of an answer as the number that the device wrote. -/
@[simp] theorem whole_intDoc (n : ℤ) : whole (intDoc n) = some n := by
  have hread := readInt_ofInt n Delimited.nil
  rw [List.append_nil] at hread
  simp only [intDoc, intWord, whole, hread]

/-- A field that holds a number. -/
theorem number_of_field {k : String} {v : Doc} {n : ℤ} (h : v.field (lit k) = some (intDoc n)) :
    number k v = some n := by
  rw [number, h, Option.bind_some, whole_intDoc]

/-- A field that holds a truth value. -/
theorem flag_of_field {k : String} {v : Doc} {flagged : Bool}
    (h : v.field (lit k) = some (boolDoc flagged)) : flag k v = flagged := by
  unfold flag
  rw [h]
  cases flagged <;> decide +kernel

/-- A field that holds a text. -/
theorem text_of_field {k : String} {v : Doc} {s : Str} (h : v.field (lit k) = some (.string s)) :
    text k v = s := by
  rw [text, h]

/-- The entry of a slot is found under the number of the slot. The answer lists
the slots in use only, in order, and the page searches for the number and does
not count entries. -/
theorem findIndex_entries {n : ℕ} (used : Fin n → Bool) {entry : Fin n → Doc}
    (hindex : ∀ i, number "index" (entry i) = some (i.val : ℤ)) {i : Fin n}
    (hi : used i = true) :
    findIndex i.val ((List.finRange n).flatMap fun j => if !used j then [] else [entry j])
      = some (entry i) := by
  have hmem : entry i ∈ (List.finRange n).flatMap fun j => if !used j then [] else [entry j] := by
    refine List.mem_flatMap.mpr ⟨i, List.mem_finRange i, ?_⟩
    rw [hi]
    exact List.mem_singleton_self _
  -- an entry with the index is there, so the search finds one
  have hfound : (findIndex i.val
      ((List.finRange n).flatMap fun j => if !used j then [] else [entry j])).isSome := by
    refine List.find?_isSome.mpr ⟨entry i, hmem, ?_⟩
    simpa using hindex i
  obtain ⟨d, hd⟩ := Option.isSome_iff_exists.mp hfound
  obtain ⟨j, -, hj⟩ := List.mem_flatMap.mp (List.mem_of_find?_eq_some hd)
  -- and whatever it finds is the entry of some slot in use, whose index tells the slot
  have hdj : d = entry j := by
    cases hused : used j <;> rw [hused] at hj
    · cases hj
    · exact List.mem_singleton.mp hj
  have hval := List.find?_some hd
  simp only [hdj, hindex j, decide_eq_true_eq, Option.some.injEq, Nat.cast_inj] at hval
  rw [hd, hdj, Fin.ext hval]

/-! ### Menus -/

/-- A menu shows the value when it has it, and its first option otherwise. -/
theorem fillSelect_eq (first : ℤ) (options : List ℤ) (selected : ℤ) :
    fillSelect (first :: options) (some selected) =
      Str.ofInt (if selected ∈ first :: options then selected else first) := by
  unfold fillSelect
  split
  · next id hfound =>
    have hid : id = selected := by simpa using List.find?_some hfound
    rw [if_pos (hid ▸ List.mem_of_find?_eq_some hfound), hid]
  · next hnone =>
    rw [if_neg fun hmem => ?_]
    · rfl
    · have h := List.find?_eq_none.mp hnone selected hmem
      simp at h

/-- A menu that has an option for the value shows it. -/
theorem assignSelect_eq {options : List ℤ} {value : ℤ} (h : value ∈ options) :
    assignSelect options value = Str.ofInt value :=
  if_pos h

end Page

/-! ### Names -/

/-- A terminated buffer starts with its text and a NUL. -/
theorem getElem_of_cstr {buf : CharBuf} (h : Terminated buf) :
    ∃ hlen : (cstr buf).length ≤ 23, (∀ (j : ℕ) (hj : j < (cstr buf).length),
      buf[j] = (cstr buf)[j]) ∧ buf[(cstr buf).length] = 0 := by
  have hsplit : cstr buf ++ buf.toList.dropWhile (· ≠ 0) = buf.toList :=
    List.takeWhile_append_dropWhile
  -- the terminator keeps the rest from being empty
  have hrest : buf.toList.dropWhile (· ≠ 0) ≠ [] := by
    intro hnil
    have hall := List.dropWhile_eq_nil_iff.mp hnil buf[23]
      (Vector.mem_toList_iff.mpr (Vector.getElem_mem (by decide)))
    have h' : buf[23] = 0 := h
    rw [h'] at hall
    cases hall
  obtain ⟨c, rest, hcons⟩ := List.exists_cons_of_ne_nil hrest
  -- and it starts with a NUL, where the C string ended
  have hc : c = 0 := by
    have hhead := List.head_dropWhile_not (fun c : UInt8 => decide (c ≠ 0)) hrest
    simp only [hcons, List.head_cons] at hhead
    simpa using hhead
  rw [hcons, hc] at hsplit
  have hlength : (cstr buf).length + (rest.length + 1) = 24 := by
    simpa using congrArg List.length hsplit
  -- byte by byte, the buffer is the C string, the NUL and what follows
  have hat : ∀ (k : ℕ) (hk : k < (cstr buf ++ 0 :: rest).length),
      ∃ h24 : k < 24, buf[k] = (cstr buf ++ 0 :: rest)[k] := by
    rw [hsplit]
    intro k hk
    exact ⟨by simpa using hk, (Vector.getElem_toList hk).symm⟩
  refine ⟨by omega, fun j hj => ?_, ?_⟩
  · obtain ⟨_, hj'⟩ := hat j (by rw [List.length_append]; omega)
    rw [hj', List.getElem_append_left hj]
  · obtain ⟨_, hend⟩ := hat (cstr buf).length (by simp)
    rw [hend, List.getElem_append_right (le_refl _)]
    simp

/-- Writing what a buffer holds changes nothing, the bytes behind the NUL
included: `strncpy` stops at the length of the text, and the NUL is written
where one was. -/
theorem toCharArray_cstr {buf : CharBuf} (h : Terminated buf) :
    toCharArray (cstr buf) buf = buf := by
  obtain ⟨hlen, hget, hend⟩ := getElem_of_cstr h
  have hmin : min 23 (cstr buf).length = (cstr buf).length := Nat.min_eq_right hlen
  have hnul : ∀ c ∈ cstr buf, c ≠ 0 := fun c hc => by simpa using List.mem_takeWhile_imp hc
  unfold toCharArray
  apply Vector.ext
  intro j hj
  split
  · -- an empty string writes its terminator at once
    next hnil =>
    rw [Vector.getElem_set]
    split
    · next h0 =>
      subst h0
      simpa [hnil] using hend.symm
    · rfl
  · -- and any other one behind its last byte
    rw [hmin, Vector.getElem_setIfInBounds]
    split
    · next hj' =>
      subst hj'
      exact hend.symm
    · simp only [strncpy, Vector.getElem_ofFn, takeWhile_ne_zero hnul]
      split
      · next hlt => rw [List.getD_eq_getElem _ _ hlt, hget j hlt]
      · rfl

/-- **A name comes back** from a text field when it is not blank and what the
field shows of it is trimmed to it again. A blank one is replaced by a default,
which is not blank and therefore not what was there. -/
theorem parseName_eq_iff (br : Browser) {args : Args} (name : String) {buf : CharBuf} (i : ℕ)
    (hname : ∃ c s, lit name = c :: s ∧ isspace c = false ∧ ∀ c ∈ lit name, c ≠ 0)
    (hbuf : Terminated buf) (harg : args .name = some (br.shown (cstr buf))) :
    args.parseName name i buf = buf ↔
      cstr buf ≠ [] ∧ (br.shown (cstr buf)).trim.take 23 = cstr buf := by
  have hnul : ∀ c ∈ cstr buf, c ≠ 0 := fun c hc => by simpa using List.mem_takeWhile_imp hc
  have hshown := br.noNul (cstr buf) hnul
  have htrim : ∀ c ∈ (br.shown (cstr buf)).trim, c ≠ 0 := fun c hc =>
    hshown c (List.dropWhile_subset _ (List.rdropWhile_prefix _ _ |>.subset hc))
  have hparse : args.parseName name i buf = toCharArray
      ((if (br.shown (cstr buf)).trim = [] then lit name ++ lit " " ++ Str.ofNat i
        else (br.shown (cstr buf)).trim).take 23) buf := by
    simp only [Args.parseName, Args.hasArg, Args.arg, harg, Option.isSome_some, if_true,
      Option.getD_some, Str.substring]
  rw [hparse]
  split
  · next hblank =>
    -- a blank name is replaced by one that is not
    have hold := br.blank _ hblank
    obtain ⟨c, s, hc, hspace, hall⟩ := hname
    have hdefault : ∀ c ∈ lit name ++ lit " " ++ Str.ofNat i, c ≠ 0 := by
      intro c hc
      simp only [List.mem_append] at hc
      obtain (hc | hc) | hc := hc
      · exact hall c hc
      · revert c
        decide +kernel
      · exact (ofInt_spec i).2 c hc |>.2
    constructor
    · intro heq
      have hcstr : cstr (toCharArray ((lit name ++ lit " " ++ Str.ofNat i).take 23) buf) =
          (lit name ++ lit " " ++ Str.ofNat i).take 23 :=
        cstr_toCharArray buf (by simp) fun c hc => hdefault c (List.mem_of_mem_take hc)
      rw [heq, hc, List.cons_append, List.cons_append, List.take_succ_cons] at hcstr
      exact absurd hold (trim_of_head (by rw [hcstr]; rfl) hspace).2
    · rintro ⟨hne, heq⟩
      rw [hblank] at heq
      exact absurd heq.symm hne
  · next hne =>
    have hlen : ((br.shown (cstr buf)).trim.take 23).length ≤ 23 := by simp
    have hnul' : ∀ c ∈ (br.shown (cstr buf)).trim.take 23, c ≠ 0 := fun c hc =>
      htrim c (List.mem_of_mem_take hc)
    constructor
    · intro heq
      have hback := cstr_toCharArray buf hlen hnul'
      rw [heq] at hback
      refine ⟨fun hnil => hne ?_, hback.symm⟩
      rw [hback] at hnil
      simpa using hnil
    · rintro ⟨-, heq⟩
      rw [heq]
      exact toCharArray_cstr hbuf

end RcController
