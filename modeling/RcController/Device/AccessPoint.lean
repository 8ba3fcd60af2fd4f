import RcController.Device.Saved

/-!
# The access point after a rejected request

`ap_config_set` and `ap_config_apply_reboot` store the SSID and then the password, each in
calls of its own. The password is checked before anything is stored; but `saveApPassword`
checks it once more, after sanitizing what was sanitized already, and every call can fail.
Nothing takes the SSID back when the password is not saved.

`Stores` says that the two calls which put a string into the flash go through.
`rejected_keeps_ap_iff` says from the arguments, the faults and the old strings when a
request that is refused leaves both as they were. Without faults it is the second check
alone that can go wrong, and `revalidation_fails_iff` tells on which passwords it does.
-/

namespace RcController

open DeviceProg

/-! ### Passwords that are checked twice -/

section Trim

variable {s : Str} {c : UInt8}

/-- A trimmed text does not start with white space. -/
theorem isspace_head_trim (h : s.trim.head? = some c) : isspace c = false := by
  have hleft : s.trim <+: s.dropWhile isspace := List.rdropWhile_prefix isspace _
  have hhead : (s.dropWhile isspace).head? = some c := by
    obtain ⟨rest, hrest⟩ := hleft
    rw [← hrest, List.head?_append, h]
    rfl
  have hnot := List.head?_dropWhile_not isspace s
  rw [hhead] at hnot
  simpa using hnot

/-- A text that starts with something else keeps its start. -/
theorem trim_of_head (h : s.head? = some c) (hc : isspace c = false) :
    s.trim = s.rdropWhile isspace ∧ s.trim ≠ [] := by
  obtain ⟨cs, rfl⟩ : ∃ cs, s = c :: cs := List.head?_eq_some_iff.mp h
  have hleft : (c :: cs).dropWhile isspace = c :: cs := List.dropWhile_cons_of_neg (by simp [hc])
  unfold Str.trim
  rw [hleft]
  refine ⟨rfl, fun hnil => ?_⟩
  have hall := List.rdropWhile_eq_nil_iff.mp hnil c List.mem_cons_self
  rw [hc] at hall
  cases hall

/-- Trimming twice is trimming once. -/
theorem trim_trim (s : Str) : s.trim.trim = s.trim := by
  cases hhead : s.trim.head? with
  | none =>
    rw [List.head?_eq_none_iff.mp hhead]
    rfl
  | some c =>
    rw [(trim_of_head hhead (isspace_head_trim hhead)).1]
    exact List.rdropWhile_idempotent _ _

/-- Trimming makes no text longer. -/
theorem length_trim_le (s : Str) : s.trim.length ≤ s.length :=
  (List.rdropWhile_prefix isspace _).length_le.trans (List.length_dropWhile_le _ _)

end Trim

/-- **The passwords that pass the first check and not the second**: cut to 63
bytes they end in white space, and fewer than 8 bytes are left without it. -/
theorem revalidation_fails_iff {raw : Str}
    (h : isValidApPassword (sanitizeApPassword raw) = true) :
    isValidApPassword (sanitizeApPassword (sanitizeApPassword raw)) = false ↔
      63 < raw.trim.length ∧ (raw.trim.substring 63).trim.length < 8 := by
  by_cases hlong : 63 < raw.trim.length
  swap
  · -- a short password is trimmed twice, which changes nothing
    have hsame : sanitizeApPassword (sanitizeApPassword raw) = sanitizeApPassword raw := by
      simp only [sanitizeApPassword, hlong, if_false, trim_trim]
    rw [hsame, h]
    exact iff_of_false nofun fun hcut => hlong hcut.1
  have hcut : sanitizeApPassword raw = raw.trim.substring 63 := by
    simp only [sanitizeApPassword, hlong, if_true, Str.substring]
  have hshort : (raw.trim.substring 63).trim.length ≤ 63 :=
    (length_trim_le _).trans (List.length_take_le 63 raw.trim)
  have hagain : sanitizeApPassword (raw.trim.substring 63) = (raw.trim.substring 63).trim := by
    simp only [sanitizeApPassword, if_neg (Nat.not_lt.mpr hshort)]
  -- the cut keeps the first byte, which is not white space
  obtain ⟨c, hhead⟩ : ∃ c, raw.trim.head? = some c := by
    cases hhead : raw.trim.head? with
    | none => simp [List.head?_eq_none_iff.mp hhead] at hlong
    | some c => exact ⟨c, rfl⟩
  have hhead' : (raw.trim.substring 63).head? = some c := by
    unfold Str.substring
    rw [List.head?_take, if_neg (by decide), hhead]
  have hne := (trim_of_head hhead' (isspace_head_trim hhead)).2
  rw [hcut, hagain, and_iff_right hlong]
  simp [isValidApPassword, hne, hshort]

/-! ### One string under faults -/

/-- What `c_str()` shows of a string: the bytes before the first NUL. -/
def Str.upToNul (s : Str) : Str := s.takeWhile (· ≠ 0)

/-- The string reaches the flash: the namespace is opened and the value is
set. -/
def Stores (plan : Prog.Plan nvsInterface) (key : NvsKey) (text : Str) : Prop :=
  plan 0 NvsOp.openReadwrite = false ∧ plan 1 (NvsOp.setStr key text.upToNul) = false

section SaveString

variable {plan : Prog.Plan nvsInterface} {key : NvsKey} {text : Str} {n : NvsStore}

/-- The calls of `saveString`, in the order they are made. -/
theorem run_saveString (plan : Prog.Plan nvsInterface) (key : NvsKey) (text : Str)
    (n : NvsStore) :
    (saveString key text).run nvsDevice plan n =
      if plan 0 NvsOp.openReadwrite then (false, n)
      else if plan 1 (NvsOp.setStr key text.upToNul) then (false, { n with created := true })
      else (!plan 2 NvsOp.commit,
        ({ n with created := true } : NvsStore).set key (.str text.upToNul)) := by
  change (if plan 0 NvsOp.openReadwrite then _ else _) = _
  split
  · rfl
  · change (if plan 1 (NvsOp.setStr key text.upToNul) then _ else _) = _
    split
    · rfl
    · change (if plan 2 NvsOp.commit then _ else _) = _
      cases plan 2 NvsOp.commit <;> rfl

/-- A string that does not reach the flash is reported, and every value stays.
At most the namespace is created. -/
theorem saveString_of_not_stores (h : ¬ Stores plan key text) :
    ((saveString key text).run nvsDevice plan n).1 = false ∧
      ((saveString key text).run nvsDevice plan n).2.get = n.get := by
  rw [run_saveString]
  -- either the opening fails, and not even the namespace is created, or the write does
  by_cases hopen : plan 0 NvsOp.openReadwrite = true
  · rw [if_pos hopen]
    exact ⟨rfl, rfl⟩
  · have hset : plan 1 (NvsOp.setStr key text.upToNul) = true := by
      by_contra hset
      exact h ⟨by simpa using hopen, by simpa using hset⟩
    rw [if_neg hopen, if_pos hset]
    exact ⟨rfl, rfl⟩

/-- A string that reaches the flash is there whether the commit answers or
not. -/
theorem saveString_of_stores (h : Stores plan key text) :
    ((saveString key text).run nvsDevice plan n).1 = !plan 2 NvsOp.commit ∧
      ((saveString key text).run nvsDevice plan n).2.get
        = Function.update n.get key (some (.str text.upToNul)) ∧
      (saveString key text).rest nvsDevice plan n = fun k => plan (k + 3) := by
  have hopen : ¬ plan 0 NvsOp.openReadwrite = true := by simp [h.1]
  have hset : ¬ plan 1 (NvsOp.setStr key text.upToNul) = true := by simp [h.2]
  refine ⟨?_, ?_, ?_⟩
  -- the commit decides about the reply and not about the value
  · rw [run_saveString, if_neg hopen, if_neg hset]
  · rw [run_saveString, if_neg hopen, if_neg hset]
    rfl
  · change (if plan 0 NvsOp.openReadwrite then _ else _) = _
    rw [if_neg hopen]
    change (if plan 1 (NvsOp.setStr key text.upToNul) then _ else _) = _
    rw [if_neg hset]
    change (if plan 2 NvsOp.commit then _ else _) = _
    split <;> rfl

end SaveString

/-! ### The request -/

/-- The SSID that is saved: sanitized by the handler, and once more by
`saveApSsid`. -/
def savedSsid (args : Args) : Str := sanitizeApSsid (sanitizeApSsid (args.arg .ssid))

/-- The password that is saved. -/
def savedPassword (args : Args) : Str :=
  sanitizeApPassword (sanitizeApPassword (args.arg .password))

/-- The handler comes to saving: both fields are given, and the password passes
the first check. -/
def ApConfigChecked (args : Args) : Prop :=
  args.hasArg .ssid = true ∧ args.hasArg .password = true ∧
    isValidApPassword (sanitizeApPassword (args.arg .password)) = true

/-- After the SSID reached the flash the password does, too: the commit of the
SSID answers, the password passes the second check, and its two calls go
through. -/
def PasswordStores (plan : Prog.Plan nvsInterface) (args : Args) : Prop :=
  plan 2 NvsOp.commit = false ∧ isValidApPassword (savedPassword args) = true ∧
    Stores (fun k => plan (k + 3)) .apPass (savedPassword args)

/-- **A refused request leaves the credentials**: it is not refused once the
SSID reached the flash, or that SSID was there before; and so was the password,
if that reached the flash as well. -/
def KeepsAp (plan : Prog.Plan nvsInterface) (args : Args) (n : NvsStore) : Prop :=
  ApConfigChecked args → Stores plan .apSsid (savedSsid args) →
    PasswordStores plan args ∧ plan 5 NvsOp.commit = false ∨
      n.get .apSsid = some (.str (savedSsid args).upToNul) ∧
        (PasswordStores plan args → n.get .apPass = some (.str (savedPassword args).upToNul))

/-- The stored SSID and the stored password are the same. -/
def SameAp (n n' : NvsStore) : Prop :=
  n'.get .apSsid = n.get .apSsid ∧ n'.get .apPass = n.get .apPass

section Request

variable {plan : Prog.Plan nvsInterface} {args : Args} {n n' : NvsStore} {s : Sketch}
  {message : String}

/-- A request that is not checked is refused at once. -/
theorem handleApConfig_unchecked (message : String) (s : Sketch) (h : ¬ ApConfigChecked args) :
    ∃ e, handleApConfig message args s = .pure (s, .json false e) := by
  unfold handleApConfig
  by_cases hfields : (!args.hasArg .ssid || !args.hasArg .password) = true
  · rw [if_pos hfields]
    exact ⟨_, rfl⟩
  · have hinvalid : (!isValidApPassword (sanitizeApPassword (args.arg .password))) = true := by
      by_contra hvalid
      simp only [Bool.not_eq_true, Bool.or_eq_false_iff, Bool.not_eq_false'] at hfields hvalid
      exact h ⟨hfields.1, hfields.2, hvalid⟩
    rw [if_neg hfields]
    dsimp only
    rw [if_pos hinvalid]
    exact ⟨_, rfl⟩

/-- What is left to do when the SSID is saved. -/
def savePasswordThen (message : String) (args : Args) (s : Sketch) : NvsM (Sketch × Reply) := do
  if !(← saveApPassword (sanitizeApPassword (args.arg .password))) then
    return (s, .json false "Failed to save AP config")
  else
    return ({ s with
      apSsid := sanitizeApSsid (args.arg .ssid)
      apPassword := sanitizeApPassword (args.arg .password) }, .json true message)

/-- The handler past the checks. -/
theorem handleApConfig_checked (h : ApConfigChecked args) :
    handleApConfig message args s = (saveString .apSsid (savedSsid args)).bind fun ok =>
      if !ok then .pure (s, .json false "Failed to save AP config")
      else savePasswordThen message args s := by
  unfold handleApConfig
  rw [if_neg (by simp [h.1, h.2.1])]
  dsimp only
  rw [if_neg (by simp [h.2.2])]
  rfl

/-- When the SSID alone reached the flash, both strings stay if it was there
before. -/
theorem sameAp_ssid_iff (hget : n'.get = Function.update n.get .apSsid
      (some (.str (savedSsid args).upToNul))) :
    SameAp n n' ↔ n.get .apSsid = some (.str (savedSsid args).upToNul) := by
  unfold SameAp
  rw [hget, Function.update_self, Function.update_of_ne (by simp), and_iff_left rfl, eq_comm]

theorem sameAp_both_iff (hget : n'.get = Function.update (Function.update n.get .apSsid
      (some (.str (savedSsid args).upToNul))) .apPass
      (some (.str (savedPassword args).upToNul))) :
    SameAp n n' ↔ n.get .apSsid = some (.str (savedSsid args).upToNul) ∧
      n.get .apPass = some (.str (savedPassword args).upToNul) := by
  unfold SameAp
  rw [hget, Function.update_of_ne (by simp), Function.update_self, Function.update_self]
  exact and_congr eq_comm eq_comm

/-- The password reaches the flash: only the commit decides about the reply. -/
theorem savePasswordThen_of_stores (message : String) (s : Sketch) (n : NvsStore)
    (hvalid : isValidApPassword (savedPassword args) = true)
    (h : Stores plan .apPass (savedPassword args)) :
    ((savePasswordThen message args s).run nvsDevice plan n).1.2.ok = !plan 2 NvsOp.commit ∧
      ((savePasswordThen message args s).run nvsDevice plan n).2.get
        = Function.update n.get .apPass (some (.str (savedPassword args).upToNul)) := by
  obtain ⟨hok, hget, -⟩ := saveString_of_stores (n := n) h
  have hsave : saveApPassword (sanitizeApPassword (args.arg .password))
      = saveString .apPass (savedPassword args) := saveApPassword_valid hvalid
  unfold savePasswordThen
  rw [hsave, Prog.bind_eq, Prog.run_bind_rest, hok]
  cases plan 2 NvsOp.commit with
  | true => exact ⟨rfl, hget⟩
  | false => exact ⟨rfl, hget⟩

/-- The password does not reach the flash: the request is refused. -/
theorem savePasswordThen_of_not_stores (message : String) (s : Sketch) (n : NvsStore)
    (h : isValidApPassword (savedPassword args) = true →
      ¬ Stores plan .apPass (savedPassword args)) :
    ((savePasswordThen message args s).run nvsDevice plan n).1.2.ok = false ∧
      ((savePasswordThen message args s).run nvsDevice plan n).2.get = n.get := by
  unfold savePasswordThen
  by_cases hvalid : isValidApPassword (savedPassword args) = true
  · obtain ⟨hok, hget⟩ := saveString_of_not_stores (n := n) (h hvalid)
    have hsave : saveApPassword (sanitizeApPassword (args.arg .password))
        = saveString .apPass (savedPassword args) := saveApPassword_valid hvalid
    rw [hsave, Prog.bind_eq, Prog.run_bind_rest, hok]
    exact ⟨rfl, hget⟩
  · rw [saveApPassword_invalid hvalid]
    exact ⟨rfl, rfl⟩

/-- **The handler**, up to the text of its last reply. -/
theorem handleApConfig_keeps_iff :
    (((handleApConfig message args s).run nvsDevice plan n).1.2.ok = false →
      SameAp n ((handleApConfig message args s).run nvsDevice plan n).2) ↔
    KeepsAp plan args n := by
  unfold KeepsAp
  by_cases hchecked : ApConfigChecked args
  swap
  · obtain ⟨e, hrefused⟩ := handleApConfig_unchecked message s hchecked
    rw [hrefused]
    exact iff_of_true (fun _ => ⟨rfl, rfl⟩) fun h => absurd h hchecked
  -- from here on the program is the save of the SSID, and then that of the password
  rw [handleApConfig_checked hchecked, Prog.run_bind_rest, forall_prop_of_true hchecked]
  by_cases hssid : Stores plan .apSsid (savedSsid args)
  swap
  · obtain ⟨hok, hget⟩ := saveString_of_not_stores (n := n) hssid
    rw [hok]
    exact iff_of_true (fun _ => ⟨congrFun hget _, congrFun hget _⟩) fun h => absurd h hssid
  obtain ⟨hok, hget, hrest⟩ := saveString_of_stores (n := n) hssid
  rw [hok, hrest, forall_prop_of_true hssid]
  generalize ((saveString .apSsid (savedSsid args)).run nvsDevice plan n).2 = n₁ at hget ⊢
  cases hcommit : plan 2 NvsOp.commit with
  | true =>
    -- the SSID is in the flash, but its commit failed
    have hnot : ¬ PasswordStores plan args := fun h => by
      have hanswers := h.1
      rw [hcommit] at hanswers
      cases hanswers
    rw [or_iff_right fun h => hnot h.1, and_iff_left fun h => absurd h hnot,
      ← sameAp_ssid_iff hget]
    exact forall_prop_of_true rfl
  | false =>
    rw [show (if (!!false) = true then _ else savePasswordThen message args s)
      = savePasswordThen message args s from rfl]
    by_cases hpass : PasswordStores plan args
    -- both are in the flash, and the last commit decides
    · obtain ⟨hreply, hget'⟩ := savePasswordThen_of_stores message s n₁ hpass.2.1 hpass.2.2
      rw [hget] at hget'
      rw [hreply, and_iff_right hpass, forall_prop_of_true hpass, ← sameAp_both_iff hget']
      cases hlast : plan 5 NvsOp.commit with
      | true =>
        rw [or_iff_right (by simp)]
        exact forall_prop_of_true rfl
      | false => exact iff_of_true nofun (.inl rfl)
    -- the SSID is in the flash alone
    · have hlost : isValidApPassword (savedPassword args) = true →
          ¬ Stores (fun k => plan (k + 3)) .apPass (savedPassword args) :=
        fun hvalid hstores => hpass ⟨hcommit, hvalid, hstores⟩
      obtain ⟨hreply, hget'⟩ := savePasswordThen_of_not_stores message s n₁ hlost
      rw [hget] at hget'
      rw [hreply, or_iff_right fun h => hpass h.1, and_iff_left fun h => absurd h hpass,
        ← sameAp_ssid_iff hget']
      exact forall_prop_of_true rfl

end Request

/-- **When a refused request leaves the stored credentials alone**, for both
endpoints and whatever NVS calls fail. -/
theorem rejected_keeps_ap_iff (b : Board) (millis : UInt32) (n : NvsStore) (s : Sketch)
    (plan : Prog.Plan nvsInterface) {r : Request}
    (hr : r.endpoint = .apConfigSet ∨ r.endpoint = .apConfigApplyReboot) :
    (((handleRequest b millis r s).run nvsDevice plan n).1.2.ok = false →
      SameAp n ((handleRequest b millis r s).run nvsDevice plan n).2) ↔
    KeepsAp plan r.args n := by
  unfold handleRequest
  rcases hr with hend | hend
  · rw [hend]
    exact handleApConfig_keeps_iff
  · rw [hend]
    exact handleApConfig_keeps_iff

/-- Without faults it is the second check that does the harm, and the SSID must
be the old one when it fails. -/
theorem keepsAp_noFault_iff {args : Args} {n : NvsStore} :
    KeepsAp (fun _ _ => false) args n ↔
      (ApConfigChecked args → 63 < (args.arg .password).trim.length →
        (((args.arg .password).trim.substring 63).trim).length < 8 →
          n.get .apSsid = some (.str (savedSsid args).upToNul)) := by
  unfold KeepsAp
  refine forall_congr' fun hchecked => ?_
  have hstores : Stores (fun _ _ => false) .apSsid (savedSsid args) := ⟨rfl, rfl⟩
  have hpass : PasswordStores (fun _ _ => false) args ↔
      isValidApPassword (savedPassword args) = true :=
    ⟨fun h => h.2.1, fun h => ⟨rfl, h, rfl, rfl⟩⟩
  -- without faults only the second check can keep the password out
  have hagain := revalidation_fails_iff hchecked.2.2
  change isValidApPassword (savedPassword args) = false ↔ _ at hagain
  rw [forall_prop_of_true hstores, hpass, and_iff_left rfl]
  cases hvalid : isValidApPassword (savedPassword args) with
  -- it passes, so the password is not one of those that fail it
  | true =>
    refine iff_of_true (.inl rfl) fun hlong hshort => ?_
    have hfails := hagain.mpr ⟨hlong, hshort⟩
    rw [hvalid] at hfails
    cases hfails
  | false =>
    obtain ⟨hlong, hshort⟩ := hagain.mp hvalid
    rw [or_iff_right Bool.false_ne_true, forall_prop_of_true hlong, forall_prop_of_true hshort]
    exact and_iff_left nofun

/-! ### A password at the limit -/

/-- `ap_config_set` with an SSID and a password. -/
def apConfig (ssid password : Str) : Request where
  endpoint := .apConfigSet
  args p := match p with
    | .ssid => some ssid
    | .password => some password
    | _ => none

/-- A password of 64 bytes, whose first 63 are a letter and white space. -/
def longPassword : Str := lit "a" ++ List.replicate 62 32 ++ lit "b"

/-- The commit of the password fails, and both strings were there before. -/
theorem rejected_keeps_ap_iff_same :
    let n := ((handleRequest smallBoard 0 (apConfig (lit "home") (lit "password")) {}).eval
      nvsDevice {}).2
    let plan : Prog.Plan nvsInterface := fun k _ => decide (k = 5)
    (((handleRequest smallBoard 0 (apConfig (lit "home") (lit "password")) {}).run nvsDevice plan
        n).1.2.ok = false →
      SameAp n ((handleRequest smallBoard 0 (apConfig (lit "home") (lit "password")) {}).run
        nvsDevice plan n).2) ↔
    KeepsAp plan (apConfig (lit "home") (lit "password")).args n :=
  rejected_keeps_ap_iff smallBoard 0 _ {} (fun k _ => decide (k = 5)) (.inl rfl)

/-- **Without any fault** a password at the limit is refused once the SSID is
stored: it passes the check of the handler and not that of `saveApPassword`. The
next boot brings up the new SSID with the old password. -/
theorem refused_password_stores_ssid :
    let x := (handleRequest smallBoard 0 (apConfig (lit "home") longPassword) {}).eval nvsDevice {}
    x.1.2.ok = false ∧ ¬ SameAp {} x.2 ∧
      (loadApSsid.eval nvsDevice x.2).1 = lit "home" ∧
      (loadApPassword.eval nvsDevice x.2).1 = (loadApPassword.eval nvsDevice {}).1 := by
  intro x
  refine ⟨by decide +kernel, fun h => ?_, by decide +kernel, by decide +kernel⟩
  have hssid : (x.2.get .apSsid).isSome = false := congrArg Option.isSome h.1
  exact absurd hssid (by decide +kernel)

end RcController
