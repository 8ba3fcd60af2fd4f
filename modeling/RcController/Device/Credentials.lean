import RcController.Device.AccessPoint
import RcController.Store.Writes

/-!
# The credentials after a reboot

`ap_config_set` trims and cuts the two strings, reports them, and stores them; they are
trimmed and cut again when they are saved, and once more when they are loaded. The second and
the third time change something only when the first cut left white space at the end. And a
C string ends at its first NUL, so what follows one is never stored (`reload_iff`).

No other request writes under the two keys, so the strings stay in the flash until the next
boot, whatever happens in between (`holdsAp_step`). `ap_survives_reboot_iff` says of every accepted
request whether the device comes up with the credentials it reported.
-/

namespace RcController

open DeviceProg Runs

/-! ### Trimming and cutting twice -/

/-- One pass over a text: white space at both ends is dropped, and then what is
over the limit. -/
def clip (limit : ℕ) (s : Str) : Str := s.trim.substring limit

/-- The pass over a password trims and cuts, and does nothing else. -/
theorem sanitizeApPassword_eq (raw : Str) : sanitizeApPassword raw = clip 63 raw := by
  unfold sanitizeApPassword clip Str.substring
  dsimp only
  split
  · rfl
  · next hshort => exact (List.take_of_length_le (not_lt.mp hshort)).symm

/-- The pass over an SSID does too, and puts the default in the place of an
empty text. -/
theorem sanitizeApSsid_eq (raw : Str) :
    sanitizeApSsid raw = if raw.trim = [] then kDefaultApSsid else clip 31 raw := by
  unfold sanitizeApSsid clip Str.substring
  dsimp only
  split
  · rfl
  · split
    · rfl
    · next hshort => exact (List.take_of_length_le (not_lt.mp hshort)).symm

/-- Neither clipping nor the copy as a C string adds anything, and the copy
loses nothing when no byte is NUL. -/
theorem clip_sublist (limit : ℕ) (s : Str) : List.Sublist (clip limit s) s :=
  (List.take_sublist _ _).trans
    ((List.rdropWhile_prefix isspace _).sublist.trans (List.dropWhile_sublist isspace))

theorem upToNul_sublist (s : Str) : List.Sublist s.upToNul s := List.takeWhile_sublist _

theorem upToNul_eq_self_iff {s : Str} : s.upToNul = s ↔ ∀ c ∈ s, c ≠ 0 := by
  unfold Str.upToNul
  rw [List.takeWhile_eq_self_iff]
  simp

/-- A clipped text starts with no white space. It may end with some, for the cut
comes after the trim. -/
theorem isspace_head_clip {limit : ℕ} {raw : Str} {c : UInt8}
    (h : (clip limit raw).head? = some c) : isspace c = false := by
  unfold clip Str.substring at h
  rw [List.head?_take] at h
  split at h
  · cases h
  · exact isspace_head_trim h

/-- **Clipping a clipped text** changes it when it ends in white space. The head
is clean and the length is within the limit, so the trim at the end is all that
is left to do. -/
theorem clip_clip_iff {limit : ℕ} {raw : Str} :
    clip limit (clip limit raw) = clip limit raw ↔
      ∀ c, (clip limit raw).getLast? = some c → isspace c = false := by
  have hlen : (clip limit raw).length ≤ limit := List.length_take_le _ _
  have hhead := @isspace_head_clip limit raw
  generalize clip limit raw = x at hlen hhead
  cases x with
  | nil => exact iff_of_true List.take_nil nofun
  -- the head is no white space, so a trim takes off the end only, and the cut nothing
  | cons c cs =>
    have htrim := (trim_of_head (s := c :: cs) rfl (hhead rfl)).1
    have hshort : ((c :: cs).rdropWhile isspace).length ≤ limit :=
      (List.rdropWhile_prefix isspace _).length_le.trans hlen
    have hcut : clip limit (c :: cs) = (c :: cs).rdropWhile isspace := by
      unfold clip Str.substring
      rw [htrim, List.take_of_length_le hshort]
    rw [hcut, List.rdropWhile_eq_self_iff]
    simp [List.getLast?_eq_some_getLast]

/-- What a text must be to come back: clipped once, it holds no NUL and ends in
no white space. -/
def SurvivesReload (limit : ℕ) (raw : Str) : Prop :=
  (∀ c ∈ clip limit raw, c ≠ 0) ∧
    ∀ c, (clip limit raw).getLast? = some c → isspace c = false

/-- A text that comes back is clipped already, and ends at no NUL. Both are
conditions on the clipped text, which is the one that was reported. -/
theorem survivesReload_iff {limit : ℕ} {raw : Str} : SurvivesReload limit raw ↔
    (clip limit raw).upToNul = clip limit raw ∧ clip limit (clip limit raw) = clip limit raw := by
  unfold SurvivesReload
  rw [upToNul_eq_self_iff, clip_clip_iff]

/-- **Save and load** give back a clipped text exactly when it survives. Neither
adds anything, so a text that comes back lost nothing on the way. -/
theorem reload_iff {limit : ℕ} {raw : Str} :
    clip limit (clip limit (clip limit raw)).upToNul = clip limit raw ↔
      SurvivesReload limit raw := by
  rw [survivesReload_iff]
  generalize clip limit raw = x
  constructor
  · intro h
    have hload := clip_sublist limit (clip limit x).upToNul
    have hstore := upToNul_sublist (clip limit x)
    have hsave := clip_sublist limit x
    rw [h] at hload
    -- each pass can only take bytes away, and in the end none is missing
    have hlen := hload.length_le.trans hstore.length_le
    have hclip : clip limit x = x := hsave.eq_of_length_le hlen
    rw [hclip] at hload hstore ⊢
    exact ⟨hstore.eq_of_length_le hload.length_le, rfl⟩
  · rintro ⟨hnul, hclip⟩
    rw [hclip, hnul, hclip]

/-! ### The two strings -/

/-- What comes up for an SSID: it is sanitized when it is reported, again when
it is saved as a C string, and a third time when it is loaded. -/
def reloadedSsid (ssid : Str) : Str := sanitizeApSsid (sanitizeApSsid ssid).upToNul

/-- And for a password, which is checked once more when it is loaded. One that
fails the check gives way to the default. -/
def reloadedPassword (pass : Str) : Str :=
  let pass := sanitizeApPassword (sanitizeApPassword pass).upToNul
  if isValidApPassword pass then pass else kDefaultApPassword

/-- **The SSID comes back** exactly when it survives. An empty one is the
default, which does. Otherwise the default could still come in at the second or
third pass, and the proof has to tell it from the text that was reported. -/
theorem reloadedSsid_iff {raw : Str} :
    reloadedSsid (sanitizeApSsid raw) = sanitizeApSsid raw ↔ SurvivesReload 31 raw := by
  unfold reloadedSsid
  rw [sanitizeApSsid_eq raw]
  by_cases hempty : raw.trim = []
  · rw [if_pos hempty]
    have hnil : clip 31 raw = [] := by
      unfold clip
      rw [hempty]
      rfl
    refine iff_of_true (by decide +kernel) ?_
    unfold SurvivesReload
    rw [hnil]
    exact ⟨nofun, nofun⟩
  rw [if_neg hempty, ← reload_iff]
  -- the text starts with something, so that the first pass does not put in the default
  have hne : (clip 31 raw).trim ≠ [] := by
    obtain ⟨c, hhead⟩ : ∃ c, (clip 31 raw).head? = some c := by
      unfold clip Str.substring
      rw [List.head?_take, if_neg (by decide)]
      cases h : raw.trim.head? with
      | none => exact absurd (List.head?_eq_none_iff.mp h) hempty
      | some c => exact ⟨c, rfl⟩
    exact (trim_of_head hhead (isspace_head_clip hhead)).2
  generalize clip 31 raw = x at hne
  rw [sanitizeApSsid_eq x, if_neg hne, sanitizeApSsid_eq]
  by_cases hlost : (clip 31 x).upToNul.trim = []
  · -- nothing is left before the first NUL: the default comes up, which is not `x`
    have hnil : clip 31 (clip 31 x).upToNul = [] := by
      unfold clip at hlost ⊢
      rw [hlost]
      rfl
    rw [if_pos hlost, hnil]
    refine iff_of_false (fun hdefault => ?_) fun hx => hne (hx ▸ rfl)
    subst hdefault
    exact absurd hlost (by decide +kernel)
  · rw [if_neg hlost]

/-- **The password comes back** exactly when it survives; the default takes the
place of one that is no longer valid. -/
theorem reloadedPassword_iff {raw : Str}
    (h : isValidApPassword (sanitizeApPassword raw) = true) :
    reloadedPassword (sanitizeApPassword raw) = sanitizeApPassword raw ↔
      SurvivesReload 63 raw := by
  unfold reloadedPassword
  dsimp only
  rw [sanitizeApPassword_eq raw] at h ⊢
  rw [sanitizeApPassword_eq (clip 63 raw), sanitizeApPassword_eq, ← reload_iff]
  generalize clip 63 raw = x at h
  cases hvalid : isValidApPassword (clip 63 (clip 63 x).upToNul) with
  | true => exact Iff.rfl
  | false =>
    rw [if_neg Bool.false_ne_true]
    refine iff_of_false (fun hdefault => ?_) fun hx => ?_
    -- the default itself comes back as it is
    · subst hdefault
      exact absurd hvalid (by decide +kernel)
    · rw [hx, h] at hvalid
      cases hvalid

/-! ### The request -/

/-- The flash holds the two strings under their keys. -/
structure HoldsAp (ssid pass : Str) (n : NvsStore) : Prop where
  created : n.created = true
  ssid : n.get .apSsid = some (.str ssid)
  pass : n.get .apPass = some (.str pass)

section Accepted

variable {args : Args} {s : Sketch} {n : NvsStore} {message : String}

/-- **What an accepted request leaves**: the first pass is reported, the second
is in the flash. That the reply is ok rules out each of the errors, the second
check of the password among them. -/
theorem accepted_apConfig (h : ((handleApConfig message args s).eval nvsDevice n).1.2.ok = true) :
    let x := (handleApConfig message args s).eval nvsDevice n
    isValidApPassword (sanitizeApPassword (args.arg .password)) = true ∧
      x.1.1.apSsid = sanitizeApSsid (args.arg .ssid) ∧
      x.1.1.apPassword = sanitizeApPassword (args.arg .password) ∧
      HoldsAp (savedSsid args).upToNul (savedPassword args).upToNul x.2 := by
  by_cases hchecked : ApConfigChecked args
  swap
  · obtain ⟨e, hrefused⟩ := handleApConfig_unchecked message s hchecked
    rw [hrefused] at h
    cases h
  intro x
  refine ⟨hchecked.2.2, ?_⟩
  have hsave : ∀ key text t, (saveString key text).eval nvsDevice t
      = (true, ({ t with created := true } : NvsStore).set key (.str text.upToNul)) :=
    fun _ _ _ => rfl
  have hx : x = (savePasswordThen message args s).eval nvsDevice
      (({ n with created := true } : NvsStore).set .apSsid (.str (savedSsid args).upToNul)) := by
    change (handleApConfig message args s).eval nvsDevice n = _
    -- the SSID is in the flash before the password is looked at again
    rw [handleApConfig_checked hchecked, Prog.eval_bind, hsave]
    rfl
  change x.1.2.ok = true at h
  rw [hx] at h ⊢
  unfold savePasswordThen at h ⊢
  -- the second check has to pass as well
  by_cases hvalid : isValidApPassword (savedPassword args) = true
  swap
  · rw [saveApPassword_invalid hvalid] at h
    cases h
  have hpass : saveApPassword (sanitizeApPassword (args.arg .password))
      = saveString .apPass (savedPassword args) := saveApPassword_valid hvalid
  rw [hpass, Prog.bind_eq, Prog.eval_bind, hsave]
  have hssid := NvsStore.get_set_self ({ n with created := true } : NvsStore) .apSsid
    (.str (savedSsid args).upToNul)
  exact ⟨rfl, rfl, rfl, (NvsStore.get_set_of_ne _ (by simp) _).trans hssid,
    NvsStore.get_set_self ..⟩

end Accepted

/-! ### The next boot -/

/-- The events that write under the two keys. -/
def AsksAp : Event → Prop
  | .request r _ _ => r.endpoint = .apConfigSet ∨ r.endpoint = .apConfigApplyReboot
  | _ => False

/-- Any other event leaves both strings in the flash, whatever fails. A handler
that is not one of these two has no call in it that writes under their keys, so
no plan of faults can make it. -/
theorem holdsAp_step {b : Board} {s : System} {e : Event} {ssid pass : Str}
    (h : HoldsAp ssid pass s.nvs) (he : ¬ AsksAp e) : HoldsAp ssid pass (s.step b e).nvs := by
  cases e with
  | request r plan restartPlan =>
    have hset : r.endpoint ≠ .apConfigSet := fun hend => he (.inl hend)
    have hreboot : r.endpoint ≠ .apConfigApplyReboot := fun hend => he (.inr hend)
    -- a request of any other kind writes under other keys
    have hwrites := writesModels_handleRequest b s.millis s.sketch hset hreboot
    have hmodels : ¬ NvsKey.apSsid.OfModels ∧ ¬ NvsKey.apPass.OfModels := ⟨id, id⟩
    obtain ⟨hssid, hcreated⟩ := writesModels_run hwrites plan h.created hmodels.1
    obtain ⟨hpass, -⟩ := writesModels_run hwrites plan h.created hmodels.2
    change HoldsAp ssid pass (s.request b r plan restartPlan).nvs
    rw [request_eq hreboot]
    exact ⟨hcreated, hssid.trans h.ssid, hpass.trans h.pass⟩
  | tick _ => exact h
  | schedulerTick => exact h
  | connect _ _ => exact h
  | disconnect _ => exact h
  | elapse _ => exact h

/-- So both are there after any other events. -/
theorem holdsAp_run {b : Board} {ssid pass : Str} {es : List Event} (hes : ∀ e ∈ es, ¬ AsksAp e)
    {s : System} (h : HoldsAp ssid pass s.nvs) :
    HoldsAp ssid pass (run (System.step b) s es).nvs :=
  run_invariant (I := fun t : System => HoldsAp ssid pass t.nvs) (C := fun _ e => ¬ AsksAp e)
    (fun _ _ ht he => holdsAp_step ht he) h (stepsMeet_of_mem hes s)

/-- A string that fits its buffer is read in full, with the NUL behind it. -/
theorem eval_loadString {n : NvsStore} {key : NvsKey} {limit : ℕ} {text : Str}
    (hcreated : n.created = true) (hget : n.get key = some (.str text))
    (hlen : text.length + 1 ≤ limit) :
    (loadString key limit).eval nvsDevice n = (some text, n) := by
  have hstr : n.getStr key = some text := by
    unfold NvsStore.getStr
    rw [hget]
  unfold loadString
  simp only [Prog.bind_eq, eval_openReadonly, hcreated, Bool.not_true, Bool.false_eq_true, if_false,
    eval_getStr, hstr, if_neg (not_lt.mpr hlen)]
  change (n.getStr key, n) = _
  rw [hstr]

/-- What `setup()` reads as the credentials. The boot preset is read before
them, and reading leaves the flash alone. -/
theorem ap_boot (b : Board) (n : NvsStore) {plan : Prog.Plan nvsInterface}
    (hplan : ∀ k o, plan k o = false) (millis : UInt32) :
    (System.boot b n plan millis).sketch.apSsid = (loadApSsid.eval nvsDevice n).1 ∧
      (System.boot b n plan millis).sketch.apPassword = (loadApPassword.eval nvsDevice n).1 := by
  rw [sketch_boot, Prog.run_of_noFault nvsDevice hplan]
  unfold startup
  simp only [Prog.bind_eq, Prog.eval_bind, reads_eval reads_loadApSsid,
    reads_eval reads_loadApPassword]
  exact ⟨rfl, rfl⟩

/-- What is loaded from the strings in the flash. The buffers are of 64 and 80
bytes, and the limits on what is saved keep both strings within them. -/
theorem load_holdsAp {n : NvsStore} {ssid pass : Str}
    (h : HoldsAp (sanitizeApSsid ssid).upToNul (sanitizeApPassword pass).upToNul n) :
    (loadApSsid.eval nvsDevice n).1 = reloadedSsid ssid ∧
      (loadApPassword.eval nvsDevice n).1 = reloadedPassword pass := by
  have hssid : (sanitizeApSsid ssid).upToNul.length + 1 ≤ 64 := by
    have hlen := (upToNul_sublist (sanitizeApSsid ssid)).length_le
    have hshort : (sanitizeApSsid ssid).length ≤ 31 := by
      rw [sanitizeApSsid_eq]
      split
      · decide
      · exact List.length_take_le _ _
    omega
  have hpass : (sanitizeApPassword pass).upToNul.length + 1 ≤ 80 := by
    have hlen := (upToNul_sublist (sanitizeApPassword pass)).length_le
    have hshort : (sanitizeApPassword pass).length ≤ 63 := by
      rw [sanitizeApPassword_eq]
      exact List.length_take_le _ _
    omega
  -- with room for the terminator both are read in full
  unfold loadApSsid loadApPassword
  simp only [Prog.bind_eq, Prog.eval_bind, eval_loadString h.created h.ssid hssid,
    eval_loadString h.created h.pass hpass, Prog.pure_eq, Prog.eval_pure]
  exact ⟨rfl, rfl⟩

/-- **When the credentials survive a reboot.** A request that is accepted
without faults reports and stores an SSID and a password. Whatever happens until
the next boot, other requests with faults of their own included, the device
comes up with both as they were reported exactly when each of the two strings,
trimmed and cut to its limit, holds no NUL and ends in no white space. -/
theorem ap_survives_reboot_iff (b : Board) (s : System) {r : Request}
    (hend : r.endpoint = .apConfigSet) {plan restartPlan bootPlan : Prog.Plan nvsInterface}
    (hplan : ∀ k o, plan k o = false) (hboot : ∀ k o, bootPlan k o = false)
    (hok : ((handleRequest b s.millis r s.sketch).eval nvsDevice s.nvs).1.2.ok = true)
    {es : List Event} (hes : ∀ e ∈ es, ¬ AsksAp e) (millis : UInt32) :
    let reported := s.step b (.request r plan restartPlan)
    let booted := System.boot b (run (System.step b) reported es).nvs bootPlan millis
    (booted.sketch.apSsid = reported.sketch.apSsid ∧
        booted.sketch.apPassword = reported.sketch.apPassword) ↔
      SurvivesReload 31 (r.args.arg .ssid) ∧ SurvivesReload 63 (r.args.arg .password) := by
  intro reported booted
  have hhandler : handleRequest b s.millis r s.sketch
      = handleApConfig "AP config saved. Reboot required to apply." r.args s.sketch := by
    unfold handleRequest
    rw [hend]
    rfl
  have hreported : reported = { s with
      sketch := ((handleRequest b s.millis r s.sketch).eval nvsDevice s.nvs).1.1
      nvs := ((handleRequest b s.millis r s.sketch).eval nvsDevice s.nvs).2 } := by
    rw [← Prog.run_of_noFault nvsDevice hplan]
    exact request_eq (by rw [hend]; exact Endpoint.noConfusion) plan restartPlan
  rw [hhandler] at hok hreported
  obtain ⟨hvalid, hssid, hpass, hholds⟩ := accepted_apConfig hok
  -- the strings are still there at the end of the run
  have hrun : HoldsAp (savedSsid r.args).upToNul (savedPassword r.args).upToNul
      (run (System.step b) reported es).nvs := by
    refine holdsAp_run hes ?_
    rw [hreported]
    exact hholds
  obtain ⟨hbootSsid, hbootPass⟩ := ap_boot b (run (System.step b) reported es).nvs hboot millis
  obtain ⟨hloadSsid, hloadPass⟩ := load_holdsAp hrun
  rw [hbootSsid, hbootPass, hloadSsid, hloadPass, hreported, hssid, hpass]
  exact and_congr reloadedSsid_iff (reloadedPassword_iff hvalid)

/-- Credentials without white space at the end, and a second that passes before
the reboot. -/
theorem ap_survives_reboot_iff_home :
    let s := System.boot smallBoard {} (fun _ _ => false) 0
    let reported := s.step smallBoard
      (.request (apConfig (lit " home ") (lit "password")) (fun _ _ => false) fun _ _ => false)
    let booted := System.boot smallBoard
      (run (System.step smallBoard) reported [.elapse 1000]).nvs (fun _ _ => false) 0
    (booted.sketch.apSsid = reported.sketch.apSsid ∧
        booted.sketch.apPassword = reported.sketch.apPassword) ↔
      SurvivesReload 31 (lit " home ") ∧ SurvivesReload 63 (lit "password") :=
  ap_survives_reboot_iff smallBoard _ rfl (fun _ _ => rfl) (fun _ _ => rfl) (by decide +kernel)
    (by rintro e he; rw [List.mem_singleton.mp he]; exact id) 0

/-- Thirty letters, a space and one more letter. The cut to 31 bytes leaves the
space at the end. -/
def spacedSsid : Str := List.replicate 30 97 ++ lit " b"

/-- The SSID is accepted and reported with a space at its end, and comes up
without it. The device then opens an access point under another name than it
announced. -/
theorem reported_ssid_loses_space :
    let s := System.boot smallBoard {} (fun _ _ => false) 0
    let request := apConfig spacedSsid (lit "password")
    let reported := s.step smallBoard (.request request (fun _ _ => false) fun _ _ => false)
    let booted := System.boot smallBoard reported.nvs (fun _ _ => false) 0
    ((handleRequest smallBoard 0 request s.sketch).eval nvsDevice s.nvs).1.2.ok = true ∧
      reported.sketch.apSsid = List.replicate 30 97 ++ lit " " ∧
      booted.sketch.apSsid = List.replicate 30 97 ∧
      booted.sketch.apSsid ≠ reported.sketch.apSsid := by
  refine ⟨?_, ?_, ?_, ?_⟩ <;> decide +kernel

end RcController
