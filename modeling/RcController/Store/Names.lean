import RcController.Model.PresetStore

/-!
# Preset names

Every name that reaches the store went through `sanitizePresetName`, most of them more
than once: a handler sanitizes what it is sent, and the store sanitizes what it is
given. A sanitized name is short enough for its buffer, holds no NUL and is left alone
by another pass (`sanitize_of_sanitized`), so that the second pass does not matter.

Two names are the same preset when they agree up to case. That is equality of the folds
(`equalsIgnoreCase_iff`); the handlers compare names byte by byte instead.
-/

namespace RcController

/-- What `sanitizePresetName` makes of a name: at least one and at most 23
characters, all of them from its alphabet. -/
structure SanitizedName (s : Str) : Prop where
  nonempty : s ≠ []
  short : s.length ≤ 23
  chars : ∀ c ∈ s, nameCharOk c = true

instance (s : Str) : Decidable (SanitizedName s) :=
  decidable_of_iff (s ≠ [] ∧ s.length ≤ 23 ∧ s.all nameCharOk = true)
    ⟨fun h => ⟨h.1, h.2.1, List.all_eq_true.mp h.2.2⟩,
      fun h => ⟨h.nonempty, h.short, List.all_eq_true.mpr h.chars⟩⟩

/-- A character of a name is no NUL. -/
theorem nameCharOk_ne_zero {c : UInt8} (h : nameCharOk c = true) : c ≠ 0 := by
  rintro rfl
  exact absurd h (by decide)

/-- A character of a name is no white space. -/
theorem nameCharOk_not_space {c : UInt8} (h : nameCharOk c = true) : isspace c = false := by
  unfold nameCharOk at h
  unfold isspace
  simp only [Bool.or_eq_true, Bool.and_eq_true, decide_eq_true_eq, UInt8.le_iff_toNat_le,
    ← UInt8.toNat_inj, UInt8.reduceToNat] at h
  simp only [Bool.or_eq_false_iff, Bool.and_eq_false_iff, decide_eq_false_iff_not,
    UInt8.le_iff_toNat_le, ← UInt8.toNat_inj, UInt8.reduceToNat]
  omega

/-- So a sanitized name has no NUL. -/
theorem SanitizedName.ne_zero {s : Str} (h : SanitizedName s) : ∀ c ∈ s, c ≠ 0 := fun c hc =>
  nameCharOk_ne_zero (h.chars c hc)

/-- The loop keeps the name it builds short and clean. It starts with the empty
name, and every step adds a character of the alphabet or none. -/
theorem sanitizeLoop_ok (s : Str) {out : Str} (hlen : out.length ≤ 23)
    (hchars : ∀ c ∈ out, nameCharOk c = true) :
    (sanitizeLoop s out).length ≤ 23 ∧ ∀ c ∈ sanitizeLoop s out, nameCharOk c = true := by
  induction s generalizing out with
  | nil => exact ⟨hlen, hchars⟩
  | cons c cs ih =>
    rw [sanitizeLoop]
    split
    · next hroom =>
      -- either the character itself is pushed or an underscore for it
      have hpush : ∀ d, nameCharOk d = true →
          (sanitizeLoop cs (out ++ [d])).length ≤ 23 ∧
            ∀ c ∈ sanitizeLoop cs (out ++ [d]), nameCharOk c = true := by
        intro d hd
        refine ih (by simp; omega) fun c hc => ?_
        rcases List.mem_append.mp hc with hc | hc
        · exact hchars c hc
        · rw [List.mem_singleton.mp hc]
          exact hd
      split
      · next hok => exact hpush c hok
      · split
        · exact hpush 95 (by decide)
        · exact ih hlen hchars
    · exact ⟨hlen, hchars⟩

/-- What `sanitizePresetName` returns is a sanitized name. An empty result is
replaced. -/
theorem sanitizedName_sanitize (raw : Str) : SanitizedName (sanitizePresetName raw) := by
  obtain ⟨hlen, hchars⟩ := sanitizeLoop_ok raw.trim (show ([] : Str).length ≤ 23 by simp) (by simp)
  unfold sanitizePresetName
  dsimp only
  split
  · decide
  · next hne => exact ⟨hne, hlen, hchars⟩

/-- The loop copies clean characters as long as there is room. -/
theorem sanitizeLoop_eq_append (s : Str) {out : Str} (hlen : out.length + s.length ≤ 23)
    (hchars : ∀ c ∈ s, nameCharOk c = true) : sanitizeLoop s out = out ++ s := by
  induction s generalizing out with
  | nil => simp [sanitizeLoop]
  | cons c cs ih =>
    have hroom : out.length < 23 := by
      simp only [List.length_cons] at hlen
      omega
    rw [sanitizeLoop, if_pos hroom, if_pos (hchars c List.mem_cons_self), ih]
    · simp
    · rw [List.length_append, List.length_singleton]
      rw [List.length_cons] at hlen
      omega
    · exact fun d hd => hchars d (List.mem_cons_of_mem c hd)

/-- There is nothing to trim in a sanitized name. -/
theorem trim_of_sanitized {s : Str} (h : SanitizedName s) : s.trim = s := by
  have hleft : s.dropWhile isspace = s := by
    cases s with
    | nil => rfl
    | cons c cs => simp [nameCharOk_not_space (h.chars c List.mem_cons_self)]
  unfold Str.trim
  rw [hleft, List.rdropWhile_eq_self_iff]
  intro hne
  simpa using nameCharOk_not_space (h.chars _ (List.getLast_mem hne))

/-- **A sanitized name is left alone.** -/
theorem sanitize_of_sanitized {s : Str} (h : SanitizedName s) : sanitizePresetName s = s := by
  unfold sanitizePresetName
  dsimp only
  rw [trim_of_sanitized h, sanitizeLoop_eq_append s (by simpa using h.short) h.chars,
    List.nil_append, if_neg h.nonempty]

/-- So sanitizing twice is sanitizing once. -/
theorem sanitize_sanitize (raw : Str) :
    sanitizePresetName (sanitizePresetName raw) = sanitizePresetName raw :=
  sanitize_of_sanitized (sanitizedName_sanitize raw)

/-- A sanitized name in a buffer is a terminated C string that reads back. -/
theorem SanitizedName.buffer {s : Str} (h : SanitizedName s) :
    Terminated (toCharArray s CharBuf.zero) ∧ cstr (toCharArray s CharBuf.zero) = s :=
  ⟨terminated_toCharArray s terminated_zero, cstr_toCharArray _ h.short h.ne_zero⟩

/-- A copy of a sanitized name made by the compaction loop reads back as
well. -/
theorem SanitizedName.copy {s : Str} (h : SanitizedName s) (buf : CharBuf) :
    Terminated (terminate (strncpy buf s 23)) ∧ cstr (terminate (strncpy buf s 23)) = s :=
  ⟨terminated_terminate _, cstr_terminate_strncpy h.short h.ne_zero buf⟩

end RcController
