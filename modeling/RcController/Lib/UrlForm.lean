import Mathlib.Tactic.IntervalCases

/-!
# URL-encoded forms

How a browser writes the parameters of a form: each name and value encoded byte by byte, the
two joined by an equals sign, the parameters by ampersands (`formText`). Neither sign occurs
in what is encoded, so cutting at them undoes the joining (`fields_formText`).

The reader is not fixed. It has to undo each way of writing a byte (`Decodes`); what it does
with other texts is its own affair.
-/

namespace UrlForm

abbrev Bytes := List UInt8

/-! ### Encoding -/

/-- The bytes that a form keeps as they are; a space becomes a plus sign and all
others their code. -/
def isKept (c : UInt8) : Bool :=
  (48 ≤ c && c ≤ 57) || (65 ≤ c && c ≤ 90) || (97 ≤ c && c ≤ 122) ||
    c = 42 || c = 45 || c = 46 || c = 95

def hexDigit (n : ℕ) : UInt8 := if n < 10 then UInt8.ofNat (48 + n) else UInt8.ofNat (55 + n)

def encodeByte (c : UInt8) : Bytes :=
  if c = 32 then [43]
  else if isKept c then [c]
  else [37, hexDigit (c.toNat / 16), hexDigit (c.toNat % 16)]

def encode (s : Bytes) : Bytes := s.flatMap encodeByte

def pairText (p : Bytes × Bytes) : Bytes := encode p.1 ++ 61 :: encode p.2

/-- The text of a form: names and values encoded, equals signs between them,
ampersands between the parameters. -/
def formText (params : List (Bytes × Bytes)) : Bytes := [38].intercalate (params.map pairText)

/-- A byte that may stand in an encoded text. The two signs may not, and neither
may a NUL. -/
def isCode (c : UInt8) : Bool := c ≠ 38 && c ≠ 61 && c ≠ 0

/-- The bytes that are kept are codes, and so are the digits. -/
theorem isCode_of_isKept {c : UInt8} (h : isKept c = true) : isCode c = true := by
  simp only [isCode, Bool.and_eq_true, decide_eq_true_eq]
  refine ⟨⟨?_, ?_⟩, ?_⟩ <;> rintro rfl <;> exact absurd h (by decide)

theorem isCode_hexDigit {n : ℕ} (h : n < 16) : isCode (hexDigit n) = true := by
  interval_cases n <;> decide

/-- So the code of a byte is made of codes, and so is that of a text. -/
theorem isCode_encodeByte (c : UInt8) : ∀ d ∈ encodeByte c, isCode d = true := by
  intro d hd
  unfold encodeByte at hd
  have hc := c.toNat_lt
  -- a space, a byte that is kept, or a percent sign with two digits
  split at hd
  · rw [List.mem_singleton.mp hd]
    decide
  · split at hd
    · next hkept =>
      rw [List.mem_singleton.mp hd]
      exact isCode_of_isKept hkept
    · simp only [List.mem_cons, List.not_mem_nil, or_false] at hd
      obtain rfl | rfl | rfl := hd
      · decide
      · exact isCode_hexDigit (by omega)
      · exact isCode_hexDigit (by omega)

theorem isCode_encode (s : Bytes) : ∀ d ∈ encode s, isCode d = true := by
  intro d hd
  obtain ⟨c, -, hdc⟩ := List.mem_flatMap.mp hd
  exact isCode_encodeByte c d hdc

/-- A byte that is no code does not occur in one. -/
theorem notMem_encode {s : Bytes} {c : UInt8} (h : isCode c = false) : c ∉ encode s := by
  intro hc
  rw [isCode_encode s c hc] at h
  cases h

/-- A byte that is no code and no equals sign does not occur in a parameter. -/
theorem notMem_pairText {p : Bytes × Bytes} {c : UInt8} (h : isCode c = false) (hc : c ≠ 61) :
    c ∉ pairText p := by
  rw [pairText, List.mem_append, List.mem_cons]
  rintro (hmem | rfl | hmem)
  · exact notMem_encode h hmem
  · exact hc rfl
  · exact notMem_encode h hmem

/-- The text of a form has no NUL. -/
theorem zero_notMem_formText (params : List (Bytes × Bytes)) : 0 ∉ formText params := by
  intro hmem
  unfold formText at hmem
  obtain ⟨piece, hpiece, hzero⟩ := List.mem_flatten.mp hmem
  -- a piece of the text is an ampersand or a parameter
  have hcases : piece = [38] ∨ piece ∈ params.map pairText := by
    clear hmem hzero
    induction params with
    | nil => cases hpiece
    | cons p ps ih =>
      cases ps with
      | nil => exact .inr hpiece
      | cons q qs =>
        simp only [List.map_cons, List.intersperse_cons_cons, List.mem_cons] at hpiece ih ⊢
        obtain rfl | rfl | hpiece := hpiece
        · exact .inr (.inl rfl)
        · exact .inl rfl
        · exact (ih hpiece).imp_right .inr
  obtain rfl | hpair := hcases
  · simp at hzero
  · obtain ⟨p, -, rfl⟩ := List.mem_map.mp hpair
    exact notMem_pairText (by decide) (by decide) hzero

/-! ### Decoding -/

/-- A reader undoes each way of writing a byte. Nothing is said of texts that
are no encoding. -/
structure Decodes (dec : Bytes → Bytes) : Prop where
  nil : dec [] = []
  kept : ∀ {c}, isKept c = true → ∀ s, dec (c :: s) = c :: dec s
  space : ∀ s, dec (43 :: s) = 32 :: dec s
  percent : ∀ c s, dec (37 :: hexDigit (c.toNat / 16) :: hexDigit (c.toNat % 16) :: s) = c :: dec s

section Reader

variable {dec : Bytes → Bytes}

/-- So it undoes the encoding, byte by byte. -/
theorem Decodes.decode_encode (h : Decodes dec) (s : Bytes) : dec (encode s) = s := by
  induction s with
  | nil => exact h.nil
  | cons c s ih =>
    rw [encode, List.flatMap_cons]
    change dec (encodeByte c ++ encode s) = c :: s
    -- one case of the decoder for each case of the encoder
    unfold encodeByte
    split
    · next hspace =>
      rw [List.singleton_append, h.space, ih, hspace]
    · split
      · next hkept => rw [List.singleton_append, h.kept hkept, ih]
      · change dec (37 :: hexDigit (c.toNat / 16) :: hexDigit (c.toNat % 16) :: encode s) = _
        rw [h.percent, ih]

/-- A part of a form: a name and a value around the first equals sign. -/
def field (dec : Bytes → Bytes) (part : Bytes) : Option (Bytes × Bytes) :=
  (part.idxOf? 61).map fun e => (dec (part.take e), dec (part.drop (e + 1)))

/-- The fields of a text: it is cut at the ampersands, and each part at its
first equals sign. A part without one is no field. -/
def fields (dec : Bytes → Bytes) (text : Bytes) : List (Bytes × Bytes) :=
  (text.splitOn 38).filterMap (field dec)

/-- The first occurrence of a byte that does not come before. -/
theorem idxOf?_append_cons {s : Bytes} {c : UInt8} (h : c ∉ s) (t : Bytes) :
    (s ++ c :: t).idxOf? c = some s.length := by
  induction s with
  | nil => simp [List.idxOf?_cons]
  | cons d s ih =>
    have hd : (d == c) = false := by
      rw [beq_eq_false_iff_ne]
      rintro rfl
      exact h List.mem_cons_self
    rw [List.cons_append, List.idxOf?_cons, if_neg (by simp [hd]),
      ih fun hmem => h (List.mem_cons_of_mem d hmem)]
    rfl

/-- A text is cut by the first occurrence of a byte. -/
theorem exists_append_of_idxOf? {s : Bytes} {c : UInt8} {n : ℕ} (h : s.idxOf? c = some n) :
    ∃ pre rest, s = pre ++ c :: rest ∧ c ∉ pre ∧ pre.length = n := by
  have hmem : c ∈ s := List.isSome_idxOf?.mp (by rw [h]; rfl)
  obtain ⟨pre, rest, rfl, hpre⟩ := List.eq_append_cons_of_mem hmem
  rw [idxOf?_append_cons hpre] at h
  exact ⟨pre, rest, rfl, hpre, Option.some.inj h⟩

/-- What does not occur in front of another byte is found behind it. -/
theorem length_lt_of_idxOf? {pre rest : Bytes} {c d : UInt8} {n : ℕ} (hpre : c ∉ pre) (hd : d ≠ c)
    (h : (pre ++ d :: rest).idxOf? c = some n) : pre.length < n := by
  obtain ⟨hlt, hget, -⟩ := List.idxOf?_eq_some_iff.mp h
  by_contra hle
  obtain hlt' | heq := Nat.lt_or_eq_of_le (Nat.not_lt.mp hle)
  · rw [List.getElem_append_left hlt'] at hget
    exact hpre (hget ▸ List.getElem_mem hlt')
  · subst heq
    simp only [List.getElem_append_right (Nat.le_refl _), Nat.sub_self, List.getElem_cons_zero]
      at hget
    exact hd hget

/-- A part is cut at its first equals sign, and is no field without one. -/
theorem field_append_cons {name : Bytes} (h : 61 ∉ name) (value : Bytes) :
    field dec (name ++ 61 :: value) = some (dec name, dec value) := by
  unfold field
  rw [idxOf?_append_cons h, Option.map_some, List.take_left, List.drop_append,
    List.drop_eq_nil_of_le (by simp), Nat.add_sub_cancel_left, List.nil_append]
  rfl

theorem field_of_notMem {part : Bytes} (h : 61 ∉ part) : field dec part = none := by
  unfold field
  rw [List.idxOf?_eq_none_iff.mpr h, Option.map_none]

/-- A text without an ampersand is one part, and with one it is a part and the
rest. -/
theorem fields_of_notMem {text : Bytes} (h : 38 ∉ text) :
    fields dec text = (field dec text).toList := by
  rw [fields, List.splitOn_eq_singleton h]
  cases hfield : field dec text <;> simp [hfield]

theorem fields_append_cons {part : Bytes} (h : 38 ∉ part) (rest : Bytes) :
    fields dec (part ++ 38 :: rest) = (field dec part).toList ++ fields dec rest := by
  rw [fields, List.splitOn_append_cons_self_of_not_mem h]
  cases hfield : field dec part <;> simp [hfield, fields]

/-- A parameter that is written down is read again. -/
theorem Decodes.field_pairText (h : Decodes dec) (p : Bytes × Bytes) :
    field dec (pairText p) = some p := by
  rw [pairText, field_append_cons (notMem_encode (by decide)), h.decode_encode, h.decode_encode]

/-- **A form that is written down is read again.** The induction is over the
parameters; the last one is followed by no ampersand. -/
theorem Decodes.fields_formText (h : Decodes dec) (params : List (Bytes × Bytes)) :
    fields dec (formText params) = params := by
  unfold fields formText
  cases params with
  | nil =>
    -- the empty text is one part, which has no equals sign
    rfl
  | cons p ps =>
    rw [List.splitOn_intercalate]
    · rw [List.filterMap_map]
      have hfield : field dec ∘ pairText = some := funext fun q => h.field_pairText q
      rw [hfield, List.filterMap_some]
    · intro part hpart
      obtain ⟨q, -, rfl⟩ := List.mem_map.mp hpart
      exact notMem_pairText (by decide) (by decide)
    · exact List.cons_ne_nil _ _

end Reader

end UrlForm
