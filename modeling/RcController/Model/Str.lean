import Mathlib.Data.List.DropRight
import Mathlib.Data.List.GetD
import Mathlib.Data.List.TakeWhile
import Mathlib.Data.Vector.Basic
import Mathlib.Data.Int.Order.Basic
import Mathlib.Tactic.Common

/-!
# Arduino strings and name buffers

The firmware holds text in two shapes: the Arduino `String`, which carries its
length and may contain any byte, and the `char name[24]` buffers of the records
that are stored in NVS, which are read up to the first NUL.

This file models the operations the firmware calls on both. `String::trim`,
`equals`, `equalsIgnoreCase`, `toInt` and `substring` are read off `WString.cpp`;
`toCharArray` is `String::getBytes`, which stops copying at a NUL and leaves the
bytes after the terminator as they were.

What the later files use is collected at the end: a name of at most 23 bytes
without a NUL comes back from the buffer it was written to (`cstr_toCharArray`),
and on such names `equalsIgnoreCase` is equality of the case folds
(`equalsIgnoreCase_iff`).
-/

namespace RcController

/-- The bytes of an Arduino `String`. -/
abbrev Str := List UInt8

/-- The bytes of a string literal. -/
def lit (s : String) : Str := s.toList.map Char.toUInt8

/-- `constrain(x, lo, hi)` of the Arduino core. -/
def constrain {α : Type} [LT α] [DecidableLT α] (x lo hi : α) : α :=
  if x < lo then lo else if hi < x then hi else x

section Constrain

variable {α : Type} [LinearOrder α] {x lo hi : α}

/-- What `constrain` returns lies between the bounds, and what lay there is
returned as it is. -/
theorem constrain_mem (x : α) (h : lo ≤ hi) : lo ≤ constrain x lo hi ∧ constrain x lo hi ≤ hi := by
  unfold constrain
  split_ifs with hlo hhi
  · exact ⟨le_refl lo, h⟩
  · exact ⟨h, le_refl hi⟩
  · exact ⟨not_lt.mp hlo, not_lt.mp hhi⟩

theorem constrain_eq_self (hlo : lo ≤ x) (hhi : x ≤ hi) : constrain x lo hi = x := by
  unfold constrain
  rw [if_neg (not_lt.mpr hlo), if_neg (not_lt.mpr hhi)]

end Constrain

/-- `isspace` of the C locale. -/
def isspace (c : UInt8) : Bool := c = 32 || (9 ≤ c && c ≤ 13)

/-- `isdigit`. -/
def isdigit (c : UInt8) : Bool := 48 ≤ c && c ≤ 57

/-- `tolower` of the C locale. -/
def tolower (c : UInt8) : UInt8 := if 65 ≤ c && c ≤ 90 then c + 32 else c

namespace Str

/-- `String::trim`: white space goes from both ends. -/
def trim (s : Str) : Str := (s.dropWhile isspace).rdropWhile isspace

/-- The loop of `String::equalsIgnoreCase`. It runs to the first NUL of the left
string. -/
def equalsLoop : Str → Str → Bool
  | [], _ => true
  | c :: cs, ds =>
    if c = 0 then true
    else match ds with
      | [] => false
      | d :: ds => if tolower c ≠ tolower d then false else equalsLoop cs ds

/-- `String::equalsIgnoreCase`. -/
def equalsIgnoreCase (s t : Str) : Bool :=
  if s.length ≠ t.length then false else equalsLoop s t

/-- `String::equals(const char *)`. `strcmp` looks no further than the first
NUL, and neither does a comparison with a literal: a string with bytes behind a
NUL is equal to what is before. -/
def equalsCStr (s : Str) (t : String) : Bool := decide (s.takeWhile (· ≠ 0) = lit t)

/-- `String::equals(const String &)`: the lengths are compared first, then
`strcmp` the bytes. -/
def equals (s t : Str) : Bool :=
  s.length = t.length && s.takeWhile (· ≠ 0) = t.takeWhile (· ≠ 0)

/-- `String::startsWith`. `strncmp` stops at a NUL that both strings have. -/
def startsWith (s t : Str) : Bool :=
  t.length ≤ s.length && (s.take t.length).takeWhile (· ≠ 0) = t.takeWhile (· ≠ 0)

/-- `s.replace("\"", "")`. `strstr` finds no quote behind the first NUL, and the
bytes behind that NUL are not moved up: the string loses as many bytes at its
end as it had quotes. -/
def removeQuotes (s : Str) : Str :=
  let text := s.takeWhile (· ≠ 0)
  let kept := text.filter (· ≠ 34)
  (kept ++ 0 :: s.drop (kept.length + 1)).take (s.length - text.count 34)

/-- `String::substring(0, right)`. -/
def substring (s : Str) (right : ℕ) : Str := s.take right

/-- The decimal digits of a number, as `String(n)` writes them. -/
def ofNat (n : ℕ) : Str := (Nat.toDigits 10 n).map Char.toUInt8

/-- `String(n)` for an `int`. -/
def ofInt (n : ℤ) : Str := if n < 0 then 45 :: ofNat n.natAbs else ofNat n.natAbs

/-- The value of the leading decimal digits. -/
def digitsValue (s : Str) : ℤ :=
  (s.takeWhile isdigit).foldl (fun a c => 10 * a + ((c.toNat : ℤ) - 48)) 0

/-- `String::toInt`, that is `atol`: leading white space, a sign, digits. The
value saturates at the bounds of the 32-bit `long`. -/
def toInt (s : Str) : ℤ :=
  let t := (s.takeWhile (· ≠ 0)).dropWhile isspace
  let v := match t with
    | 45 :: r => -digitsValue r
    | 43 :: r => digitsValue r
    | r => digitsValue r
  constrain v (-2147483648) 2147483647

/-- The string with its letters in lower case: what `equalsIgnoreCase`
compares. -/
def fold (s : Str) : Str := s.map tolower

end Str

/-- A `char name[24]` buffer. -/
abbrev CharBuf := Vector UInt8 24

/-- `char name[24] = ""`. -/
def CharBuf.zero : CharBuf := Vector.replicate 24 0

/-- `String(buf)`: the bytes up to the first NUL. -/
def cstr (buf : CharBuf) : Str := buf.toList.takeWhile (· ≠ 0)

/-- `strncpy(buf, src, n)`: at most `n` bytes of the C string `src`, padded with
NULs up to `n`. The bytes from `n` on stay. -/
def strncpy (buf : CharBuf) (src : Str) (n : ℕ) : CharBuf :=
  Vector.ofFn fun j => if j.val < n then (src.takeWhile (· ≠ 0)).getD j.val 0 else buf[j]

/-- `s.toCharArray(buf, 24)`. -/
def toCharArray (s : Str) (buf : CharBuf) : CharBuf :=
  if s = [] then buf.set 0 0
  else (strncpy buf s (min 23 s.length)).setIfInBounds (min 23 s.length) 0

/-- `buf[23] = '\0'`. -/
def terminate (buf : CharBuf) : CharBuf := buf.set 23 0

/-! ### Terminated buffers -/

/-- The last byte of the buffer is NUL, so that it holds a C string. -/
def Terminated (buf : CharBuf) : Prop := buf[23] = 0

instance (buf : CharBuf) : Decidable (Terminated buf) := inferInstanceAs (Decidable (_ = _))

@[simp] theorem terminated_terminate (buf : CharBuf) : Terminated (terminate buf) := by
  simp [Terminated, terminate]

theorem terminated_zero : Terminated CharBuf.zero := by decide

/-- Terminating a terminated buffer changes nothing. The loops that copy names
do it every time. -/
theorem terminate_of_terminated {buf : CharBuf} (h : Terminated buf) : terminate buf = buf := by
  apply Vector.ext
  intro i hi
  by_cases h23 : i = 23
  · subst h23
    simpa [terminate] using h.symm
  · simp [terminate, Ne.symm h23]

/-- Writing a name into a buffer keeps its last byte a NUL, for at most 23 bytes
and a terminator are copied. -/
theorem terminated_toCharArray (s : Str) {buf : CharBuf} (h : Terminated buf) :
    Terminated (toCharArray s buf) := by
  have h' : buf[23] = 0 := h
  unfold Terminated toCharArray
  split
  · simpa using h'
  · rw [Vector.getElem_setIfInBounds]
    split
    · rfl
    · have hlt : ¬ 23 < min 23 s.length := by omega
      simpa [strncpy, hlt] using h'

/-! ### Names in and out of a buffer -/

/-- A text without a NUL is not cut. -/
theorem takeWhile_ne_zero {s : Str} (hnul : ∀ c ∈ s, c ≠ 0) : s.takeWhile (· ≠ 0) = s := by
  rw [List.takeWhile_eq_self_iff]
  intro c hc
  simpa using hnul c hc

/-- A buffer that starts with the bytes of `s` and a NUL holds the C string `s`.
What the buffer holds behind the terminator does not matter. -/
theorem cstr_eq_of_getElem {buf : CharBuf} {s : Str} (hlen : s.length ≤ 23)
    (hnul : ∀ c ∈ s, c ≠ 0) (hget : ∀ (i : ℕ) (hi : i < s.length), buf[i] = s[i])
    (hend : buf[s.length] = 0) : cstr buf = s := by
  -- the buffer is the text, its NUL and what stands behind the NUL
  have hsplit : buf.toList = s ++ 0 :: buf.toList.drop (s.length + 1) := by
    apply List.ext_getElem
    · simp only [Vector.length_toList, List.length_append, List.length_cons, List.length_drop]
      omega
    · intro i h₁ h₂
      rw [Vector.getElem_toList]
      rcases lt_trichotomy i s.length with hi | rfl | hi
      · -- before the NUL, at the NUL and behind it
        rw [List.getElem_append_left hi]
        exact hget i hi
      · rw [List.getElem_append_right (le_refl _)]
        simpa using hend
      · obtain ⟨k, rfl⟩ : ∃ k, i = s.length + 1 + k := ⟨i - s.length - 1, by omega⟩
        rw [List.getElem_append_right (by omega), List.getElem_cons]
        have h0 : s.length + 1 + k - s.length ≠ 0 := by omega
        have hk : s.length + 1 + (s.length + 1 + k - s.length - 1) = s.length + 1 + k := by omega
        rw [dif_neg h0, List.getElem_drop, Vector.getElem_toList]
        simp only [hk]
  unfold cstr
  rw [hsplit, List.takeWhile_append_of_pos (by simpa using hnul)]
  simp

/-- A name of at most 23 bytes without a NUL comes back from the buffer it is
written to, whatever the buffer held. -/
theorem cstr_toCharArray {s : Str} (buf : CharBuf) (hlen : s.length ≤ 23)
    (hnul : ∀ c ∈ s, c ≠ 0) : cstr (toCharArray s buf) = s := by
  have hmin : min 23 s.length = s.length := Nat.min_eq_right hlen
  apply cstr_eq_of_getElem hlen hnul
  · intro i hi
    have hne : s ≠ [] := by rintro rfl; simp at hi
    simp only [toCharArray, hne, if_false, hmin]
    rw [Vector.getElem_setIfInBounds_ne (by omega) (by omega)]
    simp only [strncpy, Vector.getElem_ofFn, hi, if_true, takeWhile_ne_zero hnul]
    exact List.getD_eq_getElem _ _ hi
  · unfold toCharArray
    split
    · next h => subst h; simp
    · simp [hmin]

/-- Copying a name of at most 23 bytes and terminating keeps it. -/
theorem cstr_terminate_strncpy {s : Str} (hlen : s.length ≤ 23) (hnul : ∀ c ∈ s, c ≠ 0)
    (buf : CharBuf) : cstr (terminate (strncpy buf s 23)) = s := by
  apply cstr_eq_of_getElem hlen hnul
  · intro i hi
    have h23 : 23 ≠ i := by omega
    rw [terminate, Vector.getElem_set_ne _ _ h23]
    simp only [strncpy, Vector.getElem_ofFn, takeWhile_ne_zero hnul]
    rw [if_pos (by omega)]
    exact List.getD_eq_getElem _ _ hi
  · -- a name of 23 bytes ends at the NUL that `terminate` writes
    by_cases h23 : 23 = s.length
    · simp only [terminate, ← h23, Vector.getElem_set_self]
    · rw [terminate, Vector.getElem_set_ne _ _ h23]
      simp only [strncpy, Vector.getElem_ofFn, takeWhile_ne_zero hnul]
      rw [if_pos (by omega)]
      exact List.getD_eq_default _ _ (le_refl _)

/-! ### Comparing names -/

namespace Str

@[simp] theorem length_fold (s : Str) : s.fold.length = s.length := by simp [fold]

/-- The loop of `equalsIgnoreCase` compares the folds, byte by byte. It stops at
a NUL in its left text, which is why there may be none. -/
theorem equalsLoop_iff {s t : Str} (hnul : ∀ c ∈ s, c ≠ 0) (hlen : s.length = t.length) :
    equalsLoop s t = true ↔ s.fold = t.fold := by
  induction s generalizing t with
  | nil =>
    obtain rfl : t = [] := List.length_eq_zero_iff.mp hlen.symm
    simp [equalsLoop]
  | cons c cs ih =>
    obtain _ | ⟨d, ds⟩ := t
    · simp at hlen
    · -- the loop stops at a NUL, and the text has none
      have hc : c ≠ 0 := hnul c List.mem_cons_self
      have hcs : ∀ x ∈ cs, x ≠ 0 := fun x hx => hnul x (List.mem_cons_of_mem _ hx)
      have ih' := ih hcs (by simpa using hlen)
      by_cases hcd : tolower c = tolower d
      · simp [equalsLoop, hc, hcd, ih', fold]
      · simp [equalsLoop, hc, hcd, fold]

/-- On strings without a NUL, `equalsIgnoreCase` is equality of the case folds.
Of the right text nothing is asked: the lengths are compared first. -/
theorem equalsIgnoreCase_iff {s t : Str} (hnul : ∀ c ∈ s, c ≠ 0) :
    equalsIgnoreCase s t = true ↔ s.fold = t.fold := by
  unfold equalsIgnoreCase
  by_cases hlen : s.length = t.length
  · simpa [hlen] using equalsLoop_iff hnul hlen
  · simp only [ne_eq, hlen, not_false_eq_true, if_true, Bool.false_eq_true, false_iff]
    intro h
    exact hlen (by simpa using congrArg List.length h)

end Str

end RcController
