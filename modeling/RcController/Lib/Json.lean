import Mathlib.Data.List.TakeWhile
import Mathlib.Tactic.Common

/-!
# JSON texts

JSON over bytes: the trees, a reader, and a printer that leaves open how a string is
escaped and how a number is written.

The reader takes white space between tokens, every escape of a string (with surrogate
pairs) and numbers that are integers, so it reads texts no printer here produces. The
bytes of a string are not decoded: a `\u` escape stands for the UTF-8 bytes of its
character, every other byte for itself. It refuses control characters in strings,
leading zeros, and anything after the value but white space.

A `Printer` carries the two facts the reader needs of it as fields. Whatever it prints
is then read back as the tree it was printed from (`parse_print`): commas and colons
are where the reader looks for them, after any nested value.
-/

namespace Json

abbrev Bytes := List UInt8

/-- A value of JSON whose numbers are integers. An object is a list of members,
in the order in which they stand. -/
inductive Tree where
  | string (s : Bytes)
  | int (n : ℤ)
  | bool (v : Bool)
  | array (items : List Tree)
  | object (members : List (Bytes × Tree))

namespace Tree

/-- Induction over trees, by the items and members of a node. The principle Lean
derives for a nested type speaks of lists of trees; here their members are
spoken of directly. -/
@[elab_as_elim]
theorem induction {motive : Tree → Prop} (string : ∀ s, motive (.string s))
    (int : ∀ n, motive (.int n)) (bool : ∀ v, motive (.bool v))
    (array : ∀ items, (∀ t ∈ items, motive t) → motive (.array items))
    (object : ∀ members, (∀ m ∈ members, motive m.2) → motive (.object members)) :
    ∀ t, motive t := by
  intro t
  refine @Tree.rec motive (fun items => ∀ t ∈ items, motive t)
    (fun members => ∀ m ∈ members, motive m.2) (fun m => motive m.2)
    string int bool array object ?_ ?_ ?_ ?_ ?_ t
  all_goals simp_all

mutual

/-- How deep the arrays and objects of a tree nest. -/
def depth : Tree → ℕ
  | .array items => depthItems items + 1
  | .object members => depthMembers members + 1
  | .string _ => 0
  | .int _ => 0
  | .bool _ => 0

def depthItems : List Tree → ℕ
  | [] => 0
  | t :: ts => max t.depth (depthItems ts)

def depthMembers : List (Bytes × Tree) → ℕ
  | [] => 0
  | (_, t) :: ms => max t.depth (depthMembers ms)

end

mutual

/-- A property of every text of a tree, the keys of its members included. -/
def AllText (P : Bytes → Prop) : Tree → Prop
  | .string s => P s
  | .array items => allTextItems P items
  | .object members => allTextMembers P members
  | .int _ => True
  | .bool _ => True

def allTextItems (P : Bytes → Prop) : List Tree → Prop
  | [] => True
  | t :: ts => t.AllText P ∧ allTextItems P ts

def allTextMembers (P : Bytes → Prop) : List (Bytes × Tree) → Prop
  | [] => True
  | (k, t) :: ms => P k ∧ t.AllText P ∧ allTextMembers P ms

end

end Tree

/-! ### Reading strings -/

/-- A piece of a string: a byte that stands for itself, or the code unit of a
`\u` escape. -/
inductive Piece where
  | byte (b : UInt8)
  | codeUnit (n : ℕ)
  deriving DecidableEq

/-- The value of a hexadecimal digit. -/
def hexValue (c : UInt8) : Option ℕ :=
  if 48 ≤ c && c ≤ 57 then some (c.toNat - 48)
  else if 97 ≤ c && c ≤ 102 then some (c.toNat - 87)
  else if 65 ≤ c && c ≤ 70 then some (c.toNat - 55)
  else none

/-- The value of four hexadecimal digits. -/
def hexValue4 (a b c d : UInt8) : Option ℕ :=
  match hexValue a, hexValue b, hexValue c, hexValue d with
  | some a, some b, some c, some d => some (4096 * a + 256 * b + 16 * c + d)
  | _, _, _, _ => none

/-- What the second byte of a two-byte escape stands for: quote, backslash,
slash, and the control characters written `\b`, `\f`, `\n`, `\r`, `\t`. -/
def unescapeByte (c : UInt8) : Option UInt8 :=
  if c = 34 || c = 92 || c = 47 then some c
  else if c = 98 then some 8
  else if c = 102 then some 12
  else if c = 110 then some 10
  else if c = 114 then some 13
  else if c = 116 then some 9
  else none

/-- The pieces of a string up to its closing quote, and the text after it. -/
def pieces : Bytes → Option (List Piece × Bytes)
  | [] => none
  | c :: text =>
    if c = 34 then some ([], text)
    else if c = 92 then
      match text with
      | [] => none
      | e :: text =>
        if e = 117 then
          match text with
          | h₁ :: h₂ :: h₃ :: h₄ :: text =>
            match hexValue4 h₁ h₂ h₃ h₄ with
            | some n => (pieces text).map fun (ps, rest) => (.codeUnit n :: ps, rest)
            | none => none
          | _ => none
        else
          match unescapeByte e with
          | some b => (pieces text).map fun (ps, rest) => (.byte b :: ps, rest)
          | none => none
    else if c < 32 then none
    else (pieces text).map fun (ps, rest) => (.byte c :: ps, rest)

/-- The reader of a string stops at a quote; a byte that stands for itself is
kept. -/
theorem pieces_quote (text : Bytes) : pieces (34 :: text) = some ([], text) := by
  rw [pieces.eq_def]
  simp

theorem pieces_byte {c : UInt8} (h34 : c ≠ 34) (h92 : c ≠ 92) (hctl : ¬ c < 32) (text : Bytes) :
    pieces (c :: text) = (pieces text).map fun (ps, rest) => (.byte c :: ps, rest) := by
  rw [pieces.eq_def]
  simp [h34, h92, hctl]

/-- An escape of one byte is one piece. The lemma after this one is about an
escape of four hexadecimal digits. -/
theorem pieces_escape {e b : UInt8} (h : unescapeByte e = some b) (text : Bytes) :
    pieces (92 :: e :: text) = (pieces text).map fun (ps, rest) => (.byte b :: ps, rest) := by
  have h117 : e ≠ 117 := by
    rintro rfl
    cases h
  rw [pieces.eq_def]
  simp [h117, h]

theorem pieces_codeUnit {a b c d : UInt8} {n : ℕ} (h : hexValue4 a b c d = some n) (text : Bytes) :
    pieces (92 :: 117 :: a :: b :: c :: d :: text)
      = (pieces text).map fun (ps, rest) => (.codeUnit n :: ps, rest) := by
  rw [pieces.eq_def]
  simp [h]

/-- The UTF-8 bytes of a code point. -/
def utf8 (n : ℕ) : Bytes := String.utf8EncodeChar (Char.ofNat n)

/-- The bytes a list of pieces stands for. A code unit that is no character must
be the first of a surrogate pair. -/
def joinPieces : List Piece → Option Bytes
  | [] => some []
  | .byte b :: ps => (joinPieces ps).map (b :: ·)
  | .codeUnit n :: ps =>
    if n.isValidChar then (joinPieces ps).map (utf8 n ++ ·)
    else match ps with
      | .codeUnit m :: ps =>
        if n < 0xDC00 ∧ 0xDC00 ≤ m ∧ m < 0xE000 then
          (joinPieces ps).map (utf8 (0x10000 + 0x400 * (n - 0xD800) + (m - 0xDC00)) ++ ·)
        else none
      | _ => none

/-- A code unit that is no surrogate is a character by itself. -/
theorem joinPieces_codeUnit {n : ℕ} (h : n.isValidChar) (ps : List Piece) :
    joinPieces (.codeUnit n :: ps) = (joinPieces ps).map (utf8 n ++ ·) := by
  rw [joinPieces.eq_def]
  simp [h]

/-- A string after its opening quote. -/
def readString (text : Bytes) : Option (Bytes × Bytes) :=
  match pieces text with
  | some (ps, rest) => (joinPieces ps).map fun s => (s, rest)
  | none => none

/-! ### Reading numbers -/

def isDigit (c : UInt8) : Bool := 48 ≤ c && c ≤ 57

/-- The number with the given decimal digits, the first one first. -/
def digitsValue (digits : Bytes) : ℕ := digits.foldl (fun n c => 10 * n + (c.toNat - 48)) 0

/-- The text goes on with a fraction or an exponent. -/
def fractional (text : Bytes) : Bool :=
  match text with
  | [] => false
  | c :: _ => c = 46 || c = 69 || c = 101

def readNat (text : Bytes) : Option (ℕ × Bytes) :=
  let digits := text.takeWhile isDigit
  let rest := text.dropWhile isDigit
  if digits = [] || (digits.head? = some 48 && digits.length ≠ 1) || fractional rest then none
  else some (digitsValue digits, rest)

def readInt (text : Bytes) : Option (ℤ × Bytes) :=
  match text with
  | 45 :: text => (readNat text).map fun (n, rest) => (-(n : ℤ), rest)
  | text => (readNat text).map fun (n, rest) => ((n : ℤ), rest)

/-! ### Reading values -/

def isSpace (c : UInt8) : Bool := c = 32 || c = 9 || c = 10 || c = 13

def skipSpace (text : Bytes) : Bytes := text.dropWhile isSpace

/-- The rest of a text that starts with the given bytes. -/
def readLiteral (bytes text : Bytes) : Option Bytes :=
  if bytes.isPrefixOf text then some (text.drop bytes.length) else none

mutual

/-- A value, after white space. The fuel bounds the depth of nesting and the
length of a list at once. -/
def readValue : ℕ → Bytes → Option (Tree × Bytes)
  | 0, _ => none
  | fuel + 1, text =>
    match skipSpace text with
    | [] => none
    | c :: text =>
      if c = 34 then (readString text).map fun (s, rest) => (.string s, rest)
      else if c = 91 then
        match skipSpace text with
        | 93 :: rest => some (.array [], rest)
        | text => (readItems fuel text).map fun (items, rest) => (.array items, rest)
      else if c = 123 then
        match skipSpace text with
        | 125 :: rest => some (.object [], rest)
        | text => (readMembers fuel text).map fun (members, rest) => (.object members, rest)
      else if c = 116 then
        (readLiteral [114, 117, 101] text).map fun rest => (.bool true, rest)
      else if c = 102 then
        (readLiteral [97, 108, 115, 101] text).map fun rest => (.bool false, rest)
      else (readInt (c :: text)).map fun (n, rest) => (.int n, rest)

/-- The items of an array that has one, up to its closing bracket. -/
def readItems : ℕ → Bytes → Option (List Tree × Bytes)
  | 0, _ => none
  | fuel + 1, text =>
    match readValue fuel text with
    | none => none
    | some (t, text) =>
      match skipSpace text with
      | 93 :: rest => some ([t], rest)
      | 44 :: text => (readItems fuel text).map fun (ts, rest) => (t :: ts, rest)
      | _ => none

/-- The members of an object that has one, up to its closing brace. -/
def readMembers : ℕ → Bytes → Option (List (Bytes × Tree) × Bytes)
  | 0, _ => none
  | fuel + 1, text =>
    match skipSpace text with
    | 34 :: text =>
      match readString text with
      | none => none
      | some (k, text) =>
        match skipSpace text with
        | 58 :: text =>
          match readValue fuel text with
          | none => none
          | some (t, text) =>
            match skipSpace text with
            | 125 :: rest => some ([(k, t)], rest)
            | 44 :: text => (readMembers fuel text).map fun (ms, rest) => ((k, t) :: ms, rest)
            | _ => none
        | _ => none
    | _ => none

end

/-- A JSON text. A value is no longer than its text, so the fuel is never what
refuses it. -/
def parse (text : Bytes) : Option Tree :=
  match readValue (text.length + 1) text with
  | some (t, rest) => if skipSpace rest = [] then some t else none
  | none => none

/-! ### Printing -/

/-- What may follow a number: nothing, or a byte that ends a value. -/
def Delimited (rest : Bytes) : Prop := ∀ c text, rest = c :: text → c = 44 ∨ c = 93 ∨ c = 125

/-- How strings are escaped and numbers written, together with what the reader
needs of it. A printer that breaks either is not a printer. -/
structure Printer where
  escape : Bytes → Bytes
  decimal : ℤ → Bytes
  readString_escape : ∀ s rest, readString (escape s ++ 34 :: rest) = some (s, rest)
  readInt_decimal : ∀ n rest, Delimited rest → readInt (decimal n ++ rest) = some (n, rest)

namespace Printer

variable (p : Printer)

def quoted (s : Bytes) : Bytes := 34 :: (p.escape s ++ [34])

mutual

/-- The text of a tree, without white space. -/
def print : Tree → Bytes
  | .string s => p.quoted s
  | .int n => p.decimal n
  | .bool true => [116, 114, 117, 101]
  | .bool false => [102, 97, 108, 115, 101]
  | .array items => 91 :: (printItems true items ++ [93])
  | .object members => 123 :: (printMembers true members ++ [125])

/-- Items with a comma before each; the first one has none when `first` is
set. -/
def printItems (first : Bool) : List Tree → Bytes
  | [] => []
  | t :: ts => (if first then [] else [44]) ++ (print t ++ printItems false ts)

def printMembers (first : Bool) : List (Bytes × Tree) → Bytes
  | [] => []
  | (k, t) :: ms =>
    (if first then [] else [44]) ++ (p.quoted k ++ 58 :: (print t ++ printMembers false ms))

end

end Printer

/-! ### What is printed is read back -/

/-- A byte that is no white space is not skipped. -/
theorem skipSpace_cons {c : UInt8} {text : Bytes} (h : isSpace c = false) :
    skipSpace (c :: text) = c :: text := by
  simp [skipSpace, h]

theorem Delimited.nil : Delimited [] := fun _ _ h => by cases h

theorem Delimited.cons {c : UInt8} {text : Bytes} (h : c = 44 ∨ c = 93 ∨ c = 125) :
    Delimited (c :: text) := by
  rintro d rest heq
  obtain ⟨rfl, -⟩ := List.cons.inj heq
  exact h

/-- Decimal digits without a leading zero are read as their value. What follows
must not be taken for part of the number, hence `Delimited`. -/
theorem readNat_digits {digits rest : Bytes} (hall : ∀ c ∈ digits, isDigit c = true)
    (hne : digits ≠ []) (hzero : digits.head? = some 48 → digits.length = 1)
    (hrest : Delimited rest) : readNat (digits ++ rest) = some (digitsValue digits, rest) := by
  -- the text after the digits starts with no digit and with no fraction
  have hstop : rest.takeWhile isDigit = [] ∧ rest.dropWhile isDigit = rest ∧
      fractional rest = false := by
    cases rest with
    | nil => exact ⟨rfl, rfl, rfl⟩
    | cons c text =>
      rcases hrest c text rfl with rfl | rfl | rfl <;> exact ⟨rfl, rfl, rfl⟩
  have htake : (digits ++ rest).takeWhile isDigit = digits := by
    rw [List.takeWhile_append_of_pos hall, hstop.1, List.append_nil]
  have hdrop : (digits ++ rest).dropWhile isDigit = rest := by
    rw [List.dropWhile_append_of_pos hall, hstop.2.1]
  have hgood : ¬ (decide (digits = []) || (decide (digits.head? = some 48) &&
      decide (digits.length ≠ 1)) || fractional rest) = true := by
    simpa [hne, hstop.2.2] using hzero
  unfold readNat
  rw [htake, hdrop]
  exact if_neg hgood

/-- A number starts with a digit. -/
theorem readNat_head {text : Bytes} {r : ℕ × Bytes} (h : readNat text = some r) :
    ∃ c rest, text = c :: rest ∧ isDigit c = true := by
  cases text with
  | nil => simp [readNat] at h
  | cons c rest =>
    refine ⟨c, rest, rfl, ?_⟩
    by_contra hc
    simp [readNat, hc] at h

/-- A number starts with its sign or with a digit. -/
theorem readInt_head {text : Bytes} {r : ℤ × Bytes} (h : readInt text = some r) :
    ∃ c rest, text = c :: rest ∧ (c = 45 ∨ isDigit c = true) := by
  unfold readInt at h
  split at h
  · exact ⟨45, _, rfl, .inl rfl⟩
  · obtain ⟨x, hx, -⟩ := Option.map_eq_some_iff.mp h
    obtain ⟨c, rest, rfl, hc⟩ := readNat_head hx
    exact ⟨c, rest, rfl, .inr hc⟩

/-- A byte that starts a number starts nothing else. -/
theorem ne_of_number {c : UInt8} (h : c = 45 ∨ isDigit c = true) :
    isSpace c = false ∧ c ≠ 34 ∧ c ≠ 91 ∧ c ≠ 123 ∧ c ≠ 116 ∧ c ≠ 102 ∧ c ≠ 93 ∧ c ≠ 125 := by
  rcases h with rfl | h
  · decide
  · simp only [isDigit, Bool.and_eq_true, decide_eq_true_eq] at h
    simp only [isSpace, Bool.or_eq_false_iff, decide_eq_false_iff_not]
    refine ⟨?_, ?_, ?_, ?_, ?_, ?_, ?_, ?_⟩ <;> grind

section Steps

variable {fuel : ℕ} {text rest : Bytes}

/-- The first byte tells which kind of value is read: a quote starts a string, a
sign or digit a number, a bracket an array with something in it, and a brace an
object. -/
theorem readValue_string {s : Bytes} (h : readString text = some (s, rest)) :
    readValue (fuel + 1) (34 :: text) = some (.string s, rest) := by
  rw [readValue, skipSpace_cons (by decide)]
  simp [h]

theorem readValue_int {n : ℤ} (h : readInt text = some (n, rest)) :
    readValue (fuel + 1) text = some (.int n, rest) := by
  obtain ⟨c, tail, rfl, hc⟩ := readInt_head h
  obtain ⟨hspace, h34, h91, h123, h116, h102, -, -⟩ := ne_of_number hc
  rw [readValue, skipSpace_cons hspace]
  simp [h34, h91, h123, h116, h102, h]

theorem readValue_items {c : UInt8} (htext : text.head? = some c) (hspace : isSpace c = false)
    (hc : c ≠ 93) {items : List Tree} (h : readItems fuel text = some (items, rest)) :
    readValue (fuel + 1) (91 :: text) = some (.array items, rest) := by
  obtain ⟨tail, rfl⟩ := List.head?_eq_some_iff.mp htext
  rw [readValue, skipSpace_cons (by decide)]
  simp [skipSpace_cons hspace, hc, h]

theorem readValue_members {c : UInt8} (htext : text.head? = some c) (hspace : isSpace c = false)
    (hc : c ≠ 125) {members : List (Bytes × Tree)}
    (h : readMembers fuel text = some (members, rest)) :
    readValue (fuel + 1) (123 :: text) = some (.object members, rest) := by
  obtain ⟨tail, rfl⟩ := List.head?_eq_some_iff.mp htext
  rw [readValue, skipSpace_cons (by decide)]
  simp [skipSpace_cons hspace, hc, h]

end Steps

namespace Printer

variable {p : Printer}

/-- A printed value does not start with white space, and with no closing bracket
or brace. So an array or object that has something in it is not taken for an
empty one. -/
theorem print_head (p : Printer) (t : Tree) :
    ∃ c text, p.print t = c :: text ∧ isSpace c = false ∧ c ≠ 93 ∧ c ≠ 125 := by
  cases t with
  | string s => exact ⟨34, _, by rw [print]; rfl, by decide⟩
  | int n =>
    obtain ⟨c, text, htext, hc⟩ := readInt_head (p.readInt_decimal n [] .nil)
    rw [List.append_nil] at htext
    obtain ⟨hspace, -, -, -, -, -, h93, h125⟩ := ne_of_number hc
    exact ⟨c, text, by rw [print, htext], hspace, h93, h125⟩
  | bool v => cases v <;> exact ⟨_, _, by rw [print], by decide⟩
  | array items => exact ⟨91, _, by rw [print], by decide⟩
  | object members => exact ⟨123, _, by rw [print], by decide⟩

/-- With fuel for its length, a printed value is read as itself, and what
follows it is left. -/
def ReadBack (p : Printer) (t : Tree) : Prop :=
  ∀ fuel rest, (p.print t).length < fuel → Delimited rest →
    readValue fuel (p.print t ++ rest) = some (t, rest)

/-- **The items of an array**, by induction on the list. A comma after an item
means that another one follows. -/
theorem readItems_print {items : List Tree} (ih : ∀ t ∈ items, p.ReadBack t) (hne : items ≠ [])
    {fuel : ℕ} (hfuel : (p.printItems true items).length + 1 < fuel) (rest : Bytes) :
    readItems fuel (p.printItems true items ++ 93 :: rest) = some (items, rest) := by
  induction items generalizing fuel with
  | nil => exact absurd rfl hne
  | cons t ts ih' =>
    obtain ⟨fuel, rfl⟩ : ∃ k, fuel = k + 1 := ⟨fuel - 1, by omega⟩
    have ht := ih t List.mem_cons_self
    cases ts with
    | nil =>
      simp only [printItems, if_true, List.nil_append, List.append_nil] at hfuel ⊢
      rw [readItems, ht fuel (93 :: rest) (by omega) (.cons (by simp))]
      simp [skipSpace_cons (show isSpace 93 = false by decide)]
    | cons u us =>
      -- the comma goes to the next item
      have hsplit : p.printItems true (t :: u :: us) ++ 93 :: rest
          = p.print t ++ (44 :: (p.printItems true (u :: us) ++ 93 :: rest)) := by
        simp [printItems]
      have hlen : (p.printItems true (t :: u :: us)).length
          = (p.print t).length + 1 + (p.printItems true (u :: us)).length := by
        simp [printItems]
        omega
      have hfit : (p.printItems true (u :: us)).length + 1 < fuel := by omega
      have hus := ih' (fun v hv => ih v (List.mem_cons_of_mem t hv)) (List.cons_ne_nil u us) hfit
      rw [hsplit, readItems, ht fuel _ (by omega) (.cons (by simp))]
      simp [skipSpace_cons (show isSpace 44 = false by decide), hus]

/-- A key is read up to the value of its member. -/
theorem readMembers_key {k : Bytes} {t : Tree} {fuel : ℕ} (ht : p.ReadBack t)
    (hfuel : (p.print t).length < fuel) {rest : Bytes} (hrest : Delimited rest) :
    readMembers (fuel + 1) (p.quoted k ++ 58 :: (p.print t ++ rest)) =
      match skipSpace rest with
      | 125 :: rest => some ([(k, t)], rest)
      | 44 :: text => (readMembers fuel text).map fun (ms, rest) => ((k, t) :: ms, rest)
      | _ => none := by
  have hkey : p.quoted k ++ 58 :: (p.print t ++ rest)
      = 34 :: (p.escape k ++ 34 :: (58 :: (p.print t ++ rest))) := by simp [quoted]
  rw [hkey, readMembers, skipSpace_cons (by decide)]
  simp only [p.readString_escape, skipSpace_cons (show isSpace 58 = false by decide),
    ht fuel rest hfuel hrest]

/-- **The members of an object**, in the same way. -/
theorem readMembers_print {members : List (Bytes × Tree)} (ih : ∀ m ∈ members, p.ReadBack m.2)
    (hne : members ≠ []) {fuel : ℕ} (hfuel : (p.printMembers true members).length + 1 < fuel)
    (rest : Bytes) :
    readMembers fuel (p.printMembers true members ++ 125 :: rest) = some (members, rest) := by
  -- the fuel is one for every member, so the induction is for all of them
  induction members generalizing fuel with
  | nil => exact absurd rfl hne
  | cons m ms ih' =>
    obtain ⟨k, t⟩ := m
    obtain ⟨fuel, rfl⟩ : ∃ k, fuel = k + 1 := ⟨fuel - 1, by omega⟩
    have ht : p.ReadBack t := ih (k, t) List.mem_cons_self
    cases ms with
    | nil =>
      -- the last member: its value ends at the closing brace
      have hsplit : p.printMembers true [(k, t)] ++ 125 :: rest
          = p.quoted k ++ 58 :: (p.print t ++ 125 :: rest) := by
        simp [printMembers]
      have hlen : (p.print t).length + 1 ≤ (p.printMembers true [(k, t)]).length := by
        simp [printMembers]
      rw [hsplit, readMembers_key ht (by omega) (.cons (by simp)), skipSpace_cons (by decide)]
      rfl
    | cons n ns =>
      obtain ⟨l, u⟩ := n
      -- its value ends at the comma, and the others follow
      have hsplit : p.printMembers true ((k, t) :: (l, u) :: ns) ++ 125 :: rest
          = p.quoted k ++ 58 :: (p.print t ++ 44 :: (p.printMembers true ((l, u) :: ns)
            ++ 125 :: rest)) := by
        simp [printMembers]
      have hlen : (p.print t).length + 1 + (p.printMembers true ((l, u) :: ns)).length
          ≤ (p.printMembers true ((k, t) :: (l, u) :: ns)).length := by
        simp [printMembers]
        omega
      have hfit : (p.printMembers true ((l, u) :: ns)).length + 1 < fuel := by omega
      have hns := ih' (fun v hv => ih v (List.mem_cons_of_mem (k, t) hv))
        (List.cons_ne_nil (l, u) ns) hfit
      rw [hsplit, readMembers_key ht (by omega) (.cons (by simp)), skipSpace_cons (by decide)]
      simp only [hns, Option.map_some]

/-- **The reader undoes the printer**, value by value. The induction is over the
tree, and each node uses the lemma of its kind of list. -/
theorem readValue_print (p : Printer) (t : Tree) : p.ReadBack t := by
  induction t using Tree.induction with
  | string s =>
    intro fuel rest hfuel _
    obtain ⟨fuel, rfl⟩ : ∃ k, fuel = k + 1 := ⟨fuel - 1, by omega⟩
    rw [print, quoted, List.cons_append, List.append_assoc]
    exact readValue_string (p.readString_escape s rest)
  | int n =>
    intro fuel rest hfuel hrest
    obtain ⟨fuel, rfl⟩ : ∃ k, fuel = k + 1 := ⟨fuel - 1, by omega⟩
    rw [print]
    exact readValue_int (p.readInt_decimal n rest hrest)
  | bool v =>
    intro fuel rest hfuel _
    obtain ⟨fuel, rfl⟩ : ∃ k, fuel = k + 1 := ⟨fuel - 1, by omega⟩
    -- the two literals are of fixed length, so the reader runs on them
    cases v <;> simp [print, readValue, skipSpace, isSpace, readLiteral]
  | array items ih =>
    intro fuel rest hfuel _
    obtain ⟨fuel, rfl⟩ : ∃ k, fuel = k + 1 := ⟨fuel - 1, by omega⟩
    rw [print] at hfuel ⊢
    rw [List.cons_append, List.append_assoc]
    rw [List.length_cons, List.length_append, List.length_singleton] at hfuel
    cases items with
    | nil =>
      rw [readValue, skipSpace_cons (by decide)]
      simp [printItems, skipSpace_cons (show isSpace 93 = false by decide)]
    | cons u us =>
      -- no value starts with a space or a closing bracket, so the reader does not stop here
      obtain ⟨c, tail, hhead, hspace, h93, -⟩ := print_head p u
      refine readValue_items (c := c) ?_ hspace h93
        (readItems_print ih (List.cons_ne_nil u us) (by omega) rest)
      simp [printItems, hhead]
  | object members ih =>
    intro fuel rest hfuel _
    obtain ⟨fuel, rfl⟩ : ∃ k, fuel = k + 1 := ⟨fuel - 1, by omega⟩
    rw [print] at hfuel ⊢
    rw [List.cons_append, List.append_assoc]
    rw [List.length_cons, List.length_append, List.length_singleton] at hfuel
    cases members with
    | nil =>
      rw [readValue, skipSpace_cons (by decide)]
      simp [printMembers, skipSpace_cons (show isSpace 125 = false by decide)]
    | cons m ms =>
      -- a member starts with the quote of its key
      refine readValue_members (c := 34) ?_ (by decide) (by decide)
        (readMembers_print ih (List.cons_ne_nil m ms) (by omega) rest)
      simp [printMembers, quoted]

/-- **A printed text is read as the tree it was printed from.** -/
theorem parse_print (p : Printer) (t : Tree) : parse (p.print t) = some t := by
  have h := readValue_print p t ((p.print t).length + 1) [] (Nat.lt_succ_self _) .nil
  rw [List.append_nil] at h
  simp [parse, h, skipSpace]

end Printer

end Json
