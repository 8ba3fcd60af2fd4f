import RcController.Lib.Json
import RcController.Model.JsonWriter
import Mathlib.Data.Nat.Digits.Defs

/-!
# What the JSON writer writes

The writer is driven through a tree by the calls a caller makes for it, in order
(`drive`). The text it builds is the printed text of the tree (`drive_eq`), by induction
over the tree with the stack as it stands when a value comes: below an open array the
`first` flag of its frame says whether the value gets a comma, below an open object the
comma went out with the key.

Escaping and decimals are read back by any JSON reader (`writerPrinter`), so the text
is read back as the tree (`parse_drive`).
-/

namespace RcController

open Json

/-! ### Strings -/

/-- What a reader makes of an escaped byte: an escape of one byte, a code unit,
or the byte itself. -/
def pieceOf (c : UInt8) : Piece :=
  if c < 32 ∧ c ≠ 10 ∧ c ≠ 13 ∧ c ≠ 9 then .codeUnit c.toNat else .byte c

/-- A fact about all control characters, checked one by one. -/
theorem forall_lt_32 {P : UInt8 → Prop} (h : ∀ n < 32, P (UInt8.ofNat n)) {c : UInt8}
    (hc : c < 32) : P c := by
  have hn : c.toNat < 32 := UInt8.lt_iff_toNat_lt.mp hc
  have := h c.toNat hn
  rwa [UInt8.ofNat_toNat] at this

/-- The two digits of a control character have its value. -/
theorem hexValue4_escape {c : UInt8} (hc : c < 32) :
    hexValue4 48 48 (JsonWriter.hex.getD ((c >>> 4) &&& 0x0F).toNat 0)
      (JsonWriter.hex.getD (c &&& 0x0F).toNat 0) = some c.toNat :=
  forall_lt_32 (P := fun c => hexValue4 48 48 (JsonWriter.hex.getD ((c >>> 4) &&& 0x0F).toNat 0)
    (JsonWriter.hex.getD (c &&& 0x0F).toNat 0) = some c.toNat) (by decide) hc

/-- The reader takes an escaped byte off the text as one piece. -/
theorem pieces_escapeChar (c : UInt8) (text : Str) :
    pieces (JsonWriter.escapeChar c ++ text)
      = (pieces text).map fun (ps, rest) => (pieceOf c :: ps, rest) := by
  unfold JsonWriter.escapeChar
  -- five bytes have an escape of their own, the other control characters get four digits
  split_ifs with h92 h34 h10 h13 h9 hctl
  · subst h92
    exact pieces_escape rfl text
  · subst h34
    exact pieces_escape rfl text
  · subst h10
    exact pieces_escape rfl text
  · subst h13
    exact pieces_escape rfl text
  · subst h9
    exact pieces_escape rfl text
  · have hpiece : pieceOf c = .codeUnit c.toNat := if_pos ⟨hctl, h10, h13, h9⟩
    have hgrows : lit "\\u00" = [92, 117, 48, 48] := by decide
    rw [hgrows, hpiece]
    exact pieces_codeUnit (hexValue4_escape hctl) text
  · have hpiece : pieceOf c = .byte c := if_neg fun h => hctl h.1
    rw [hpiece]
    exact pieces_byte h34 h92 hctl text

/-- Putting the piece together gives back the byte. -/
theorem joinPieces_pieceOf (c : UInt8) (ps : List Piece) :
    joinPieces (pieceOf c :: ps) = (joinPieces ps).map (c :: ·) := by
  unfold pieceOf
  split_ifs with h
  · -- below 128 a code point is its own UTF-8 byte
    have hvalid : c.toNat.isValidChar ∧ utf8 c.toNat = [c] :=
      forall_lt_32 (P := fun c => c.toNat.isValidChar ∧ utf8 c.toNat = [c]) (by decide) h.1
    rw [joinPieces_codeUnit hvalid.1, hvalid.2]
    rfl
  · rfl

/-- So an escaped string is taken apart byte by byte. -/
theorem pieces_escaped (s rest : Str) :
    pieces (JsonWriter.escape s ++ 34 :: rest) = some (s.map pieceOf, rest) := by
  induction s with
  | nil => exact pieces_quote rest
  | cons c s ih =>
    have hsplit : JsonWriter.escape (c :: s) ++ 34 :: rest
        = JsonWriter.escapeChar c ++ (JsonWriter.escape s ++ 34 :: rest) := by
      simp [JsonWriter.escape]
    rw [hsplit, pieces_escapeChar, ih]
    rfl

/-- Put together again, the pieces are the string that was escaped. -/
theorem joinPieces_map_pieceOf (s : Str) : joinPieces (s.map pieceOf) = some s := by
  induction s with
  | nil => rfl
  | cons c s ih =>
    rw [List.map_cons, joinPieces_pieceOf, ih]
    rfl

/-- **A reader undoes the escaping**, whatever the bytes are. The two steps
above are those of the reader. -/
theorem readString_escape (s rest : Str) :
    readString (JsonWriter.escape s ++ 34 :: rest) = some (s, rest) := by
  rw [readString, pieces_escaped]
  simp [joinPieces_map_pieceOf]

/-! ### Numbers -/

/-- The byte of a digit. -/
def digitByte (d : ℕ) : UInt8 := UInt8.ofNat (48 + d)

/-- It is one, it has its value, and it is the one that is printed. -/
theorem digitByte_spec : ∀ d < 10, isDigit (digitByte d) = true ∧ (digitByte d).toNat - 48 = d ∧
    (digitByte d = 48 → d = 0) ∧ (Nat.digitChar d).toUInt8 = digitByte d := by decide

/-- A number of one digit, and one with more of them. -/
theorem ofNat_of_lt {n : ℕ} (h : n < 10) : Str.ofNat n = [digitByte n] := by
  rw [Str.ofNat, Nat.toDigits_of_lt_base h, List.map_singleton, (digitByte_spec n h).2.2.2]

theorem ofNat_of_le {n : ℕ} (h : 10 ≤ n) :
    Str.ofNat n = Str.ofNat (n / 10) ++ [digitByte (n % 10)] := by
  have hd : n % 10 < 10 := Nat.mod_lt n (by decide)
  rw [Str.ofNat, Nat.toDigits_of_base_le (by decide) h, List.map_append,
    List.map_singleton, (digitByte_spec _ hd).2.2.2]
  rfl

/-- **The decimal digits of a number**: they are digits, they have its value,
and the first one is zero for zero only. By induction on the number of
digits. -/
theorem ofNat_spec (n : ℕ) :
    (∀ c ∈ Str.ofNat n, isDigit c = true) ∧ digitsValue (Str.ofNat n) = n ∧
      ∃ c ds, Str.ofNat n = c :: ds ∧ (c = 48 → n = 0) := by
  induction n using Nat.strong_induction_on with
  | _ n ih =>
    rcases Nat.lt_or_ge n 10 with h | h
    · obtain ⟨hdigit, hvalue, hzero, -⟩ := digitByte_spec n h
      rw [ofNat_of_lt h]
      refine ⟨by simpa using hdigit, ?_, _, _, rfl, hzero⟩
      simpa [digitsValue] using hvalue
    · have hd : n % 10 < 10 := Nat.mod_lt n (by decide)
      obtain ⟨hdigit, hvalue, -, -⟩ := digitByte_spec _ hd
      obtain ⟨hall, hval, c, ds, hcons, hzero⟩ := ih (n / 10) (by omega)
      rw [ofNat_of_le h]
      refine ⟨?_, ?_, c, ds ++ [digitByte (n % 10)], by rw [hcons]; rfl, fun hc => ?_⟩
      · intro c hc
        rcases List.mem_append.mp hc with hc | hc
        · exact hall c hc
        · rw [List.mem_singleton.mp hc]
          exact hdigit
      -- the last digit counts once and the digits before it ten times
      · have hfold : digitsValue (Str.ofNat (n / 10) ++ [digitByte (n % 10)])
            = 10 * digitsValue (Str.ofNat (n / 10)) + ((digitByte (n % 10)).toNat - 48) := by
          simp [digitsValue]
        rw [hfold, hval, hvalue]
        omega
      · have := hzero hc
        omega

/-- A number is read from its digits. -/
theorem readNat_ofNat (n : ℕ) {rest : Str} (hrest : Delimited rest) :
    readNat (Str.ofNat n ++ rest) = some (n, rest) := by
  obtain ⟨hall, hvalue, c, ds, hcons, hzero⟩ := ofNat_spec n
  have h := readNat_digits hall (by rw [hcons]; exact List.cons_ne_nil c ds) ?_ hrest
  · rw [h, hvalue]
  · intro hhead
    rw [hcons] at hhead
    obtain rfl := hzero (Option.some.inj hhead)
    rfl

/-- **A reader gets back the number** that was written. -/
theorem readInt_ofInt (n : ℤ) {rest : Str} (hrest : Delimited rest) :
    readInt (Str.ofInt n ++ rest) = some (n, rest) := by
  have hnat := readNat_ofNat n.natAbs hrest
  unfold Str.ofInt
  split_ifs with hneg
  -- the sign is written in front of the digits of the absolute value
  · rw [List.cons_append, readInt, hnat]
    have habs : -((n.natAbs : ℕ) : ℤ) = n := by omega
    exact congrArg (fun m => some (m, rest)) habs
  · -- a text that starts with a digit has no sign
    obtain ⟨c, ds, htext, hdigit⟩ := readNat_head hnat
    have hsign : c ≠ 45 := by
      rintro rfl
      cases hdigit
    have habs : ((n.natAbs : ℕ) : ℤ) = n := by omega
    rw [readInt.eq_def]
    split
    · next text heq =>
      rw [htext] at heq
      exact absurd (List.cons.inj heq).1 hsign
    · rw [hnat]
      exact congrArg (fun m => some (m, rest)) habs

/-- The writer as a printer: its escaping and its numbers are undone by any
reader. -/
def writerPrinter : Printer where
  escape := JsonWriter.escape
  decimal := Str.ofInt
  readString_escape := readString_escape
  readInt_decimal n _ hrest := readInt_ofInt n hrest

/-! ### Driving the writer -/

mutual

/-- The calls that a caller makes to write a tree, in their order. The writer
gives up when its stack is full. -/
def drive : Tree → JsonWriter → Option JsonWriter
  | .string s, w => some (w.valueString s)
  | .int n, w => some (w.valueInt n)
  | .bool v, w => some (w.valueBool v)
  | .array items, w => do
    let w ← w.beginArray
    let w ← driveItems items w
    return w.endArray
  | .object members, w => do
    let w ← w.beginObject
    let w ← driveMembers members w
    return w.endObject

def driveItems : List Tree → JsonWriter → Option JsonWriter
  | [], w => some w
  | t :: ts, w => do
    let w ← drive t w
    driveItems ts w

def driveMembers : List (Str × Tree) → JsonWriter → Option JsonWriter
  | [], w => some w
  | (k, t) :: ms, w => do
    let w ← drive t (w.key k)
    driveMembers ms w

end

/-- A writer after a value was written: the text has it at its end, and the next
one in the frame is not the first. -/
def JsonWriter.wrote (text : Str) (w : JsonWriter) : JsonWriter :=
  let w := w.beforeValue
  { w with out := w.out ++ text, expectingValue := false }

/-- There is room on the stack for the containers of the tree, and no NUL in its
texts. -/
def Writable (depth : ℕ) (t : Tree) : Prop :=
  depth + t.depth ≤ JsonWriter.stackSize ∧ t.AllText fun s => ∀ c ∈ s, c ≠ 0

/-- Driven through the tree, the writer writes the text of the tree wherever a
value may stand. -/
def Writes (t : Tree) : Prop :=
  ∀ w : JsonWriter, Writable w.stack.length t → drive t w = some (w.wrote (writerPrinter.print t))

namespace JsonWriter

/-- A comma opens no container. -/
theorem length_beforeValue (w : JsonWriter) : w.beforeValue.stack.length = w.stack.length := by
  unfold beforeValue
  split
  · rfl
  · split
    · rfl
    · next heq =>
      split
      · rw [heq]
        rfl
      · rfl

/-- An item after others in an open array gets a comma, the first one does
not. -/
theorem beforeValue_array (out : Str) (first : Bool) (fs : List Frame) :
    beforeValue ⟨out, ⟨.array, first⟩ :: fs, false⟩
      = ⟨out ++ (if first then [] else [44]), ⟨.array, false⟩ :: fs, false⟩ := by
  cases first <;> simp [beforeValue]

/-- A key gets the comma of its member. -/
theorem key_object {k : Str} (hk : ∀ c ∈ k, c ≠ 0) (out : Str) (first : Bool) (fs : List Frame) :
    key k ⟨out, ⟨.object, first⟩ :: fs, false⟩
      = ⟨out ++ ((if first then [] else [44]) ++ (writerPrinter.quoted k ++ [58])),
        ⟨.object, false⟩ :: fs, true⟩ := by
  unfold key
  rw [takeWhile_ne_zero hk]
  cases first <;> simp [appendEscapedString, Printer.quoted, writerPrinter]

end JsonWriter

/-- **The items of an array**, from the frame as it is before the next one. The
induction is over the items: the first of them decides on the comma, and after
it there is always one. -/
theorem driveItems_eq {items : List Tree} (ih : ∀ t ∈ items, Writes t) (first : Bool) (out : Str)
    {fs : List Frame} (hdepth : fs.length + 1 + Tree.depthItems items ≤ JsonWriter.stackSize)
    (htext : Tree.allTextItems (fun s => ∀ c ∈ s, c ≠ 0) items) :
    driveItems items ⟨out, ⟨.array, first⟩ :: fs, false⟩
      = some ⟨out ++ writerPrinter.printItems first items,
        ⟨.array, first && items.isEmpty⟩ :: fs, false⟩ := by
  induction items generalizing first out with
  | nil => simp [driveItems, Printer.printItems]
  | cons t ts ih' =>
    simp only [Tree.depthItems] at hdepth
    obtain ⟨ht, hts⟩ := htext
    have hwrites := ih t List.mem_cons_self ⟨out, ⟨.array, first⟩ :: fs, false⟩
      ⟨by simp only [List.length_cons]; omega, ht⟩
    -- the items after the first one find the flag of the frame cleared
    have hrest := ih' (fun u hu => ih u (List.mem_cons_of_mem t hu)) false
      (out ++ (if first then [] else [44]) ++ writerPrinter.print t) (by omega) hts
    rw [driveItems, hwrites]
    simp only [JsonWriter.wrote, JsonWriter.beforeValue_array, Option.bind_eq_bind,
      Option.bind_some, hrest]
    simp [Printer.printItems]

/-- **The members of an object**, from the frame as it is before the next
key. -/
theorem driveMembers_eq {members : List (Str × Tree)} (ih : ∀ m ∈ members, Writes m.2)
    (first : Bool) (out : Str) {fs : List Frame}
    (hdepth : fs.length + 1 + Tree.depthMembers members ≤ JsonWriter.stackSize)
    (htext : Tree.allTextMembers (fun s => ∀ c ∈ s, c ≠ 0) members) :
    driveMembers members ⟨out, ⟨.object, first⟩ :: fs, false⟩
      = some ⟨out ++ writerPrinter.printMembers first members,
        ⟨.object, first && members.isEmpty⟩ :: fs, false⟩ := by
  induction members generalizing first out with
  | nil => simp [driveMembers, Printer.printMembers]
  | cons m ms ih' =>
    obtain ⟨k, t⟩ := m
    simp only [Tree.depthMembers] at hdepth
    obtain ⟨hk, ht, hms⟩ := htext
    have hkey := JsonWriter.key_object hk out first fs
    have hwrites := ih (k, t) List.mem_cons_self
      (JsonWriter.key k ⟨out, ⟨.object, first⟩ :: fs, false⟩)
      ⟨by rw [hkey]; simp only [List.length_cons]; omega, ht⟩
    have hrest := ih' (fun u hu => ih u (List.mem_cons_of_mem (k, t) hu)) false
      (out ++ ((if first then [] else [44]) ++ (writerPrinter.quoted k ++ [58]))
        ++ writerPrinter.print t) (by omega) hms
    -- the key has set `expectingValue`, so its value gets no comma
    have hwrote : (JsonWriter.key k ⟨out, ⟨.object, first⟩ :: fs, false⟩).wrote
        (writerPrinter.print t) = ⟨out ++ ((if first then [] else [44])
          ++ (writerPrinter.quoted k ++ [58])) ++ writerPrinter.print t,
          ⟨.object, false⟩ :: fs, false⟩ := by
      rw [hkey]
      rfl
    rw [driveMembers, hwrites, hwrote]
    simp only [Option.bind_eq_bind, Option.bind_some, hrest]
    simp [Printer.printMembers]

/-- **Every tree that fits the stack is written as its text**, wherever a value
may stand. The induction is over the tree, and a container uses the lemma on its
list from the frame it has opened. -/
theorem drive_eq (t : Tree) : Writes t := by
  induction t using Tree.induction with
  | string s =>
    intro w _
    simp [drive, JsonWriter.valueString, JsonWriter.appendEscapedString, JsonWriter.wrote,
      Printer.print, Printer.quoted, writerPrinter]
  | int n =>
    intro w _
    simp [drive, JsonWriter.valueInt, JsonWriter.wrote, Printer.print, writerPrinter]
  | bool v =>
    intro w _
    have htrue : lit "true" = [116, 114, 117, 101] := by decide
    have hfalse : lit "false" = [102, 97, 108, 115, 101] := by decide
    cases v <;> simp [drive, JsonWriter.valueBool, JsonWriter.wrote, Printer.print, htrue, hfalse]
  | array items ih =>
    intro w hw
    obtain ⟨hdepth, htext⟩ := hw
    rw [Tree.depth] at hdepth
    have hlen := JsonWriter.length_beforeValue w
    -- the depth of the tree leaves room for this frame
    have hopen : w.beginArray = some ⟨w.beforeValue.out ++ [91],
        ⟨.array, true⟩ :: w.beforeValue.stack, false⟩ := if_pos (by omega)
    rw [drive, hopen]
    simp only [Option.bind_eq_bind, Option.bind_some]
    rw [driveItems_eq ih true _ (by omega) htext]
    simp [JsonWriter.endArray, JsonWriter.closeFrame, JsonWriter.wrote, Printer.print]
  | object members ih =>
    intro w hw
    obtain ⟨hdepth, htext⟩ := hw
    rw [Tree.depth] at hdepth
    have hlen := JsonWriter.length_beforeValue w
    -- the frame of the object fits for the same reason
    have hopen : w.beginObject = some ⟨w.beforeValue.out ++ [123],
        ⟨.object, true⟩ :: w.beforeValue.stack, false⟩ := if_pos (by omega)
    rw [drive, hopen]
    simp only [Option.bind_eq_bind, Option.bind_some]
    rw [driveMembers_eq ih true _ (by omega) htext]
    simp [JsonWriter.endObject, JsonWriter.closeFrame, JsonWriter.wrote, Printer.print]

/-- **What the writer is driven through is what a reader gets**, for every tree
of at most 16 nested containers without a NUL in its keys and strings. -/
theorem parse_drive (t : Tree) (hdepth : t.depth ≤ 16)
    (htext : t.AllText fun s => ∀ c ∈ s, c ≠ 0) :
    ∃ w, drive t {} = some w ∧ parse w.out = some t := by
  have h := drive_eq t {} ⟨by simpa [JsonWriter.stackSize] using hdepth, htext⟩
  refine ⟨_, h, ?_⟩
  have hout : (JsonWriter.wrote (writerPrinter.print t) {}).out = writerPrinter.print t := rfl
  rw [hout]
  exact Printer.parse_print writerPrinter t

/-- A name with a quote and a line feed, in an object within an array. -/
theorem parse_drive_name :
    ∃ w, drive (.array [.object [(lit "name", .string [34, 10]), (lit "n", .int (-5))],
        .bool true]) {} = some w ∧
      parse w.out = some (.array [.object [(lit "name", .string [34, 10]), (lit "n", .int (-5))],
        .bool true]) :=
  parse_drive _ (by decide) (by
    simp only [Tree.AllText, Tree.allTextItems, Tree.allTextMembers]
    decide +kernel)

end RcController
