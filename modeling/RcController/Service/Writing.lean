import RcController.Lib.JsonDoc
import RcController.Model.StateService
import RcController.Service.Json

/-!
# What a program of writer calls writes

One rule for each call and each way to put calls together. A program is read with the document
it writes: a value wherever one may stand (`WritesDoc`), the items of an open array (`Items`),
the members of an open object up to its end (`Members`). With the rules a builder is taken
apart call by call, and its text is the text of a document (`str_of_writesDoc`).

The number in front is how many frames of the stack a program may still open.
-/

namespace RcController

open Json

variable {F : Type}

/-! ### Words -/

-- words that are no scalars, and texts that are not JSON for other reasons
example : ["nan", "hello", "01", "1.", ".5", "+1", "[1 2]", "\x7b\"ok\":yes\x7d"].all
    (fun t => (Doc.parse (lit t)).isNone) = true := by decide +kernel

def boolWord (v : Bool) : Word :=
  if v then ⟨lit "true", by decide +kernel, by decide +kernel⟩
  else ⟨lit "false", by decide +kernel, by decide +kernel⟩

/-- Both literals are scalars. -/
theorem isScalar_boolWord (v : Bool) : isScalar (boolWord v).text = true := by
  cases v <;> decide +kernel

/-- A digit is a visible byte, so the digits of a number are a word. -/
theorem plain_of_isDigit {c : UInt8} (h : isDigit c = true) : isPlain c = true := by
  have hall : ∀ n < 256, isDigit (UInt8.ofNat n) = true → isPlain (UInt8.ofNat n) = true := by
    decide +kernel
  have hc := hall c.toNat c.toNat_lt
  rw [UInt8.ofNat_toNat] at hc
  exact hc h

theorem plain_ofNat (n : ℕ) : Str.ofNat n ≠ [] ∧ ∀ c ∈ Str.ofNat n, isPlain c = true := by
  obtain ⟨hall, -, c, ds, hcons, -⟩ := ofNat_spec n
  refine ⟨by rw [hcons]; exact List.cons_ne_nil c ds, fun c hc => plain_of_isDigit (hall c hc)⟩

/-- A number with a sign is a word as well. -/
theorem plain_ofInt (n : ℤ) : Str.ofInt n ≠ [] ∧ ∀ c ∈ Str.ofInt n, isPlain c = true := by
  obtain ⟨hne, hall⟩ := plain_ofNat n.natAbs
  unfold Str.ofInt
  split
  · refine ⟨List.cons_ne_nil _ _, fun c hc => ?_⟩
    rcases List.mem_cons.mp hc with rfl | hc
    · decide
    · exact hall c hc
  · exact ⟨hne, hall⟩

def intWord (n : ℤ) : Word := ⟨Str.ofInt n, (plain_ofInt n).1, (plain_ofInt n).2⟩

/-- The decimal digits of a number are a number of JSON: a zero comes first for
zero only, and that is written with one digit. -/
theorem isUnsigned_ofNat (n : ℕ) : isUnsigned (Str.ofNat n) = true := by
  obtain ⟨hall, -, c, ds, hcons, hzero⟩ := ofNat_spec n
  have hne : Str.ofNat n ≠ [] := by
    rw [hcons]
    exact List.cons_ne_nil c ds
  -- only the zero itself starts with a zero
  have hlead : (Str.ofNat n).head? ≠ some 48 ∨ (Str.ofNat n).length = 1 := by
    by_cases hc : c = 48
    · right
      rw [hzero hc]
      decide +kernel
    · left
      rw [hcons]
      simpa using hc
  have hnumber := @isUnsigned_append _ [] hne hall hlead rfl rfl
  rwa [List.append_nil] at hnumber

/-- So the text of an integer is a scalar. -/
theorem isScalar_intWord (n : ℤ) : isScalar (intWord n).text = true := by
  refine isScalar_of_isNumber ?_
  have hnumber := isUnsigned_ofNat n.natAbs
  unfold intWord Str.ofInt
  dsimp only
  split
  · -- the minus sign stands in front of the digits
    exact hnumber
  · obtain ⟨hall, -, c, ds, hcons, -⟩ := ofNat_spec n.natAbs
    have hc : isDigit c = true := by
      apply hall c
      rw [hcons]
      exact List.mem_cons_self
    rw [hcons, isNumber_of_digit hc, ← hcons]
    exact hnumber

/-! ### Floats -/

/-- A digit of a rounded number, as the text has it. -/
def floatDigit (fl : FloatOps F) (value : F) (decimals k : ℕ) : UInt8 :=
  48 ||| UInt8.ofNat (min (fl.digit value decimals k) 9)

/-- It is a digit, whatever the operations on floats answer. -/
theorem isDigit_floatDigit (fl : FloatOps F) (value : F) (decimals k : ℕ) :
    isDigit (floatDigit fl value decimals k) = true := by
  have hall : ∀ d < 10, isDigit (48 ||| UInt8.ofNat d) = true := by decide
  exact hall _ (by omega)

/-- The digits before the point. -/
def wholeDigits (fl : FloatOps F) (value : F) (decimals : ℕ) : Str :=
  (List.range (fl.tens value decimals + 1)).map (floatDigit fl value decimals)

/-- The digits behind the point. -/
def decimalDigits (fl : FloatOps F) (value : F) (decimals : ℕ) : Str :=
  (List.range decimals).map fun k =>
    floatDigit fl value decimals (fl.tens value decimals + 1 + k)

/-- All of them are digits. -/
theorem isDigit_wholeDigits (fl : FloatOps F) (value : F) (decimals : ℕ) :
    ∀ c ∈ wholeDigits fl value decimals, isDigit c = true := by
  intro c hc
  obtain ⟨k, -, rfl⟩ := List.mem_map.mp hc
  exact isDigit_floatDigit fl value decimals k

theorem isDigit_decimalDigits (fl : FloatOps F) (value : F) (decimals : ℕ) :
    ∀ c ∈ decimalDigits fl value decimals, isDigit c = true := by
  intro c hc
  obtain ⟨k, -, rfl⟩ := List.mem_map.mp hc
  exact isDigit_floatDigit fl value decimals _

/-- The text of a float that is a number. Its digits fill the width, so there is
no white space in front; the loop over all digits puts the point behind the last
one of the integer part. -/
theorem floatText_eq (fl : FloatOps F) {value : F} {decimals : ℕ} (h : 0 < decimals)
    (hnan : fl.isnan value = false) (hinf : fl.isinf value = false) :
    floatText fl value decimals = (if fl.negative value then [45] else []) ++
      (wholeDigits fl value decimals ++ 46 :: decimalDigits fl value decimals) := by
  -- the width is two more than the decimals, and a number has a digit and the point besides
  have hfill : ((decimals + 2 : ℤ) - ((decimals + 1 : ℕ) : ℤ)
      - ((if fl.negative value then [45] else [] : Str).length : ℤ)
      - ((fl.tens value decimals + 1 : ℕ) : ℤ)).toNat = 0 := by omega
  have hwhole : ∀ k ∈ List.range (fl.tens value decimals),
      floatDigit fl value decimals k :: (if k + 1 = fl.tens value decimals + 1 ∧ decimals > 0
        then [46] else [] : Str) = [floatDigit fl value decimals k] := by
    intro k hk
    have hlt : k < fl.tens value decimals := List.mem_range.mp hk
    rw [if_neg (by omega)]
  have hdecimal : ∀ k ∈ List.range decimals,
      floatDigit fl value decimals (fl.tens value decimals + 1 + k) ::
        (if fl.tens value decimals + 1 + k + 1 = fl.tens value decimals + 1 ∧ decimals > 0
          then [46] else [] : Str)
      = [floatDigit fl value decimals (fl.tens value decimals + 1 + k)] := by
    intro k _
    rw [if_neg (by omega)]
  unfold floatText dtostrf
  simp only [hnan, hinf, Bool.false_eq_true, if_false, if_pos h]
  rw [hfill, List.replicate_zero, List.nil_append]
  change _ ++ (List.range (fl.tens value decimals + 1 + decimals)).flatMap (fun k =>
    floatDigit fl value decimals k :: _) = _
  congr 1
  rw [List.range_add, List.range_succ, List.flatMap_append, List.flatMap_append, List.flatMap_map]
  rw [List.flatMap_congr hwhole, List.flatMap_congr hdecimal]
  simp [wholeDigits, decimalDigits, List.range_succ, h, ← List.map_eq_flatMap]

/-- A float is written without white space, whether it is a number or not. -/
theorem plain_floatText (fl : FloatOps F) (value : F) {decimals : ℕ} (h : 0 < decimals) :
    floatText fl value decimals ≠ [] ∧ ∀ c ∈ floatText fl value decimals, isPlain c = true := by
  cases hnan : fl.isnan value with
  | true =>
    have htext : floatText fl value decimals = lit "nan" := by
      rw [floatText, dtostrf, if_pos hnan]
    rw [htext]
    exact ⟨by decide +kernel, by decide +kernel⟩
  | false =>
    cases hinf : fl.isinf value with
    | true =>
      have htext : floatText fl value decimals = lit "inf" := by
        rw [floatText, dtostrf, if_neg (by simp [hnan]), if_pos hinf]
      rw [htext]
      exact ⟨by decide +kernel, by decide +kernel⟩
    | false =>
      -- a sign, the digits before the point, the point and the digits after it
      rw [floatText_eq fl h hnan hinf]
      refine ⟨by simp, fun c hc => ?_⟩
      have hwhole := isDigit_wholeDigits fl value decimals
      have hdecimal := isDigit_decimalDigits fl value decimals
      rw [List.mem_append, List.mem_append, List.mem_cons] at hc
      obtain hsign | hc | rfl | hc := hc
      · cases hneg : fl.negative value with
        | true =>
          simp only [hneg, if_true, List.mem_singleton] at hsign
          rw [hsign]
          decide
        | false => simp [hneg] at hsign
      · exact plain_of_isDigit (hwhole c hc)
      · decide
      · exact plain_of_isDigit (hdecimal c hc)

/-- The word of a float, with three decimals. -/
def floatWord (fl : FloatOps F) (value : F) : Word :=
  ⟨floatText fl value 3, (plain_floatText fl value (by decide)).1,
    (plain_floatText fl value (by decide)).2⟩

/-- Floats that are numbers, whose first digit is not zero when there is more
than one before the point. -/
structure FloatOps.Finite (fl : FloatOps F) : Prop where
  isnan : ∀ v, fl.isnan v = false
  isinf : ∀ v, fl.isinf v = false
  lead : ∀ v decimals, 0 < fl.tens v decimals → 0 < fl.digit v decimals 0

/-- **A float that is a number is written as a number of JSON.** It has a digit
on either side of the point, and no zero in front that does not belong there. -/
theorem isScalar_floatWord {fl : FloatOps F} (hfl : fl.Finite) (value : F) :
    isScalar (floatWord fl value).text = true := by
  refine isScalar_of_isNumber ?_
  change isNumber (floatText fl value 3) = true
  rw [floatText_eq fl (by decide) (hfl.isnan value) (hfl.isinf value)]
  have hhead : wholeDigits fl value 3 = floatDigit fl value 3 0 ::
      (List.range (fl.tens value 3)).map (fun k => floatDigit fl value 3 (k + 1)) := by
    rw [wholeDigits, List.range_succ_eq_map, List.map_cons, List.map_map]
    rfl
  -- a number with tens has no leading zero
  have hlead : (wholeDigits fl value 3).head? ≠ some 48 ∨ (wholeDigits fl value 3).length = 1 := by
    cases htens : fl.tens value 3 with
    | zero =>
      right
      rw [wholeDigits, htens]
      rfl
    | succ n =>
      left
      have hpos := hfl.lead value 3 (by omega)
      have hall : ∀ d < 10, 0 < d → 48 ||| UInt8.ofNat d ≠ 48 := by decide
      have hne := hall (min (fl.digit value 3 0) 9) (by omega) (by omega)
      rw [hhead, List.head?_cons]
      exact fun heq => hne (Option.some.inj heq)
  have hnumber : isUnsigned (wholeDigits fl value 3 ++ 46 :: decimalDigits fl value 3) = true := by
    refine isUnsigned_append (by rw [hhead]; exact List.cons_ne_nil _ _)
      (isDigit_wholeDigits fl value 3) hlead rfl ?_
    have hdecimal := isDigit_decimalDigits fl value 3
    have htake := List.takeWhile_eq_self_iff.mpr hdecimal
    have hdrop := List.dropWhile_eq_nil_iff.mpr hdecimal
    rw [isFraction, htake, hdrop]
    rfl
  cases fl.negative value with
  | true => exact hnumber
  | false =>
    rw [if_neg Bool.false_ne_true, List.nil_append, hhead, List.cons_append,
      isNumber_of_digit (isDigit_floatDigit fl value 3 0), ← List.cons_append, ← hhead]
    exact hnumber

/-! ### Documents of one word -/

def intDoc (n : ℤ) : Doc := .word (intWord n)

def boolDoc (v : Bool) : Doc := .word (boolWord v)

def floatDoc (fl : FloatOps F) (v : F) : Doc := .word (floatWord fl v)

/-- Integers and literals are strict, and floats are when they are numbers. -/
@[simp] theorem strict_intDoc (n : ℤ) : (intDoc n).strict = true := by
  rw [intDoc, Doc.strict, isScalar_intWord]

@[simp] theorem strict_boolDoc (v : Bool) : (boolDoc v).strict = true := by
  rw [boolDoc, Doc.strict, isScalar_boolWord]

theorem strict_floatDoc {fl : FloatOps F} (hfl : fl.Finite) (v : F) :
    (floatDoc fl v).strict = true := by
  rw [floatDoc, Doc.strict, isScalar_floatWord hfl]

/-! ### Values -/

/-- The program writes the document wherever a value may stand, as long as `n`
frames may still be opened. -/
def WritesDoc (n : ℕ) (v : Writing) (d : Doc) : Prop :=
  ∀ w : JsonWriter, w.stack.length + n ≤ JsonWriter.stackSize →
    v w = some ((), w.wrote (d.text writerPrinter))

/-- The program writes these members into an open object, from the first or
behind others, and closes it. -/
def Members (n : ℕ) (p : Writing) (ms : List (Str × Doc)) : Prop :=
  ∀ (out : Str) (first : Bool) (fs : List Frame), fs.length + 1 + n ≤ JsonWriter.stackSize →
    p ⟨out, ⟨.object, first⟩ :: fs, false⟩
      = some ((), ⟨out ++ textOf writerPrinter (Doc.memberTokens first ms) ++ [125], fs, false⟩)

/-- The program writes these items into an open array. -/
def Items (n : ℕ) (p : Writing) (ds : List Doc) : Prop :=
  ∀ (out : Str) (first : Bool) (fs : List Frame), fs.length + 1 + n ≤ JsonWriter.stackSize →
    p ⟨out, ⟨.array, first⟩ :: fs, false⟩
      = some ((), ⟨out ++ textOf writerPrinter (Doc.itemTokens first ds),
          ⟨.array, first && ds.isEmpty⟩ :: fs, false⟩)

/-- The program writes the rest of the items, the end of the array, and the
members that follow it in the object around. -/
def ItemsThen (n : ℕ) (p : Writing) (ds : List Doc) (ms : List (Str × Doc)) : Prop :=
  ∀ (out : Str) (first : Bool) (fs : List Frame), fs.length + 2 + n ≤ JsonWriter.stackSize →
    p ⟨out, ⟨.array, first⟩ :: ⟨.object, false⟩ :: fs, false⟩
      = some ((), ⟨out ++ textOf writerPrinter (Doc.itemTokens first ds) ++ [93]
          ++ textOf writerPrinter (Doc.memberTokens false ms) ++ [125], fs, false⟩)

/-- A call that only puts a text where a value may stand. -/
theorem WritesDoc.of_text {n : ℕ} {v : Writing} {d : Doc}
    (h : ∀ w : JsonWriter, v w = some ((), w.wrote (d.text writerPrinter))) : WritesDoc n v d :=
  fun w _ => h w

/-- The calls for a value: a string, a C string, which may be missing, an
integer, a float, and a literal. -/
theorem WritesDoc.valueString {n : ℕ} (s : Str) :
    WritesDoc n (Writing.valueString s) (.string s) := by
  refine .of_text fun w => ?_
  change some ((), w.valueString s) = _
  simp [JsonWriter.valueString, JsonWriter.appendEscapedString, JsonWriter.wrote, Doc.text,
    Doc.tokens, Token.text, Printer.quoted, writerPrinter]

theorem WritesDoc.valueCString {n : ℕ} (text : Option Str) :
    WritesDoc n (Writing.valueCString text) (.string ((text.getD []).takeWhile (· ≠ 0))) :=
  .valueString ((text.getD []).takeWhile (· ≠ 0))

theorem WritesDoc.valueInt {n : ℕ} (v : ℤ) :
    WritesDoc n (Writing.valueInt v) (intDoc v) := by
  refine .of_text fun w => ?_
  simp only [Doc.text, intDoc, Doc.tokens, textOf_cons, textOf_nil, List.append_nil]
  rfl

theorem WritesDoc.valueFloat {n : ℕ} (fl : FloatOps F) (v : F) :
    WritesDoc n (Writing.valueFloat fl v 3) (floatDoc fl v) := by
  refine .of_text fun w => ?_
  simp only [Doc.text, floatDoc, Doc.tokens, textOf_cons, textOf_nil, List.append_nil]
  rfl

theorem WritesDoc.valueBool {n : ℕ} (v : Bool) :
    WritesDoc n (Writing.valueBool v) (boolDoc v) := by
  refine .of_text fun w => ?_
  simp only [Doc.text, boolDoc, Doc.tokens, textOf_cons, textOf_nil, List.append_nil]
  cases v <;> rfl

/-- A call, and what comes after it. -/
theorem Writing.bind_eq {p q : Writing} {w w' : JsonWriter} (h : p w = some ((), w')) :
    (p >>= fun _ => q) w = q w' := by
  change (p w).bind _ = _
  rw [h]
  rfl

/-! ### Putting calls together -/

section Rules

variable {n : ℕ} {v p rest : Writing} {d : Doc} {ds es : List Doc} {ms : List (Str × Doc)}

/-- The end of an object. -/
theorem Members.endObject : Members n Writing.endObject [] := by
  intro out first fs _
  change some ((), JsonWriter.endObject _) = _
  simp [JsonWriter.endObject, JsonWriter.closeFrame, Doc.memberTokens]

/-- A key puts out the comma of its member, itself and a colon. -/
theorem Writing.key_eq {k : String} (hk : (lit k).all (· ≠ 0) = true) (out : Str) (first : Bool)
    (fs : List Frame) : Writing.key k ⟨out, ⟨.object, first⟩ :: fs, false⟩
      = some ((), ⟨out ++ ((if first then [] else [44]) ++ (writerPrinter.quoted (lit k) ++ [58])),
          ⟨.object, false⟩ :: fs, true⟩) := by
  have hnul : ∀ c ∈ lit k, c ≠ 0 := fun c hc => by simpa using List.all_eq_true.mp hk c hc
  exact congrArg (fun w => some ((), w)) (JsonWriter.key_object hnul out first fs)

/-- The text of a member, and of those after it. -/
theorem textOf_memberTokens (first : Bool) (k : Str) (d : Doc) (ms : List (Str × Doc)) :
    textOf writerPrinter (Doc.memberTokens first ((k, d) :: ms))
      = (if first then [] else [44]) ++ (writerPrinter.quoted k ++ [58])
        ++ d.text writerPrinter ++ textOf writerPrinter (Doc.memberTokens false ms) := by
  cases first <;> simp [Doc.memberTokens, Token.text, Mark.byte, Doc.text]

/-- The text of an item, and of those after it. -/
theorem textOf_itemTokens (first : Bool) (d : Doc) (ds : List Doc) :
    textOf writerPrinter (Doc.itemTokens first (d :: ds))
      = (if first then [] else [44]) ++ d.text writerPrinter
        ++ textOf writerPrinter (Doc.itemTokens false ds) := by
  cases first <;> simp [Doc.itemTokens, Token.text, Mark.byte, Doc.text]

/-- **A member** is a key and the value after it. -/
theorem Members.member {k : String} (hk : (lit k).all (· ≠ 0) = true) (hv : WritesDoc n v d)
    (hrest : Members n rest ms) :
    Members n (do Writing.key k; v; rest) ((lit k, d) :: ms) := by
  intro out first fs hroom
  rw [Writing.bind_eq (Writing.key_eq hk out first fs)]
  -- the key has set `expectingValue`, so the value gets no comma
  rw [Writing.bind_eq (hv ⟨_, ⟨.object, false⟩ :: fs, true⟩ hroom)]
  refine (hrest _ false fs hroom).trans ?_
  rw [textOf_memberTokens]
  simp [JsonWriter.beforeValue]

/-- **A member that is an array.** Its frame is opened behind the key, and what
comes after its end belongs to the object again. -/
theorem Members.array {k : String} (hk : (lit k).all (· ≠ 0) = true)
    (hp : ItemsThen n p ds ms) :
    Members (n + 1) (do Writing.key k; Writing.beginArray; p) ((lit k, .array ds) :: ms) := by
  intro out first fs hroom
  -- the bracket is the value of the key, so it gets no comma; one more frame is open
  have hopen : ∀ text : Str, Writing.beginArray ⟨text, ⟨.object, false⟩ :: fs, true⟩
      = some ((), ⟨text ++ [91], ⟨.array, true⟩ :: ⟨.object, false⟩ :: fs, false⟩) := by
    intro text
    have hfree : (⟨.object, false⟩ :: fs : List Frame).length < JsonWriter.stackSize := by
      rw [List.length_cons]
      omega
    unfold Writing.beginArray JsonWriter.beginArray JsonWriter.openFrame
    simp only [JsonWriter.beforeValue, if_true, if_pos hfree, Option.map_some]
  rw [Writing.bind_eq (Writing.key_eq hk out first fs), Writing.bind_eq (hopen _)]
  refine (hp _ true fs (by omega)).trans ?_
  rw [textOf_memberTokens]
  simp [Doc.text, Doc.tokens, Token.text, Mark.byte]

/-- The end of the array goes back to the members. -/
theorem ItemsThen.endArray (hrest : Members (n + 1) rest ms) :
    ItemsThen n (do Writing.endArray; rest) [] ms := by
  intro out first fs hroom
  have hclose : Writing.endArray ⟨out, ⟨.array, first⟩ :: ⟨.object, false⟩ :: fs, false⟩
      = some ((), ⟨out ++ [93], ⟨.object, false⟩ :: fs, false⟩) := rfl
  rw [Writing.bind_eq hclose]
  refine (hrest _ false fs (by omega)).trans ?_
  simp [Doc.itemTokens]

/-- The text of some items and others behind them. The comma between them comes
with the others. -/
theorem textOf_itemTokens_append (first : Bool) (ds es : List Doc) :
    textOf writerPrinter (Doc.itemTokens first (ds ++ es))
      = textOf writerPrinter (Doc.itemTokens first ds)
        ++ textOf writerPrinter (Doc.itemTokens (first && ds.isEmpty) es) := by
  induction ds generalizing first with
  | nil => simp [Doc.itemTokens]
  | cons d ds ih => simp [textOf_itemTokens, ih]

/-- **Some of the items**, and the others. -/
theorem ItemsThen.items (hp : Items n p ds) (hrest : ItemsThen n rest es ms) :
    ItemsThen n (do p; rest) (ds ++ es) ms := by
  intro out first fs hroom
  have hfree : (⟨.object, false⟩ :: fs : List Frame).length + 1 + n ≤ JsonWriter.stackSize := by
    rw [List.length_cons]
    omega
  rw [Writing.bind_eq (hp out first (⟨.object, false⟩ :: fs) hfree)]
  refine (hrest _ _ fs hroom).trans ?_
  simp [textOf_itemTokens_append]

/-- The last of the items. -/
theorem ItemsThen.last (hp : Items n p ds) (hrest : Members (n + 1) rest ms) :
    ItemsThen n (do p; Writing.endArray; rest) ds ms := by
  have h := ItemsThen.items hp (.endArray hrest)
  rwa [List.append_nil] at h

/-- A program that does nothing writes no items. -/
theorem Items.none : Items n (pure ()) [] := by
  intro out first fs _
  change some ((), _) = _
  simp [Doc.itemTokens]

theorem Items.value (hv : WritesDoc n v d) : Items n v [d] := by
  intro out first fs hroom
  refine (hv ⟨out, ⟨.array, first⟩ :: fs, false⟩ hroom).trans ?_
  rw [textOf_itemTokens]
  simp [JsonWriter.wrote, JsonWriter.beforeValue_array, Doc.itemTokens]

/-- Two programs in a row write the items of both. -/
theorem Items.append {q : Writing} (hp : Items n p ds) (hq : Items n q es) :
    Items n (do p; q) (ds ++ es) := by
  intro out first fs hroom
  rw [Writing.bind_eq (hp out first fs hroom)]
  -- the second part starts with a comma unless the first one wrote nothing
  refine (hq _ _ fs hroom).trans ?_
  rw [textOf_itemTokens_append]
  cases ds <;> simp

/-- **A loop** writes the items of its rounds, by induction on the rounds. -/
theorem Items.forM {ι : Type} {body : ι → Writing} {items : ι → List Doc}
    (h : ∀ i, Items n (body i) (items i)) (l : List ι) :
    Items n (l.forM body) (l.flatMap items) := by
  induction l with
  | nil => exact .none
  | cons i l ih =>
    rw [List.flatMap_cons]
    exact (h i).append ih

/-- An object is its members between braces. -/
theorem WritesDoc.object (hp : Members n p ms) :
    WritesDoc (n + 1) (do Writing.beginObject; p) (.object ms) := by
  intro w hroom
  have hlen := w.length_beforeValue
  have hopen : Writing.beginObject w = some ((), ⟨w.beforeValue.out ++ [123],
      ⟨.object, true⟩ :: w.beforeValue.stack, false⟩) :=
    congrArg (Option.map fun j => ((), j)) (if_pos (by omega))
  rw [Writing.bind_eq hopen]
  refine (hp _ true _ (by omega)).trans ?_
  simp [JsonWriter.wrote, Doc.text, Doc.tokens, Token.text, Mark.byte]

/-- An array is its items between brackets. -/
theorem WritesDoc.array (hp : Items n p ds) :
    WritesDoc (n + 1) (do Writing.beginArray; p; Writing.endArray) (.array ds) := by
  intro w hroom
  have hlen := w.length_beforeValue
  have hopen : Writing.beginArray w = some ((), ⟨w.beforeValue.out ++ [91],
      ⟨.array, true⟩ :: w.beforeValue.stack, false⟩) :=
    congrArg (Option.map fun j => ((), j)) (if_pos (by omega))
  rw [Writing.bind_eq hopen, Writing.bind_eq (hp _ true _ (by omega))]
  change some ((), JsonWriter.endArray _) = _
  simp [JsonWriter.endArray, JsonWriter.closeFrame, JsonWriter.wrote, Doc.text, Doc.tokens,
    Token.text, Mark.byte]

/-- **A builder that writes a document** returns a text that is read as that
document. Whether the text is JSON is a question of the words in it, which a
float that is no number answers badly. -/
theorem str_of_writesDoc (h : WritesDoc n v d) (hn : n ≤ JsonWriter.stackSize) :
    ∃ text, v.str = some text ∧ Doc.scan text = some d := by
  have hrun := h {} (by simpa using hn)
  refine ⟨d.text writerPrinter, ?_, Doc.scan_text writerPrinter d⟩
  unfold Writing.str
  rw [hrun]
  rfl

end Rules

end RcController
