import RcController.Lib.Json

/-!
# JSON documents with numbers as they are written

The trees of `Json` hold integers. A `Doc` keeps a number, or a literal, as the word it is
written with, so documents with fractions can be read and compared without anything being
said about floats.

A text is read in three steps. `lex` cuts it into tokens, and undoes writing tokens down when
no two words touch (`lex_textOf`). `Doc.read` puts the tokens together again, and undoes
`Doc.tokens` (`Doc.read_tokens`). Up to here a word is any run of visible bytes, such as the
`nan` that some writers put where a number belongs (`Doc.scan`). `Doc.parse` is strict: it
takes a text only if every word of it is a number of JSON or one of its three literals
(`isScalar`). So the text of a document is read as that document when it is made of scalars
(`Doc.parse_text`), and whatever is read is made of them (`Doc.strict_of_parse`).

That the bytes of a string are UTF-8 is not looked at.
-/

namespace Json

/-! ### Scalars -/

/-- What follows the digits and the fraction of a number: nothing, or an
exponent with a sign or without one. -/
def isExponent : Bytes → Bool
  | [] => true
  | c :: text =>
    let digits := match text with
      | 43 :: digits => digits
      | 45 :: digits => digits
      | digits => digits
    (c = 69 || c = 101) && !digits.isEmpty && digits.all isDigit

/-- What follows the digits of a number: a point with digits of its own, or no
point, and an exponent. -/
def isFraction : Bytes → Bool
  | 46 :: text => !(text.takeWhile isDigit).isEmpty && isExponent (text.dropWhile isDigit)
  | text => isExponent text

/-- A number without a sign. It has digits, of which the first is a zero only
when it is the only one. -/
def isUnsigned (text : Bytes) : Bool :=
  let digits := text.takeWhile isDigit
  !digits.isEmpty && (digits.head? ≠ some 48 || digits.length = 1)
    && isFraction (text.dropWhile isDigit)

/-- A number of JSON. A plus sign in front is not allowed, nor is a point at
either end. -/
def isNumber : Bytes → Bool
  | 45 :: text => isUnsigned text
  | text => isUnsigned text

/-- A number, or `true`, `false` or `null`. -/
def isScalar (text : Bytes) : Bool :=
  text = [116, 114, 117, 101] || text = [102, 97, 108, 115, 101] || text = [110, 117, 108, 108]
    || isNumber text

/-- Digits are a number when the first one is not a zero too many. What follows
them starts with no digit, so it is the fraction or the exponent. -/
theorem isUnsigned_append {digits rest : Bytes} (hne : digits ≠ [])
    (hdigits : ∀ c ∈ digits, isDigit c = true)
    (hlead : digits.head? ≠ some 48 ∨ digits.length = 1)
    (hrest : rest.takeWhile isDigit = []) (hfraction : isFraction rest = true) :
    isUnsigned (digits ++ rest) = true := by
  -- the scan stops where `rest` begins
  have hdrop : rest.dropWhile isDigit = rest := by
    cases rest with
    | nil => rfl
    | cons c rest =>
      have hc : ¬ isDigit c = true := by
        intro hc
        rw [List.takeWhile_cons_of_pos hc] at hrest
        exact List.cons_ne_nil _ _ hrest
      rw [List.dropWhile_cons_of_neg hc]
  unfold isUnsigned
  rw [List.takeWhile_append_of_pos hdigits, List.dropWhile_append_of_pos hdigits, hrest, hdrop,
    List.append_nil, hfraction]
  simpa [hne] using hlead

/-- A number whose first byte is a digit has no sign. The test for a sign is
made first, and a digit does not pass it. -/
theorem isNumber_of_digit {c : UInt8} (hc : isDigit c = true) (text : Bytes) :
    isNumber (c :: text) = isUnsigned (c :: text) := by
  have hne : c ≠ 45 := by
    rintro rfl
    exact absurd hc (by decide)
  unfold isNumber
  split
  · next heq => exact absurd (List.cons.inj heq).1 hne
  · rfl

/-- A number is a scalar. -/
theorem isScalar_of_isNumber {text : Bytes} (h : isNumber text = true) : isScalar text = true := by
  rw [isScalar, h, Bool.or_true]

/-! ### Tokens -/

/-- A byte of a word: visible, and without a meaning of its own. -/
def isPlain (c : UInt8) : Bool :=
  32 < c && !(c = 34 || c = 44 || c = 58 || c = 91 || c = 93 || c = 123 || c = 125)

/-- A run of visible bytes that is neither a mark nor part of a string. It is
not empty, or it would not be seen. -/
structure Word where
  text : Bytes
  ne : text ≠ []
  plain : ∀ c ∈ text, isPlain c = true
  deriving DecidableEq

inductive Mark where
  | comma
  | colon
  | openArray
  | closeArray
  | openObject
  | closeObject
  deriving DecidableEq

def Mark.byte : Mark → UInt8
  | .comma => 44
  | .colon => 58
  | .openArray => 91
  | .closeArray => 93
  | .openObject => 123
  | .closeObject => 125

def Mark.ofByte (c : UInt8) : Option Mark :=
  if c = 44 then some .comma
  else if c = 58 then some .colon
  else if c = 91 then some .openArray
  else if c = 93 then some .closeArray
  else if c = 123 then some .openObject
  else if c = 125 then some .closeObject
  else none

inductive Token where
  | mark (m : Mark)
  | string (s : Bytes)
  | word (t : Word)
  deriving DecidableEq

/-- The tokens of a text. A word ends at the first byte that cannot belong to
it. -/
def lex : ℕ → Bytes → Option (List Token)
  | _, [] => some []
  | 0, _ :: _ => none
  | fuel + 1, c :: text =>
    if isSpace c then lex fuel text
    else if c = 34 then
      match readString text with
      | some (s, rest) => (lex fuel rest).map (.string s :: ·)
      | none => none
    else
      match Mark.ofByte c with
      | some m => (lex fuel text).map (.mark m :: ·)
      | none =>
        if h : isPlain c = true then
          let t : Word := ⟨c :: text.takeWhile isPlain, List.cons_ne_nil _ _, fun _ hd =>
            (List.mem_cons.mp hd).elim (fun heq => heq ▸ h) List.mem_takeWhile_imp⟩
          (lex fuel (text.dropWhile isPlain)).map (.word t :: ·)
        else none

/-- The text of a token. -/
def Token.text (p : Printer) : Token → Bytes
  | .mark m => [m.byte]
  | .string s => p.quoted s
  | .word t => t.text

/-- The text of a list of tokens, without white space. -/
def textOf (p : Printer) (ts : List Token) : Bytes := ts.flatMap (Token.text p)

@[simp] theorem textOf_nil (p : Printer) : textOf p [] = [] := rfl

@[simp] theorem textOf_cons (p : Printer) (t : Token) (ts : List Token) :
    textOf p (t :: ts) = t.text p ++ textOf p ts := rfl

@[simp] theorem textOf_append (p : Printer) (ts us : List Token) :
    textOf p (ts ++ us) = textOf p ts ++ textOf p us := List.flatMap_append

/-- The tokens start with a mark, if there are any. -/
def Marked : List Token → Prop
  | [] => True
  | .mark _ :: _ => True
  | .string _ :: _ => False
  | .word _ :: _ => False

/-- No two tokens of the list touch in a way that would join them: after a word
comes a mark, or the end. -/
def Separated : List Token → Prop
  | [] => True
  | .mark _ :: ts => Separated ts
  | .string _ :: ts => Separated ts
  | .word _ :: ts => Marked ts ∧ Separated ts

/-! ### What is written down is cut into the same tokens -/

/-- A mark is taken for nothing else. -/
theorem Mark.byte_spec (m : Mark) : isSpace m.byte = false ∧ m.byte ≠ 34 ∧
    Mark.ofByte m.byte = some m ∧ isPlain m.byte = false := by
  cases m <;> decide

/-- A byte of a word is neither white space nor a quote nor a mark. -/
theorem isPlain_spec {c : UInt8} (h : isPlain c = true) :
    isSpace c = false ∧ c ≠ 34 ∧ Mark.ofByte c = none := by
  simp only [isPlain, Bool.and_eq_true, Bool.not_eq_true', Bool.or_eq_false_iff,
    decide_eq_true_eq, decide_eq_false_iff_not] at h
  obtain ⟨hvisible, ⟨⟨⟨⟨⟨h34, h44⟩, h58⟩, h91⟩, h93⟩, h123⟩, h125⟩ := h
  refine ⟨?_, h34, ?_⟩
  · simp only [isSpace, Bool.or_eq_false_iff, decide_eq_false_iff_not]
    refine ⟨⟨⟨?_, ?_⟩, ?_⟩, ?_⟩ <;> rintro rfl <;> exact absurd hvisible (by decide)
  · simp [Mark.ofByte, h44, h58, h91, h93, h123, h125]

/-- A word ends where a mark begins. -/
theorem span_of_marked (p : Printer) {ts : List Token} (h : Marked ts) {text : Bytes}
    (htext : ∀ c ∈ text, isPlain c = true) :
    (text ++ textOf p ts).takeWhile isPlain = text ∧
      (text ++ textOf p ts).dropWhile isPlain = textOf p ts := by
  -- what follows is the end of the text or the byte of a mark, which is not plain
  have hstop : (textOf p ts).takeWhile isPlain = [] ∧
      (textOf p ts).dropWhile isPlain = textOf p ts := by
    cases ts with
    | nil => exact ⟨rfl, rfl⟩
    | cons t ts =>
      cases t with
      | mark m =>
        have hmark : isPlain m.byte = false := m.byte_spec.2.2.2
        simp [Token.text, hmark]
      | string s => exact h.elim
      | word t => exact h.elim
  rw [List.takeWhile_append_of_pos htext, List.dropWhile_append_of_pos htext, hstop.1, hstop.2,
    List.append_nil]
  exact ⟨rfl, rfl⟩

/-- **Tokens that are written down are found again**, by induction on the list.
For a word its end has to be found, and there the mark that follows it is
used. -/
theorem lex_textOf (p : Printer) {ts : List Token} (h : Separated ts) {fuel : ℕ}
    (hfuel : (textOf p ts).length ≤ fuel) : lex fuel (textOf p ts) = some ts := by
  induction ts generalizing fuel with
  | nil => cases fuel <;> rfl
  | cons t ts ih =>
    rw [textOf_cons, List.length_append] at hfuel
    cases t with
    | mark m =>
      -- one byte, which is neither white space nor a quote
      obtain ⟨fuel, rfl⟩ : ∃ k, fuel = k + 1 := ⟨fuel - 1, by simp [Token.text] at hfuel; omega⟩
      obtain ⟨hspace, hquote, hmark, -⟩ := m.byte_spec
      have hts : lex fuel (textOf p ts) = some ts :=
        ih h (by simp [Token.text] at hfuel; omega)
      rw [textOf_cons, Token.text, List.singleton_append, lex]
      simp [hspace, hquote, hmark, hts]
    | string s =>
      obtain ⟨fuel, rfl⟩ : ∃ k, fuel = k + 1 :=
        ⟨fuel - 1, by simp [Token.text, Printer.quoted] at hfuel; omega⟩
      have hts : lex fuel (textOf p ts) = some ts :=
        ih h (by simp [Token.text, Printer.quoted] at hfuel; omega)
      -- behind the quote `readString` takes over, up to the quote that closes the string
      have hsplit : textOf p (.string s :: ts) = 34 :: (p.escape s ++ 34 :: textOf p ts) := by
        simp [Token.text, Printer.quoted]
      rw [hsplit, lex]
      simp [isSpace, p.readString_escape, hts]
    | word t =>
      obtain ⟨text, hne, hplain⟩ := t
      obtain ⟨c, text, rfl⟩ := List.exists_cons_of_ne_nil hne
      obtain ⟨fuel, rfl⟩ : ∃ k, fuel = k + 1 := ⟨fuel - 1, by simp [Token.text] at hfuel; omega⟩
      have hts : lex fuel (textOf p ts) = some ts :=
        ih h.2 (by simp [Token.text] at hfuel; omega)
      -- the first byte chooses the rule, and the word goes on while the bytes are plain
      have hc := hplain c List.mem_cons_self
      obtain ⟨hspace, hquote, hmark⟩ := isPlain_spec hc
      obtain ⟨htake, hdrop⟩ := span_of_marked p h.1 fun d hd => hplain d (List.mem_cons_of_mem c hd)
      rw [textOf_cons, Token.text, List.cons_append, lex]
      simp only [hspace, hquote, hmark, hc, htake, hdrop, hts, Bool.false_eq_true, if_false,
        dif_pos, Option.map_some]

/-! ### Documents -/

inductive Doc where
  | word (t : Word)
  | string (s : Bytes)
  | array (items : List Doc)
  | object (members : List (Bytes × Doc))

namespace Doc

/-- Induction over documents, by the items and members of a node, as for
trees. -/
@[elab_as_elim]
theorem induction {motive : Doc → Prop} (word : ∀ t, motive (.word t))
    (string : ∀ s, motive (.string s))
    (array : ∀ items, (∀ d ∈ items, motive d) → motive (.array items))
    (object : ∀ members, (∀ m ∈ members, motive m.2) → motive (.object members)) :
    ∀ d, motive d := by
  intro d
  refine @Doc.rec motive (fun items => ∀ d ∈ items, motive d)
    (fun members => ∀ m ∈ members, motive m.2) (fun m => motive m.2)
    word string array object ?_ ?_ ?_ ?_ ?_ d
  all_goals simp_all

mutual

/-- The tokens of a document. -/
def tokens : Doc → List Token
  | .word t => [.word t]
  | .string s => [.string s]
  | .array items => .mark .openArray :: (itemTokens true items ++ [.mark .closeArray])
  | .object members => .mark .openObject :: (memberTokens true members ++ [.mark .closeObject])

/-- Items with a comma before each; the first one has none when `first` is
set. -/
def itemTokens (first : Bool) : List Doc → List Token
  | [] => []
  | d :: ds => (if first then [] else [.mark .comma]) ++ (d.tokens ++ itemTokens false ds)

def memberTokens (first : Bool) : List (Bytes × Doc) → List Token
  | [] => []
  | (k, d) :: ms => (if first then [] else [.mark .comma]) ++
      (.string k :: .mark .colon :: (d.tokens ++ memberTokens false ms))

end

mutual

/-- A document at the head of a list of tokens, and the tokens after it. -/
def read : ℕ → List Token → Option (Doc × List Token)
  | 0, _ => none
  | fuel + 1, ts =>
    match ts with
    | .word t :: ts => some (.word t, ts)
    | .string s :: ts => some (.string s, ts)
    | .mark .openArray :: .mark .closeArray :: ts => some (.array [], ts)
    | .mark .openArray :: ts =>
      (readItems fuel ts).map fun (items, rest) => (.array items, rest)
    | .mark .openObject :: .mark .closeObject :: ts => some (.object [], ts)
    | .mark .openObject :: ts =>
      (readMembers fuel ts).map fun (members, rest) => (.object members, rest)
    | _ => none

/-- The items of an array that has one, up to its closing bracket. -/
def readItems : ℕ → List Token → Option (List Doc × List Token)
  | 0, _ => none
  | fuel + 1, ts =>
    match read fuel ts with
    | some (d, .mark .closeArray :: ts) => some ([d], ts)
    | some (d, .mark .comma :: ts) => (readItems fuel ts).map fun (ds, rest) => (d :: ds, rest)
    | _ => none

/-- The members of an object that has one, up to its closing brace. -/
def readMembers : ℕ → List Token → Option (List (Bytes × Doc) × List Token)
  | 0, _ => none
  | fuel + 1, ts =>
    match ts with
    | .string k :: .mark .colon :: ts =>
      match read fuel ts with
      | some (d, .mark .closeObject :: ts) => some ([(k, d)], ts)
      | some (d, .mark .comma :: ts) =>
        (readMembers fuel ts).map fun (ms, rest) => ((k, d) :: ms, rest)
      | _ => none
    | _ => none

end

/-- A document made of the tokens of a text, with nothing left over. Its words
may be anything. -/
def scan (text : Bytes) : Option Doc :=
  match lex text.length text with
  | none => none
  | some ts =>
    match read ts.length ts with
    | some (d, []) => some d
    | _ => none

mutual

/-- Every word is a scalar of JSON. -/
def strict : Doc → Bool
  | .word t => isScalar t.text
  | .string _ => true
  | .array items => strictItems items
  | .object members => strictMembers members

def strictItems : List Doc → Bool
  | [] => true
  | d :: ds => d.strict && strictItems ds

def strictMembers : List (Bytes × Doc) → Bool
  | [] => true
  | (_, d) :: ms => d.strict && strictMembers ms

end

/-- The strict reader: a text that is scanned as a strict document. -/
def parse (text : Bytes) : Option Doc := (scan text).filter strict

/-- A string is strict, whatever bytes it holds. -/
@[simp] theorem strict_string (s : Bytes) : (string s).strict = true := by rw [strict]

/-- An array is strict when its items are, by induction on them. -/
theorem strict_array {items : List Doc} (h : ∀ d ∈ items, d.strict = true) :
    (array items).strict = true := by
  rw [strict]
  induction items with
  | nil => rw [strictItems]
  | cons d ds ih =>
    rw [strictItems, h d List.mem_cons_self, ih fun e he => h e (List.mem_cons_of_mem d he)]
    rfl

/-- An object is strict when the values of its members are. Of the keys nothing
is asked. -/
theorem strict_object {members : List (Bytes × Doc)} (h : ∀ m ∈ members, m.2.strict = true) :
    (object members).strict = true := by
  rw [strict]
  induction members with
  | nil => rw [strictMembers]
  | cons m ms ih =>
    obtain ⟨k, d⟩ := m
    rw [strictMembers, h (k, d) List.mem_cons_self,
      ih fun n hn => h n (List.mem_cons_of_mem (k, d) hn)]
    rfl

/-- A text is parsed when it is scanned as a strict document. -/
theorem parse_of_scan {text : Bytes} {d : Doc} (h : scan text = some d) (hd : d.strict = true) :
    parse text = some d := by
  rw [parse, h, Option.filter_some, if_pos hd]

/-- **What is read is made of scalars.** So `nan`, `01` or `hello` are no
documents, and cannot stand in one. -/
theorem strict_of_parse {text : Bytes} {d : Doc} (h : parse text = some d) : d.strict = true :=
  (Option.filter_eq_some_iff.mp h).2

/-- The value of the one member of an object with the given key. -/
def field (k : Bytes) : Doc → Option Doc
  | .object members =>
    match members.filter fun m => m.1 = k with
    | [m] => some m.2
    | _ => none
  | .word _ => none
  | .string _ => none
  | .array _ => none

/-- A member of an object whose keys are distinct is its value under the key. -/
theorem field_of_mem {members : List (Bytes × Doc)} (hkeys : (members.map Prod.fst).Nodup)
    {k : Bytes} {d : Doc} (h : (k, d) ∈ members) : (object members).field k = some d := by
  have hfilter : members.filter (fun m => m.1 = k) = [(k, d)] := by
    induction members with
    | nil => cases h
    | cons m members ih =>
      obtain ⟨hnew, hkeys⟩ := List.nodup_cons.mp hkeys
      obtain rfl | h := List.mem_cons.mp h
      · -- the field found is this one: no later member has its key
        rw [List.filter_cons_of_pos (by simp), List.filter_eq_nil_iff.mpr]
        intro m' hm' heq
        exact hnew (List.mem_map.mpr ⟨m', hm', by simpa using heq⟩)
      · have hne : m.1 ≠ k := fun heq => hnew (heq ▸ List.mem_map_of_mem h)
        rw [List.filter_cons_of_neg (by simpa using hne), ih hkeys h]
  simp only [field, hfilter]

/-- The text of a document, as a printer writes it. The words are written as
they are. -/
def text (p : Printer) (d : Doc) : Bytes := textOf p d.tokens

/-! ### The text of a document is read as that document -/

/-- After the tokens of a value comes a mark, or the end; then nothing
touches. -/
def Separates (d : Doc) : Prop :=
  ∀ rest, Marked rest → Separated rest → Separated (d.tokens ++ rest)

/-- What follows an item is a comma or a bracket, and what follows a member a
comma or a brace. -/
theorem marked_itemTokens (ds : List Doc) {rest : List Token} (h : Marked rest) :
    Marked (itemTokens false ds ++ rest) := by
  cases ds with
  | nil => exact h
  | cons d ds => exact trivial

theorem marked_memberTokens (ms : List (Bytes × Doc)) {rest : List Token} (h : Marked rest) :
    Marked (memberTokens false ms ++ rest) := by
  cases ms with
  | nil => exact h
  | cons m ms => exact trivial

/-- So the items of an array do not touch. -/
theorem separated_itemTokens {items : List Doc} (ih : ∀ d ∈ items, d.Separates) (first : Bool)
    {rest : List Token} (hmark : Marked rest) (h : Separated rest) :
    Separated (itemTokens first items ++ rest) := by
  induction items generalizing first with
  | nil => exact h
  | cons d ds ih' =>
    have hds := ih' (fun e he => ih e (List.mem_cons_of_mem d he)) false
    have hd := ih d List.mem_cons_self _ (marked_itemTokens ds hmark) hds
    cases first <;> simpa [itemTokens, Separated] using hd

/-- Nor do the members of an object. -/
theorem separated_memberTokens {members : List (Bytes × Doc)}
    (ih : ∀ m ∈ members, m.2.Separates) (first : Bool) {rest : List Token} (hmark : Marked rest)
    (h : Separated rest) : Separated (memberTokens first members ++ rest) := by
  induction members generalizing first with
  | nil => exact h
  | cons m ms ih' =>
    obtain ⟨k, d⟩ := m
    have hms := ih' (fun e he => ih e (List.mem_cons_of_mem (k, d) he)) false
    have hd := ih (k, d) List.mem_cons_self _ (marked_memberTokens ms hmark) hms
    cases first <;> simpa [memberTokens, Separated] using hd

/-- No two words of a document touch. The induction is over the document, and a
list of items needs the fact for each of them. -/
theorem separates (d : Doc) : d.Separates := by
  induction d using Doc.induction with
  | word t => exact fun rest hmark h => ⟨hmark, h⟩
  | string s => exact fun rest _ h => h
  | array items ih =>
    intro rest _ h
    have hitems : Separated (itemTokens true items ++ .mark .closeArray :: rest) :=
      separated_itemTokens ih true trivial h
    simpa [tokens, Separated] using hitems
  | object members ih =>
    intro rest _ h
    have hmembers : Separated (memberTokens true members ++ .mark .closeObject :: rest) :=
      separated_memberTokens ih true trivial h
    simpa [tokens, Separated] using hmembers

/-- With enough fuel the reader takes the document off its tokens. -/
def ReadBack (d : Doc) : Prop :=
  ∀ fuel rest, d.tokens.length ≤ fuel → read fuel (d.tokens ++ rest) = some (d, rest)

/-- Every document has a token, and it does not start with a closing bracket or
brace. -/
theorem tokens_pos (d : Doc) : 0 < d.tokens.length := by
  cases d <;> simp [tokens]

/-- No document starts with a closing bracket or brace. -/
theorem tokens_head (d : Doc) : ∃ t ts, d.tokens = t :: ts ∧ t ≠ .mark .closeArray := by
  cases d <;> rw [tokens] <;> exact ⟨_, _, rfl, by simp⟩

/-- **The items of an array**, by induction on the list. -/
theorem readItems_tokens {items : List Doc} (ih : ∀ d ∈ items, d.ReadBack) (hne : items ≠ [])
    {fuel : ℕ} (hfuel : (itemTokens true items).length < fuel) (rest : List Token) :
    readItems fuel (itemTokens true items ++ .mark .closeArray :: rest) = some (items, rest) := by
  induction items generalizing fuel with
  | nil => exact absurd rfl hne
  | cons d ds ih' =>
    obtain ⟨fuel, rfl⟩ : ∃ k, fuel = k + 1 := ⟨fuel - 1, by omega⟩
    have hd := ih d List.mem_cons_self fuel
    cases ds with
    | nil =>
      simp only [itemTokens, if_true, List.nil_append, List.append_nil] at hfuel ⊢
      rw [readItems, hd _ (by omega)]
    | cons e es =>
      -- the comma goes to the next item
      have hsplit : itemTokens true (d :: e :: es) ++ .mark .closeArray :: rest
          = d.tokens ++ .mark .comma ::
            (itemTokens true (e :: es) ++ .mark .closeArray :: rest) := by simp [itemTokens]
      have hlen : (itemTokens true (d :: e :: es)).length
          = d.tokens.length + 1 + (itemTokens true (e :: es)).length := by
        simp [itemTokens]
        omega
      have hpos := d.tokens_pos
      have hfit : (itemTokens true (e :: es)).length < fuel := by omega
      have hes := ih' (fun c hc => ih c (List.mem_cons_of_mem d hc)) (List.cons_ne_nil e es) hfit
      rw [hsplit, readItems, hd _ (by omega)]
      simp only [hes, Option.map_some]

/-- **The members of an object**, in the same way. -/
theorem readMembers_tokens {members : List (Bytes × Doc)} (ih : ∀ m ∈ members, m.2.ReadBack)
    (hne : members ≠ []) {fuel : ℕ} (hfuel : (memberTokens true members).length < fuel)
    (rest : List Token) :
    readMembers fuel (memberTokens true members ++ .mark .closeObject :: rest)
      = some (members, rest) := by
  induction members generalizing fuel with
  | nil => exact absurd rfl hne
  | cons m ms ih' =>
    obtain ⟨k, d⟩ := m
    obtain ⟨fuel, rfl⟩ : ∃ k, fuel = k + 1 := ⟨fuel - 1, by omega⟩
    have hd : d.ReadBack := ih (k, d) List.mem_cons_self
    cases ms with
    | nil =>
      -- the closing brace comes right after the value
      have hsplit : memberTokens true [(k, d)] ++ .mark .closeObject :: rest
          = .string k :: .mark .colon :: (d.tokens ++ .mark .closeObject :: rest) := by
        simp [memberTokens]
      have hlen : (memberTokens true [(k, d)]).length = d.tokens.length + 2 := by
        simp [memberTokens]
      rw [hsplit, readMembers]
      simp only [hd fuel (.mark .closeObject :: rest) (by omega)]
    | cons n ns =>
      obtain ⟨l, e⟩ := n
      -- after a comma the next member is the first of the rest
      have hsplit : memberTokens true ((k, d) :: (l, e) :: ns) ++ .mark .closeObject :: rest
          = .string k :: .mark .colon :: (d.tokens ++ .mark .comma ::
            (memberTokens true ((l, e) :: ns) ++ .mark .closeObject :: rest)) := by
        simp [memberTokens]
      have hlen : (memberTokens true ((k, d) :: (l, e) :: ns)).length
          = d.tokens.length + 3 + (memberTokens true ((l, e) :: ns)).length := by
        simp [memberTokens]
        omega
      have hfit : (memberTokens true ((l, e) :: ns)).length < fuel := by omega
      have hns := ih' (fun c hc => ih c (List.mem_cons_of_mem (k, d) hc))
        (List.cons_ne_nil (l, e) ns) hfit
      rw [hsplit, readMembers]
      simp only [hd fuel _ (show d.tokens.length ≤ fuel by omega), hns, Option.map_some]

/-- **The reader puts the tokens of a document together again.** -/
theorem read_tokens (d : Doc) : d.ReadBack := by
  induction d using Doc.induction with
  | word t =>
    intro fuel rest hfuel
    obtain ⟨fuel, rfl⟩ : ∃ k, fuel = k + 1 := ⟨fuel - 1, by simp [tokens] at hfuel; omega⟩
    rfl
  | string s =>
    intro fuel rest hfuel
    obtain ⟨fuel, rfl⟩ : ∃ k, fuel = k + 1 := ⟨fuel - 1, by simp [tokens] at hfuel; omega⟩
    rfl
  | array items ih =>
    intro fuel rest hfuel
    simp only [tokens, List.length_cons, List.length_append, List.length_nil] at hfuel
    obtain ⟨fuel, rfl⟩ : ∃ k, fuel = k + 1 := ⟨fuel - 1, by omega⟩
    cases items with
    | nil => rfl
    | cons e es =>
      have hfit : (itemTokens true (e :: es)).length < fuel := by omega
      have hitems := readItems_tokens ih (List.cons_ne_nil e es) hfit rest
      have hsplit : (Doc.array (e :: es)).tokens ++ rest
          = .mark .openArray :: (itemTokens true (e :: es) ++ .mark .closeArray :: rest) := by
        simp [tokens]
      -- no item starts with a closing bracket
      obtain ⟨t, ts, hhead, hclose⟩ := e.tokens_head
      have hcons : itemTokens true (e :: es) ++ .mark .closeArray :: rest
          = t :: (ts ++ (itemTokens false es ++ .mark .closeArray :: rest)) := by
        simp [itemTokens, hhead]
      rw [hsplit, hcons]
      rw [hcons] at hitems
      rw [read, hitems]
      · rfl
      · rintro us heq
        exact hclose (List.cons.inj heq).1
  | object members ih =>
    intro fuel rest hfuel
    simp only [tokens, List.length_cons, List.length_append, List.length_nil] at hfuel
    obtain ⟨fuel, rfl⟩ : ∃ k, fuel = k + 1 := ⟨fuel - 1, by omega⟩
    cases members with
    | nil => rfl
    | cons m ms =>
      have hfit : (memberTokens true (m :: ms)).length < fuel := by omega
      have hmembers := readMembers_tokens ih (List.cons_ne_nil m ms) hfit rest
      have hsplit : (Doc.object (m :: ms)).tokens ++ rest
          = .mark .openObject :: (memberTokens true (m :: ms) ++ .mark .closeObject :: rest) := by
        simp [tokens]
      -- a member starts with its key
      obtain ⟨t, ht⟩ : ∃ ts, memberTokens true (m :: ms) ++ .mark .closeObject :: rest
          = .string m.1 :: ts := ⟨_, by simp [memberTokens]; rfl⟩
      rw [hsplit, ht]
      rw [ht] at hmembers
      rw [read, hmembers]
      · rfl
      · rintro us heq
        exact Token.noConfusion (List.cons.inj heq).1

/-- The text of a document is scanned as that document. -/
theorem scan_text (p : Printer) (d : Doc) : scan (d.text p) = some d := by
  have hseparated : Separated d.tokens := by
    have h := d.separates [] trivial trivial
    rwa [List.append_nil] at h
  -- the fuel is the number of the tokens, and no token is left
  have hread := d.read_tokens d.tokens.length [] le_rfl
  rw [List.append_nil] at hread
  unfold scan text
  rw [lex_textOf p hseparated le_rfl]
  simp only [hread]

/-- **The text of a document is read as that document**, when it is made of
scalars. The printer does not matter: it decides how strings are escaped, and
the reader knows all escapes. -/
theorem parse_text (p : Printer) {d : Doc} (hd : d.strict = true) : parse (d.text p) = some d :=
  parse_of_scan (scan_text p d) hd

end Doc

end Json
