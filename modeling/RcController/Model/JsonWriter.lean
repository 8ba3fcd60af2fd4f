import RcController.Model.Str

/-!
# The JSON writer

`json_utils.cpp`: the writer every payload of the API is built with. It keeps the text
so far, a stack with a frame for each open object and array, and whether a key still
waits for its value.

`stack_` has room for 16 frames. Its entries from `depth_` on are never read, so the
stack is a list here, the top first, and `depth_` is its length. Opening a container
with all 16 frames taken writes past the array: those calls are `none`.
-/

namespace RcController

/-- `Frame::type`, `'o'` or `'a'`. -/
inductive FrameType where
  | object
  | array
  deriving DecidableEq

/-- `JsonWriter::Frame`. -/
structure Frame where
  type : FrameType
  first : Bool
  deriving DecidableEq

structure JsonWriter where
  out : Str := []
  stack : List Frame := []
  expectingValue : Bool := false

namespace JsonWriter

/-- The size of `stack_`. -/
def stackSize : ℕ := 16

def hex : Str := lit "0123456789abcdef"

/-- One iteration of the loop of `escape`. -/
def escapeChar (c : UInt8) : Str :=
  if c = 92 then [92, 92]
  else if c = 34 then [92, 34]
  else if c = 10 then [92, 110]
  else if c = 13 then [92, 114]
  else if c = 9 then [92, 116]
  else if c < 0x20 then
    lit "\\u00" ++ [hex.getD ((c >>> 4) &&& 0x0F).toNat 0, hex.getD (c &&& 0x0F).toNat 0]
  else [c]

/-- `JsonWriter::escape`. -/
def escape (value : Str) : Str := value.flatMap escapeChar

def appendEscapedString (value : Str) (w : JsonWriter) : JsonWriter :=
  { w with out := w.out ++ [34] ++ escape value ++ [34] }

/-- `beforeValue`: the comma before an array item. -/
def beforeValue (w : JsonWriter) : JsonWriter :=
  if w.expectingValue then w
  else match w.stack with
    | [] => w
    | f :: fs =>
      match f.type with
      | .array =>
        { w with
          out := if !f.first then w.out ++ [44] else w.out
          stack := { f with first := false } :: fs }
      | .object => w

/-- `beginObject` and `beginArray`. -/
def openFrame (bracket : UInt8) (type : FrameType) (w : JsonWriter) : Option JsonWriter :=
  let w := w.beforeValue
  if w.stack.length < stackSize then
    some { out := w.out ++ [bracket], stack := ⟨type, true⟩ :: w.stack, expectingValue := false }
  else none

/-- `endObject` and `endArray`. -/
def closeFrame (bracket : UInt8) (w : JsonWriter) : JsonWriter :=
  { out := w.out ++ [bracket], stack := w.stack.tail, expectingValue := false }

def beginObject (w : JsonWriter) : Option JsonWriter := w.openFrame 123 .object

def endObject (w : JsonWriter) : JsonWriter := w.closeFrame 125

def beginArray (w : JsonWriter) : Option JsonWriter := w.openFrame 91 .array

def endArray (w : JsonWriter) : JsonWriter := w.closeFrame 93

/-- `key`. It takes a C string, which ends at its first NUL. -/
def key (key : Str) (w : JsonWriter) : JsonWriter :=
  match w.stack with
  | [] => w
  | f :: fs =>
    match f.type with
    | .array => w
    | .object =>
      -- the comma of a member stands before its key
      let w := if !f.first then { w with out := w.out ++ [44] } else w
      let w := { w with stack := { f with first := false } :: fs }
      let w := w.appendEscapedString (key.takeWhile (· ≠ 0))
      { w with out := w.out ++ [58], expectingValue := true }

/-- `value(const String&)`. -/
def valueString (value : Str) (w : JsonWriter) : JsonWriter :=
  { w.beforeValue.appendEscapedString value with expectingValue := false }

/-- `value(int)`. -/
def valueInt (value : ℤ) (w : JsonWriter) : JsonWriter :=
  let w := w.beforeValue
  { w with out := w.out ++ Str.ofInt value, expectingValue := false }

/-- `value(bool)`. -/
def valueBool (value : Bool) (w : JsonWriter) : JsonWriter :=
  let w := w.beforeValue
  { w with out := w.out ++ (if value then lit "true" else lit "false"), expectingValue := false }

end JsonWriter

end RcController
