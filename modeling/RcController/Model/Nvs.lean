import RcController.Lib.DeviceProg
import RcController.Model.Config

/-!
# The NVS namespace

The flash storage behind the preset store, as a device in the sense of `DeviceProg`.
All keys live in the namespace `rcctl`. It does not exist until something opens it for
writing, and opening a namespace that does not exist for reading fails.

The size of a blob decides what it can be read as: `sizeof(PersistedConfig)` and
`sizeof(PresetDirectory)` differ, and a reader rejects every other length. So a stored
value is a configuration, a directory, a string, or a blob of some other size.

`nvs_close` has no effect on what is stored and cannot fail. It is not modelled, and
handles are left out with it: every function opens the namespace, uses it and closes it.
A write is visible to later reads once it has returned, so that `nvs_commit` changes
nothing.
-/

namespace RcController

open DeviceProg

/-- The keys of the namespace. The slot of a preset is part of its key, as it is
in the text that the firmware puts together. -/
inductive NvsKey where
  | cfg
  | presetDir
  | pr (slot : ℕ)
  | bootModel
  | apSsid
  | apPass
  deriving DecidableEq

/-- What can be stored under a key. A blob of a size that no record has is never
read as anything, so its bytes do not matter. -/
inductive NvsValue where
  | config (cfg : PersistedConfig)
  | directory (dir : PresetDirectory)
  | blob (size : ℕ)
  | str (s : Str)
  deriving DecidableEq

/-- The contents of the flash: whether the namespace exists, and what is stored
under each key. -/
structure NvsStore where
  created : Bool := false
  get : NvsKey → Option NvsValue := fun _ => none

/-- The calls the firmware makes. -/
inductive NvsOp where
  | openReadonly
  | openReadwrite
  | getBlob (key : NvsKey)
  | setBlob (key : NvsKey) (value : NvsValue)
  | getStr (key : NvsKey)
  | setStr (key : NvsKey) (s : Str)
  | eraseKey (key : NvsKey)
  | commit

/-- Whether the call answers `ESP_OK`, and for a read what it read. -/
abbrev NvsOp.Reply : NvsOp → Type
  | .getBlob _ => Option NvsValue
  | .getStr _ => Option Str
  | _ => Bool

/-- The interface of the NVS library. -/
abbrev nvsInterface : Interface := ⟨NvsOp, NvsOp.Reply⟩

/-- Programs over NVS. -/
abbrev NvsM := Prog nvsInterface

namespace NvsStore

/-- The store after one key is written. -/
def set (key : NvsKey) (value : NvsValue) (n : NvsStore) : NvsStore :=
  { n with get := Function.update n.get key (some value) }

def erase (key : NvsKey) (n : NvsStore) : NvsStore :=
  { n with get := Function.update n.get key none }

/-- What was written is read, and the other keys are as they were. -/
@[simp] theorem get_set_self (n : NvsStore) (key : NvsKey) (value : NvsValue) :
    (n.set key value).get key = some value := Function.update_self ..

theorem get_set_of_ne (n : NvsStore) {key key' : NvsKey} (h : key' ≠ key) (value : NvsValue) :
    (n.set key value).get key' = n.get key' := Function.update_of_ne h _ _

/-- An erased key has no value, and again the others are as they were. -/
@[simp] theorem get_erase_self (n : NvsStore) (key : NvsKey) : (n.erase key).get key = none :=
  Function.update_self ..

theorem get_erase_of_ne (n : NvsStore) {key key' : NvsKey} (h : key' ≠ key) :
    (n.erase key).get key' = n.get key' := Function.update_of_ne h _ _

/-- Neither a write nor an erasure has to do with whether the namespace
exists. -/
@[simp] theorem created_set (n : NvsStore) (key : NvsKey) (value : NvsValue) :
    (n.set key value).created = n.created := rfl

@[simp] theorem created_erase (n : NvsStore) (key : NvsKey) :
    (n.erase key).created = n.created := rfl

def getBlob (n : NvsStore) (key : NvsKey) : Option NvsValue :=
  match n.get key with
  | some (.str _) => none
  | v => v

def getStr (n : NvsStore) (key : NvsKey) : Option Str :=
  match n.get key with
  | some (.str s) => some s
  | _ => none

end NvsStore

/-- The namespace as a device. Opening it for writing brings it into being; a
read that fails answers nothing, and a write that fails answers false. -/
def nvsDevice : Device nvsInterface NvsStore where
  exec
    | .openReadonly, n => (n.created, n)
    | .openReadwrite, n => (true, { n with created := true })
    | .getBlob key, n => (n.getBlob key, n)
    | .setBlob key v, n => (true, n.set key v)
    | .getStr key, n => (n.getStr key, n)
    | .setStr key s, n => (true, n.set key (.str s))
    | .eraseKey key, n => (true, n.erase key)
    | .commit, n => (true, n)
  fail
    | .openReadonly => false
    | .openReadwrite => false
    | .getBlob _ => none
    | .setBlob _ _ => false
    | .getStr _ => none
    | .setStr _ _ => false
    | .eraseKey _ => false
    | .commit => false

/-! ### The calls as programs -/

def nvsOpenReadonly : NvsM Bool := Prog.perform (I := nvsInterface) .openReadonly
def nvsOpenReadwrite : NvsM Bool := Prog.perform (I := nvsInterface) .openReadwrite
def nvsGetBlob (key : NvsKey) : NvsM (Option NvsValue) :=
  Prog.perform (I := nvsInterface) (.getBlob key)
def nvsSetBlob (key : NvsKey) (v : NvsValue) : NvsM Bool :=
  Prog.perform (I := nvsInterface) (.setBlob key v)
def nvsGetStr (key : NvsKey) : NvsM (Option Str) :=
  Prog.perform (I := nvsInterface) (.getStr key)
/-- `nvs_set_str(key, s.c_str())`: what follows a NUL is not stored. -/
def nvsSetStr (key : NvsKey) (s : Str) : NvsM Bool :=
  Prog.perform (I := nvsInterface) (.setStr key (s.takeWhile (· ≠ 0)))
def nvsEraseKey (key : NvsKey) : NvsM Bool := Prog.perform (I := nvsInterface) (.eraseKey key)
def nvsCommit : NvsM Bool := Prog.perform (I := nvsInterface) .commit

/-! ### One call at a time

Without faults a call answers at once and the program goes on with the reply. -/

section Calls

variable {α : Type} (n : NvsStore)

@[simp] theorem eval_openReadonly (f : Bool → NvsM α) :
    (nvsOpenReadonly.bind f).eval nvsDevice n = (f n.created).eval nvsDevice n := rfl

@[simp] theorem eval_openReadwrite (f : Bool → NvsM α) :
    (nvsOpenReadwrite.bind f).eval nvsDevice n
      = (f true).eval nvsDevice { n with created := true } := rfl

@[simp] theorem eval_getBlob (key : NvsKey) (f : Option NvsValue → NvsM α) :
    ((nvsGetBlob key).bind f).eval nvsDevice n = (f (n.getBlob key)).eval nvsDevice n := rfl

@[simp] theorem eval_setBlob (key : NvsKey) (v : NvsValue) (f : Bool → NvsM α) :
    ((nvsSetBlob key v).bind f).eval nvsDevice n = (f true).eval nvsDevice (n.set key v) := rfl

@[simp] theorem eval_getStr (key : NvsKey) (f : Option Str → NvsM α) :
    ((nvsGetStr key).bind f).eval nvsDevice n = (f (n.getStr key)).eval nvsDevice n := rfl

@[simp] theorem eval_setStr (key : NvsKey) (s : Str) (f : Bool → NvsM α) :
    ((nvsSetStr key s).bind f).eval nvsDevice n
      = (f true).eval nvsDevice (n.set key (.str (s.takeWhile (· ≠ 0)))) := rfl

@[simp] theorem eval_eraseKey (key : NvsKey) (f : Bool → NvsM α) :
    ((nvsEraseKey key).bind f).eval nvsDevice n = (f true).eval nvsDevice (n.erase key) := rfl

@[simp] theorem eval_commit (f : Bool → NvsM α) :
    (nvsCommit.bind f).eval nvsDevice n = (f true).eval nvsDevice n := rfl

/-! The power may go after any of them. -/

@[simp] theorem cut_openReadonly (f : Bool → NvsM α) (k : ℕ) :
    (nvsOpenReadonly.bind f).cut nvsDevice (k + 1) n = (f n.created).cut nvsDevice k n := rfl

@[simp] theorem cut_openReadwrite (f : Bool → NvsM α) (k : ℕ) :
    (nvsOpenReadwrite.bind f).cut nvsDevice (k + 1) n
      = (f true).cut nvsDevice k { n with created := true } := rfl

@[simp] theorem cut_getBlob (key : NvsKey) (f : Option NvsValue → NvsM α) (k : ℕ) :
    ((nvsGetBlob key).bind f).cut nvsDevice (k + 1) n = (f (n.getBlob key)).cut nvsDevice k n := rfl

@[simp] theorem calls_getBlob (key : NvsKey) (f : Option NvsValue → NvsM α) :
    ((nvsGetBlob key).bind f).calls nvsDevice n = (f (n.getBlob key)).calls nvsDevice n + 1 := rfl

@[simp] theorem cut_setBlob (key : NvsKey) (v : NvsValue) (f : Bool → NvsM α) (k : ℕ) :
    ((nvsSetBlob key v).bind f).cut nvsDevice (k + 1) n
      = (f true).cut nvsDevice k (n.set key v) := rfl

@[simp] theorem calls_setBlob (key : NvsKey) (v : NvsValue) (f : Bool → NvsM α) :
    ((nvsSetBlob key v).bind f).calls nvsDevice n
      = (f true).calls nvsDevice (n.set key v) + 1 := rfl

@[simp] theorem cut_eraseKey (key : NvsKey) (f : Bool → NvsM α) (k : ℕ) :
    ((nvsEraseKey key).bind f).cut nvsDevice (k + 1) n
      = (f true).cut nvsDevice k (n.erase key) := rfl

@[simp] theorem cut_commit (f : Bool → NvsM α) (k : ℕ) :
    (nvsCommit.bind f).cut nvsDevice (k + 1) n = (f true).cut nvsDevice k n := rfl

end Calls

end RcController
