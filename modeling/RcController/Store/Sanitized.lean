import RcController.Store.Names
import RcController.Model.Sketch

/-!
# Sanitizing again

A name is sanitized by the handler that receives it, by the function of the store the handler
calls, and, when it is the boot model, once more when it is read back. `sanitizePresetName`
is a projection onto the names it can return, so only the first of these passes changes
anything: whatever takes a name does the same for the name and for its sanitized form
(`SamePreset`).

Reading the boot model back turns the old name of the car into the new one. Both are built in
and mean the same configuration, so the device boots with the preset that was named.
-/

namespace RcController

open DeviceProg

/-! ### The store -/

/-- Two names refer to one preset: every function of the store that takes a name
does the same for both. -/
structure SamePreset (x y : Str) : Prop where
  save : ∀ cfg, saveUserPresetBlob x cfg = saveUserPresetBlob y cfg
  load : loadUserPreset x = loadUserPreset y
  delete : deleteUserPreset x = deleteUserPreset y
  taken : presetNameExists x = presetNameExists y
  saveBoot : saveBootModelName x = saveBootModelName y

/-- Names that agree once sanitized do. Each of the functions sanitizes the name
before it does anything else with it. -/
theorem samePreset_of_sanitize {x y : Str} (h : sanitizePresetName x = sanitizePresetName y) :
    SamePreset x y where
  save cfg := by
    unfold saveUserPresetBlob
    rw [h]
  load := by
    unfold loadUserPreset
    rw [h]
  delete := by
    unfold deleteUserPreset
    rw [h]
  taken := by
    unfold presetNameExists
    rw [h]
  saveBoot := by
    unfold saveBootModelName
    rw [h]

/-! ### The boot model -/

/-- The name under which a boot model is read back. -/
def bootAlias (name : Str) : Str := if name = kPresetRcCarLegacy then kPresetRcCar else name

/-- Both names of the car mean the built-in car. -/
theorem loadAny_bootAlias (name : Str) : loadAnyPreset (bootAlias name) = loadAnyPreset name := by
  unfold bootAlias
  split
  · next hlegacy =>
    subst hlegacy
    rfl
  · rfl

/-- A boot model is read back as it was saved, but for the old name of the car.
It was sanitized when it was saved, and so the pass on the way back leaves it
alone. -/
theorem loadBoot_saveBoot (raw : Str) (n : NvsStore) :
    (loadBootModelName.eval nvsDevice ((saveBootModelName raw).eval nvsDevice n).2).1
      = bootAlias (sanitizePresetName raw) := by
  have hname := sanitizedName_sanitize raw
  have hsaved : ((saveBootModelName raw).eval nvsDevice n).2
      = ({ n with created := true } : NvsStore).set .bootModel (.str (sanitizePresetName raw)) := by
    change NvsStore.set .bootModel (.str ((sanitizePresetName raw).takeWhile (· ≠ 0))) _ = _
    rw [takeWhile_ne_zero hname.ne_zero]
    rfl
  have hstr : (({ n with created := true } : NvsStore).set .bootModel
      (.str (sanitizePresetName raw))).getStr .bootModel = some (sanitizePresetName raw) := by
    unfold NvsStore.getStr
    rw [NvsStore.get_set_self]
  -- the name and its terminator fit the buffer
  have hfits : ¬ 64 < (sanitizePresetName raw).length + 1 := by
    have := hname.short
    omega
  rw [hsaved]
  unfold loadBootModelName
  simp only [Prog.bind_eq, eval_openReadonly, NvsStore.created_set, Bool.not_true,
    Bool.false_eq_true, if_false, eval_getStr, hstr, if_neg hfits, sanitize_of_sanitized hname]
  rfl

/-! ### The handlers -/

/-- The requests with the name of a model among their arguments. -/
def Endpoint.TakesModelName : Endpoint → Prop
  | .presetApply | .modelSetDefault | .modelCreate | .modelDelete => True
  | _ => False

/-- The request with its name sanitized. -/
def Request.sanitizeName (r : Request) : Request where
  endpoint := r.endpoint
  args := Function.update r.args .name (some (sanitizePresetName (r.args.arg .name)))

/-- A request whose name was sanitized before has the same name for its
handler. -/
theorem arg_sanitizeName (r : Request) :
    sanitizePresetName (r.sanitizeName.args.arg .name) = sanitizePresetName (r.args.arg .name) := by
  have harg : r.sanitizeName.args.arg .name = sanitizePresetName (r.args.arg .name) := by
    unfold Args.arg Request.sanitizeName
    dsimp only
    rw [Function.update_self]
    rfl
  rw [harg, sanitize_sanitize]

/-- A handler does not see whether the name of a model was sanitized before. -/
theorem handleRequest_sanitizeName {r : Request} (h : r.endpoint.TakesModelName) (b : Board)
    (millis : UInt32) (s : Sketch) :
    handleRequest b millis r.sanitizeName s = handleRequest b millis r s := by
  have hname := arg_sanitizeName r
  unfold handleRequest
  have hend : r.sanitizeName.endpoint = r.endpoint := rfl
  rw [hend]
  cases hendpoint : r.endpoint with
  | presetApply =>
    dsimp only [handleApiPresetApply]
    rw [hname]
  | modelSetDefault =>
    dsimp only [handleApiModelSetDefault]
    rw [hname]
  | modelCreate =>
    -- the other parameters are the same
    have hconfig : newModelConfig r.sanitizeName.args s = newModelConfig r.args s := rfl
    dsimp only [handleApiModelCreate]
    rw [hname, hconfig]
  | modelDelete =>
    dsimp only [handleApiModelDelete]
    rw [hname]
  | _ =>
    have hnot : ¬ r.endpoint.TakesModelName := by
      rw [hendpoint]
      exact id
    exact absurd h hnot

/-- **`sanitizePresetName` is a projection onto the storable names**: its
results are the strings of this form, and it leaves every one of them alone. So
whatever takes a name refers to the same preset when the name was sanitized
before, and the boot model is the preset it was saved as. -/
theorem sanitize_projection :
    (∀ raw, SanitizedName (sanitizePresetName raw)) ∧
    (∀ raw, sanitizePresetName (sanitizePresetName raw) = sanitizePresetName raw) ∧
    (∀ name, SanitizedName name → sanitizePresetName name = name) ∧
    (∀ raw, SamePreset (sanitizePresetName raw) raw) ∧
    (∀ raw n, loadAnyPreset
        (loadBootModelName.eval nvsDevice ((saveBootModelName raw).eval nvsDevice n).2).1
      = loadAnyPreset (sanitizePresetName raw)) ∧
    ∀ r : Request, r.endpoint.TakesModelName → ∀ b millis s,
      handleRequest b millis r.sanitizeName s = handleRequest b millis r s := by
  refine ⟨sanitizedName_sanitize, sanitize_sanitize, fun _ => sanitize_of_sanitized,
    fun raw => samePreset_of_sanitize (sanitize_sanitize raw), fun raw n => ?_,
    fun r h => handleRequest_sanitizeName h⟩
  rw [loadBoot_saveBoot]
  exact loadAny_bootAlias _

end RcController
