import RcController.Model.Sketch

/-!
# Functions that only read

Looking a preset up, choosing a name for a new one and everything `setup()` does before
the apply open the namespace for reading and get keys. None of it changes what is stored,
whatever fails (`reads_run`).
-/

namespace RcController

open DeviceProg

/-- The calls that only read. Opening for writing is not one: it brings the
namespace into being. -/
def NvsOp.Reads : NvsOp → Prop
  | .openReadonly | .getBlob _ | .getStr _ => True
  | _ => False

/-- None of them changes what is stored. -/
theorem exec_read {o : NvsOp} (h : o.Reads) (n : NvsStore) : (nvsDevice.exec o n).2 = n := by
  cases o with
  | openReadonly => rfl
  | getBlob key => rfl
  | getStr key => rfl
  | _ => exact h.elim

/-- A program that makes no other calls. -/
abbrev Reads {α : Type} (p : NvsM α) : Prop := p.Makes NvsOp.Reads

section Reads

variable {α : Type} {p : NvsM α}

/-- **A program that only reads changes nothing**, whatever fails, and in
particular when nothing does. -/
theorem reads_run (h : Reads p) (plan : Prog.Plan nvsInterface) (n : NvsStore) :
    (p.run nvsDevice plan n).2 = n := h.run_snd (fun _ n ho => exec_read ho n) plan n

theorem reads_eval (h : Reads p) (n : NvsStore) : (p.eval nvsDevice n).2 = n :=
  h.eval_snd (fun _ n ho => exec_read ho n) n

end Reads

/-- The three calls themselves. -/
theorem reads_openReadonly : Reads nvsOpenReadonly := Prog.makes_perform trivial

theorem reads_getBlob (key : NvsKey) : Reads (nvsGetBlob key) := Prog.makes_perform trivial

theorem reads_getStr (key : NvsKey) : Reads (nvsGetStr key) := Prog.makes_perform trivial

/-! ### Presets -/

/-- Loading the directory only reads. -/
theorem reads_loadPresetDirectory : Reads loadPresetDirectory := by
  refine reads_openReadonly.bind fun ok => ?_
  cases ok with
  | false => exact Prog.makes_pure _
  | true =>
    refine (reads_getBlob _).bind fun v => ?_
    rcases v with _ | ⟨cfg⟩ | ⟨dir⟩ | ⟨size⟩ | ⟨str⟩
    case some.directory =>
      dsimp only
      split <;> exact Prog.makes_pure _
    all_goals exact Prog.makes_pure _

/-- A preset is read after the directory, and a built-in one is not read at all. -/
theorem reads_loadUserPreset (rawName : Str) : Reads (loadUserPreset rawName) := by
  refine reads_loadPresetDirectory.bind fun dir => ?_
  cases findPresetSlotByName dir (sanitizePresetName rawName) with
  | none => exact Prog.makes_pure _
  | some slot =>
    refine reads_openReadonly.bind fun ok => ?_
    cases ok with
    | false => exact Prog.makes_pure _
    | true =>
      refine (reads_getBlob _).bind fun v => ?_
      -- a value of another kind answers an error, and reads nothing more
      rcases v with _ | ⟨cfg⟩ | ⟨dir⟩ | ⟨size⟩ | ⟨str⟩
      case some.config =>
        dsimp only
        split
        · exact Prog.makes_pure _
        · split <;> exact Prog.makes_pure _
      all_goals exact Prog.makes_pure _

theorem reads_loadAnyPreset (name : Str) : Reads (loadAnyPreset name) := by
  unfold loadAnyPreset
  cases builtinPreset name with
  | some cfg => exact Prog.makes_pure _
  | none => exact reads_loadUserPreset name

/-- Whether a name is listed is a question to the directory. -/
theorem reads_presetNameExists (rawName : Str) : Reads (presetNameExists rawName) :=
  reads_loadPresetDirectory.bind fun _ => Prog.makes_pure _

/-- The search for a suffix asks the directory for every one it tries. -/
theorem reads_nextFreeSuffix (base : Str) (is : List ℕ) : Reads (nextFreeSuffix base is) := by
  induction is with
  | nil => exact Prog.makes_pure _
  | cons i is ih =>
    refine (reads_presetNameExists _).bind fun taken => ?_
    cases taken with
    | false => exact Prog.makes_pure _
    | true => exact ih

/-- So the suggested name is found by reading. -/
theorem reads_nextAvailableCustomModelName (baseName : Str) (millis : UInt32) :
    Reads (nextAvailableCustomModelName baseName millis) := by
  refine (reads_presetNameExists _).bind fun taken => ?_
  cases taken with
  | false => exact Prog.makes_pure _
  | true =>
    refine (reads_nextFreeSuffix _ _).bind fun found => ?_
    cases found <;> exact Prog.makes_pure _

/-- The configuration of a new model is built in, loaded or exported. -/
theorem reads_newModelConfig (args : Args) (s : Sketch) : Reads (newModelConfig args s) := by
  unfold newModelConfig
  dsimp only
  generalize (if args.hasArg .base then args.arg .base else []).trim = rawBase
  split
  · exact Prog.makes_pure _
  · split
    · exact reads_loadAnyPreset _
    · exact Prog.makes_pure _

/-! ### Startup -/

/-- The name of the boot model is read from its key. -/
theorem reads_loadBootModelName : Reads loadBootModelName := by
  refine reads_openReadonly.bind fun ok => ?_
  cases ok with
  | false => exact Prog.makes_pure _
  | true =>
    refine (reads_getStr _).bind fun stored => ?_
    -- no boot name is stored, or it is read and looked up
    cases stored with
    | none => exact Prog.makes_pure _
    | some str =>
      dsimp only
      split
      · exact Prog.makes_pure _
      · refine (reads_getStr _).bind fun stored => ?_
        cases stored <;> exact Prog.makes_pure _

/-- The strings of the access point are read from their keys. -/
theorem reads_loadString (key : NvsKey) (limit : ℕ) : Reads (loadString key limit) := by
  refine reads_openReadonly.bind fun ok => ?_
  cases ok with
  | false => exact Prog.makes_pure _
  | true =>
    refine (reads_getStr _).bind fun stored => ?_
    cases stored with
    | none => exact Prog.makes_pure _
    | some str =>
      dsimp only
      split
      · exact Prog.makes_pure _
      · exact reads_getStr _

theorem reads_loadApSsid : Reads loadApSsid := by
  refine (reads_loadString _ _).bind fun stored => ?_
  cases stored <;> exact Prog.makes_pure _

theorem reads_loadApPassword : Reads loadApPassword := by
  refine (reads_loadString _ _).bind fun stored => ?_
  cases stored <;> exact Prog.makes_pure _

end RcController
