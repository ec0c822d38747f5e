import PageAssets.Config.Loading
import PageAssets.Proofs.Batch.Attempts

/-! What settings come to. A variable of the environment is read or it is at fault; a configuration file
says something or why not, and the files stay as they are. -/

namespace PageAssets.Environment

def Setting.fault? {α : Type} (setting : Setting α) (environment : Environment) : Option SettingFault :=
  match setting.lookup environment with
  | .error fault => some fault
  | .ok _ => none

section
variable {α : Type} {setting : Setting α} {environment : Environment}

theorem Setting.fault?_of_error {fault : SettingFault} (looked : setting.lookup environment = .error fault) :
    setting.fault? environment = some fault := by
  rw [fault?, looked]

theorem Setting.fault?_of_ok {value : Option α} (looked : setting.lookup environment = .ok value) :
    setting.fault? environment = none := by
  rw [fault?, looked]

theorem resolveAll_of_plain {text : List Char} (plain : '$' ∉ text) :
    environment.resolveAll (fragments text) = .ok text := by
  induction text with
  | nil =>
    rw [fragments]
    rfl
  | cons c rest ih =>
    rw [List.mem_cons, not_or] at plain
    rw [fragments, if_neg (Ne.symm plain.1), resolveAll, ih plain.2]
    rfl

/-- A text without references that does not start at home stands for itself. -/
theorem expand_of_plain {text : List Char} (plain : '$' ∉ text) (away : text.head? ≠ some '~') :
    environment.expand text = .ok text := by
  rw [expand, resolveAll_of_plain plain]
  simp only [bind, Except.bind, away, decide_false, Bool.and_false, Bool.false_eq_true, if_false]
  rw [expandTilde]
  · rfl
  · rintro _ rfl
    simp at away
  · rintro _ _ rfl
    simp at away

theorem readPath_of_plain {text : String} (visible : text.toList ≠ []) (bare : Text.trim text.toList = text.toList)
    (plain : '$' ∉ text.toList) (away : text.toList.head? ≠ some '~') :
    readPath environment text = .ok ⟨text⟩ := by
  rw [readPath, bare]
  split
  next empty => exact absurd empty visible
  next =>
    rw [expand_of_plain plain away]
    simp only [String.ofList_toList]

theorem Setting.lookup_of_readPath {setting : Setting Files.FilePath} {text : String} {path : Files.FilePath}
    (reads : setting.read = readPath) (found : environment.get? setting.name = some text)
    (read : readPath environment text = .ok path) : setting.lookup environment = .ok (some path) := by
  simp only [lookup, found, parse, reads, read]
  rfl

end
end PageAssets.Environment

namespace PageAssets.Config
open Files Environment Page

variable {faults : Faults} {files : FileSystem}

theorem attempt_checked {α : Type} (result : Except ConfigFault α) :
    faults.attempt (checked result) files = (result.mapError Failure.configuration, files) := rfl

def settingsAt (faults : Faults) (files : FileSystem) (path : FilePath) : Except ConfigFault Settings :=
  if files.leads path then
    match faults.read files path with
    | .error cause => .error (.unreadable path cause)
    | .ok text =>
      match readSettings? text with
      | some settings => .ok settings
      | none => .error (.malformed path)
  else .error (.fileMissing path)

theorem attempt_loadNamed (path : FilePath) :
    faults.attempt (loadNamed path) files = ((settingsAt faults files path).mapError Failure.configuration, files) := by
  have found : faults.attempt (ExceptT.lift (FileAccess.leads path)) files = (.ok (files.leads path), files) := rfl
  have read : faults.attempt (failingWith (fun cause => .configuration (.unreadable path cause))
      (FileAccess.readText path)) files =
        ((faults.read files path).mapError fun cause => .configuration (.unreadable path cause), files) :=
    attempt_failingWith rfl
  simp only [loadNamed, Faults.attempt_bind, found, settingsAt]
  cases files.leads path with
  | false => rfl
  | true =>
    simp only [if_true, loadFile, Faults.attempt_bind, read]
    cases faults.read files path with
    | error cause => rfl
    | ok text =>
      simp only [Except.mapError]
      cases readSettings? text <;> rfl

/-- The directory that settings from a file come to in an environment. -/
def Settings.webDirIn (settings : Settings) (environment : Environment) : FilePath :=
  match webDirSetting.lookup environment with
  | .ok (some webDir) => webDir
  | _ => settings.webDir

theorem Settings.applyEnvironment_eq (settings : Settings) (environment : Environment) :
    settings.applyEnvironment environment =
      match webDirSetting.fault? environment with
      | some fault => .error (.setting fault)
      | none => .ok { settings with webDir := settings.webDirIn environment } := by
  unfold applyEnvironment Setting.fault? webDirIn
  rcases webDirSetting.lookup environment with fault | _ | webDir <;> rfl

theorem Settings.webDirIn_of_ok {environment : Environment} {given : Option FilePath}
    (looked : webDirSetting.lookup environment = .ok given) (settings : Settings) :
    settings.webDirIn environment = given.getD settings.webDir := by
  rw [webDirIn, looked]
  cases given <;> rfl

end PageAssets.Config
