import PageAssets.Proofs.Config.Loading

/-! Settings that have been checked. Looking for a configuration writes nothing, and the settings that come
of it have a directory and name only pages. -/

namespace PageAssets.Config
open Files Page

section Sources
variable {m : Type → Type} [Monad m] [FileAccess m]

/-- Settings as they are found: in the file that is named, or where one is looked for. -/
def source (environment : Environment) : Option FilePath → ExceptT Failure m Settings
  | some path => loadNamed path
  | none => search environment searchPaths

/-- Settings that have been found are overridden and checked. -/
def settle (environment : Environment) (settings : Settings) : ExceptT Failure m Settings := do
  let settings ← checked (settings.applyEnvironment environment)
  checked settings.validate
  return settings

theorem load_eq (environment : Environment) (explicit : Option FilePath) :
    load (m := m) environment explicit =
      checked ((Environment.configSetting.lookup environment).mapError ConfigFault.setting) >>= fun named =>
        source environment (explicit.or named) >>= settle environment := by
  rw [load]
  refine congrArg (_ >>= ·) (funext fun named => ?_)
  cases explicit.or named <;> rfl

end Sources

section Reading
variable {faults : Faults} {environment : Environment}

theorem still_checked {α : Type} (result : Except ConfigFault α) : Still faults (checked result) :=
  fun _ => rfl

theorem still_loadFile (path : FilePath) : Still faults (loadFile path) := by
  refine Still.bind (fun files => ?_) fun text => ?_
  · exact congrArg Prod.snd (attempt_failingWith rfl)
  · cases readSettings? text with
    | none => exact fun _ => rfl
    | some settings => exact .pure settings

theorem still_loadNamed (path : FilePath) : Still faults (loadNamed path) := by
  intro files
  rw [attempt_loadNamed]

theorem still_search (candidates : List String) : Still faults (search environment candidates) := by
  induction candidates with
  | nil => exact .pure _
  | cons candidate rest ih =>
    refine Still.bind (fun _ => rfl) fun leads => ?_
    cases leads with
    | false => exact ih
    | true => exact still_loadFile _

theorem still_source (path : Option FilePath) : Still faults (source environment path) := by
  cases path with
  | none => exact still_search searchPaths
  | some path => exact still_loadNamed path

theorem still_settle (settings : Settings) : Still faults (settle environment settings) :=
  (still_checked _).bind fun settings => (still_checked _).bind fun _ => .pure settings

/-- Wherever settings are found, and whatever is wrong with them, no file is changed. -/
theorem still_load (explicit : Option FilePath) : Still faults (load environment explicit) := by
  rw [load_eq]
  exact (still_checked _).bind fun named => (still_source _).bind still_settle

end Reading

section Checks
variable {settings : Settings}

theorem checkIdentities_eq_ok_iff {names : List String} :
    Settings.checkIdentities names = .ok () ↔ ∀ name ∈ names, isIdentity name = true := by
  induction names with
  | nil => simp [Settings.checkIdentities]
  | cons name rest ih =>
    rw [Settings.checkIdentities, List.forall_mem_cons]
    by_cases valid : isIdentity name = true
    · rw [if_pos valid, ih, eq_true valid, true_and]
    · rw [if_neg valid]
      exact ⟨nofun, fun both => absurd both.1 valid⟩

structure Valid (settings : Settings) : Prop where
  webDir : settings.webDir.isEmpty = false
  targets : ∀ target ∈ settings.unify.targets, isIdentity target = true
  pages : ∀ page ∈ settings.unify.pageStyles.names, isIdentity page = true

theorem validate_eq_ok_iff : settings.validate = .ok () ↔ Valid settings := by
  rw [Settings.validate]
  cases empty : settings.webDir.isEmpty with
  | true =>
    refine ⟨nofun, fun valid => ?_⟩
    rw [valid.webDir] at empty
    cases empty
  | false =>
    rw [if_neg Bool.false_ne_true, checkIdentities_eq_ok_iff, List.forall_mem_append]
    exact ⟨fun names => ⟨empty, names.1, names.2⟩, fun valid => ⟨valid.targets, valid.pages⟩⟩

theorem exists_of_attempt_checked {α : Type} {faults : Faults} {files after : FileSystem}
    {result : Except ConfigFault α} {value : α}
    (passed : faults.attempt (checked result) files = (.ok value, after)) : result = .ok value := by
  rw [attempt_checked] at passed
  cases result with
  | error fault => cases passed
  | ok found =>
    cases passed
    rfl

/-- Settings are not handed out unchecked. -/
theorem valid_of_load {faults : Faults} {files after : FileSystem} {environment : Environment}
    {explicit : Option FilePath}
    (loaded : faults.attempt (load environment explicit) files = (.ok settings, after)) : Valid settings := by
  rw [load_eq] at loaded
  obtain ⟨named, _, -, found⟩ := Faults.exists_of_attempt_bind loaded
  obtain ⟨read, _, -, settled⟩ := Faults.exists_of_attempt_bind found
  obtain ⟨applied, _, -, rest⟩ := Faults.exists_of_attempt_bind settled
  obtain ⟨_, _, passed, done⟩ := Faults.exists_of_attempt_bind rest
  cases done
  exact validate_eq_ok_iff.mp (exists_of_attempt_checked passed)

end Checks
end PageAssets.Config
