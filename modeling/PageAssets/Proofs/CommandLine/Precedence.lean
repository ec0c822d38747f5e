import PageAssets.CommandLine.Run
import PageAssets.Proofs.Batch.Isolation
import PageAssets.Proofs.Config.Loading

/-! Settings that the command line overrides. What the environment says of them has no weight, but it is
looked at: a variable that cannot be read stops the command, and so does a directory that is empty
before the one of the command line takes its place. -/

namespace PageAssets.CommandLine
open Files FileSystem Environment Config Batch Page

def Command.webDir? : Command → Option FilePath
  | .extract webDir | .unify webDir _ => webDir
  | .initConfig _ | .environmentDocs => none

/-- How the environment stops a command that leaves nothing to it: by a variable that cannot be read,
or by making the directory an empty one. -/
inductive Stopped (faults : Faults) (files : FileSystem) (path : FilePath) (environment : Environment) :
    ConfigFault → Prop where
  | config {fault : SettingFault} (config : configSetting.fault? environment = some fault) :
      Stopped faults files path environment (.setting fault)
  | webDir {fault : SettingFault} {settings : Settings} (config : configSetting.fault? environment = none)
      (loaded : settingsAt faults files path = .ok settings) (webDir : webDirSetting.fault? environment = some fault) :
      Stopped faults files path environment (.setting fault)
  | empty {settings : Settings} (config : configSetting.fault? environment = none)
      (loaded : settingsAt faults files path = .ok settings) (webDir : webDirSetting.fault? environment = none)
      (empty : (settings.webDirIn environment).isEmpty = true) :
      Stopped faults files path environment .emptyWebDir

section Overriding
variable {faults : Faults} {files : FileSystem} {path webDir : FilePath} {environment : Environment}
  {level : Option LogLevel}

/-- The environment shows in three places only: two variables are looked up, and the directory that is
replaced in the end may be empty. -/
theorem attempt_settingsFor (environment : Environment) (path webDir : FilePath) :
    faults.attempt (settingsFor environment (some path) (some webDir)) files =
      match configSetting.fault? environment, settingsAt faults files path, webDirSetting.fault? environment with
      | some fault, _, _ => (.error (.configuration (.setting fault)), files)
      | none, .error fault, _ => (.error (.configuration fault), files)
      | none, .ok _, some fault => (.error (.configuration (.setting fault)), files)
      | none, .ok settings, none =>
        if (settings.webDirIn environment).isEmpty then (.error (.configuration .emptyWebDir), files)
        else
          (((Settings.checkIdentities (settings.unify.targets ++ settings.unify.pageStyles.names)).mapError
            Failure.configuration).map fun _ => { settings with webDir }, files) := by
  cases looked : configSetting.lookup environment with
  | error fault =>
    rw [Setting.fault?_of_error looked]
    simp only [settingsFor, load, Faults.attempt_bind, attempt_checked, looked, Except.mapError]
  | ok named =>
    rw [Setting.fault?_of_ok looked]
    simp only [settingsFor, load, Faults.attempt_bind, attempt_checked, looked, Except.mapError, Option.some_or,
      attempt_loadNamed, Settings.applyEnvironment_eq]
    cases settingsAt faults files path with
    | error fault => rfl
    | ok settings =>
      cases webDirSetting.fault? environment with
      | some fault => rfl
      | none =>
        simp only [Settings.validate]
        by_cases empty : (settings.webDirIn environment).isEmpty = true
        · simp only [if_pos empty]
        · simp only [if_neg empty]
          cases Settings.checkIdentities (settings.unify.targets ++ settings.unify.pageStyles.names) <;> rfl

theorem Stopped.attempt_settingsFor {fault : ConfigFault} (stopped : Stopped faults files path environment fault)
    (webDir : FilePath) :
    faults.attempt (settingsFor environment (some path) (some webDir)) files =
      (.error (.configuration fault), files) := by
  rw [CommandLine.attempt_settingsFor]
  cases stopped with
  | config config => simp only [config]
  | webDir config loaded directory => simp only [config, loaded, directory]
  | empty config loaded directory empty => simp only [config, loaded, directory, empty, if_true]

/-- What is not stopped by the environment does not depend on it. -/
theorem attempt_settingsFor_of_not_stopped (free : ∀ fault, ¬ Stopped faults files path environment fault)
    (webDir : FilePath) :
    faults.attempt (settingsFor environment (some path) (some webDir)) files =
      match settingsAt faults files path with
      | .error fault => (.error (.configuration fault), files)
      | .ok settings =>
        (((Settings.checkIdentities (settings.unify.targets ++ settings.unify.pageStyles.names)).mapError
          Failure.configuration).map fun _ => { settings with webDir }, files) := by
  rw [attempt_settingsFor]
  have config : configSetting.fault? environment = none := by
    apply Option.eq_none_iff_forall_not_mem.mpr
    exact fun fault found => free _ (.config found)
  rw [config]
  cases loaded : settingsAt faults files path with
  | error fault => rfl
  | ok settings =>
    have directory : webDirSetting.fault? environment = none := by
      apply Option.eq_none_iff_forall_not_mem.mpr
      exact fun fault found => free _ (.webDir config loaded found)
    have some : ¬ (settings.webDirIn environment).isEmpty = true :=
      fun empty => free _ (.empty config loaded directory empty)
    simp only [directory, if_neg some]

/-- Variables that can be read stop no command, unless they name an empty directory or leave one. -/
theorem not_stopped_of_lookup {named given : Option FilePath} (config : configSetting.lookup environment = .ok named)
    (directory : webDirSetting.lookup environment = .ok given)
    (some : ∀ settings, settingsAt faults files path = .ok settings → (given.getD settings.webDir).isEmpty = false)
    (fault : ConfigFault) : ¬ Stopped faults files path environment fault := by
  intro stopped
  cases stopped with
  | config found =>
    rw [Setting.fault?_of_ok config] at found
    cases found
  | webDir _ _ found =>
    rw [Setting.fault?_of_ok directory] at found
    cases found
  | empty _ loaded _ empty =>
    rw [Settings.webDirIn_of_ok directory, some _ loaded] at empty
    cases empty

theorem run_eq (environment : Environment) (config : Option FilePath) (silent : Bool) (command : Command)
    (files : FileSystem) :
    (run environment (.run config level silent command) : FaultyDisk faults Finish) files =
      match faults.attempt (perform environment config silent command) files with
      | (.ok finish, after) => (finish, after)
      | (.error failure, after) => (⟨1, .complain failure.message, []⟩, after) := by
  rcases done : faults.attempt (perform environment config silent command) files with ⟨result, after⟩
  refine (FaultyDisk.bind_of_eq done _).trans ?_
  cases result <;> rfl

/-- Once it has its settings, a command does not look at the environment any more. -/
theorem exists_attempt_perform (faults : Faults) (path : FilePath) {command : Command}
    (own : command.webDir? = some webDir) (silent : Bool) :
    ∃ carryOut : Settings → ExceptT Failure (FaultyDisk faults) Finish, ∀ environment files,
      faults.attempt (perform environment (some path) silent command) files =
        faults.attempt (settingsFor environment (some path) (some webDir) >>= carryOut) files := by
  cases command with
  | extract webDir? | unify webDir? targets =>
    cases own
    exact ⟨_, fun _ _ => rfl⟩
  | initConfig _ | environmentDocs => cases own

/-- An environment that stops a command shows in what is said, and nothing is changed. -/
theorem Stopped.run_eq {fault : ConfigFault} (stopped : Stopped faults files path environment fault)
    {command : Command} (own : command.webDir? = some webDir) (silent : Bool) :
    (run environment (.run (some path) level silent command) : FaultyDisk faults Finish) files =
      (⟨1, .complain (Failure.configuration fault).message, []⟩, files) := by
  obtain ⟨carryOut, performed⟩ := exists_attempt_perform faults path own silent
  rw [CommandLine.run_eq, performed, Faults.attempt_bind, stopped.attempt_settingsFor]

/-- A command that is given its configuration file and its directory ends in the same way in all
environments that do not stop it. One that stops it shows in what is said, and changes nothing. -/
theorem run_overridden {command : Command} (own : command.webDir? = some webDir) (silent : Bool) :
    (∀ first second, (∀ fault, ¬ Stopped faults files path first fault) →
      (∀ fault, ¬ Stopped faults files path second fault) →
      (run first (.run (some path) level silent command) : FaultyDisk faults Finish) files =
        (run second (.run (some path) level silent command) : FaultyDisk faults Finish) files) ∧
      ∀ environment fault, Stopped faults files path environment fault →
        (run environment (.run (some path) level silent command) : FaultyDisk faults Finish) files =
          (⟨1, .complain (Failure.configuration fault).message, []⟩, files) := by
  refine ⟨?_, fun _ _ stopped => stopped.run_eq own silent⟩
  intro first second free clear
  obtain ⟨carryOut, performed⟩ := exists_attempt_perform faults path own silent
  have same := (attempt_settingsFor_of_not_stopped free webDir).trans
    (attempt_settingsFor_of_not_stopped clear webDir).symm
  rw [run_eq, run_eq, performed, performed, Faults.attempt_bind, Faults.attempt_bind, same]

end Overriding

def bareSite : FileSystem where
  working := []
  entries := [([.text "c.toml"], .file "".toUTF8 0o644), ([.text "css"], .directory 0o755),
    ([.text "js"], .directory 0o755)]
  distinct := by decide

def bareRequest : Request := .run (some (FilePath.current.join "c.toml")) none false (.extract (some .current))

theorem settingsAt_bareSite : settingsAt .none bareSite (FilePath.current.join "c.toml") = .ok .default := by
  have led : bareSite.LeadsTo .current [] := .current rfl
  have named : IsName "c.toml" := by constructor <;> decide
  have plain : bareSite.NoLinkAt ([] ++ [.text "c.toml"]) := noLinkAt_of_entries (by decide) _
  have there : bareSite.get? ([] ++ [.text "c.toml"]) = some (.file "".toUTF8 0o644) := rfl
  have joined : FilePath.current.joinFault? "c.toml" = none := by decide
  have leads : bareSite.leads (FilePath.current.join "c.toml") = true := by
    rw [FileSystem.leads, led.find_join named plain, joined, there]
    rfl
  have read : Faults.none.read bareSite (FilePath.current.join "c.toml") = .ok "" := by
    rw [Faults.read, Faults.none, led.read_join named plain, joined, there]
    simp only [Text.fromUTF8?_toUTF8]
  have settings : readSettings? "" = some .default := rfl
  simp only [settingsAt, leads, read, settings, if_true]

/-- A variable that cannot be read, for a file that is not looked for. -/
def emptyVariable : Environment := ⟨[("EXTRICATE_CONFIG", "")]⟩

def bothVariables : Environment := ⟨[("EXTRICATE_CONFIG", "o"), ("EXTRICATE_WEB_DIR", "d")]⟩

theorem stopped_emptyVariable :
    Stopped .none bareSite (FilePath.current.join "c.toml") emptyVariable
      (.setting ⟨"EXTRICATE_CONFIG", .emptyPath⟩) :=
  .config (Setting.fault?_of_error rfl)

theorem not_stopped_noVariable (fault : ConfigFault) :
    ¬ Stopped .none bareSite (FilePath.current.join "c.toml") ⟨[]⟩ fault := by
  apply not_stopped_of_lookup rfl rfl
  intro settings loaded
  cases settingsAt_bareSite.symm.trans loaded
  decide

theorem lookup_bothVariables :
    configSetting.lookup bothVariables = .ok (some ⟨"o"⟩) ∧ webDirSetting.lookup bothVariables = .ok (some ⟨"d"⟩) := by
  constructor
  · have read : readPath bothVariables "o" = .ok ⟨"o"⟩ :=
      readPath_of_plain (by decide) (by decide) (by decide) (by decide)
    exact Setting.lookup_of_readPath rfl rfl read
  · have read : readPath bothVariables "d" = .ok ⟨"d"⟩ :=
      readPath_of_plain (by decide) (by decide) (by decide) (by decide)
    exact Setting.lookup_of_readPath rfl rfl read

theorem not_stopped_bothVariables (fault : ConfigFault) :
    ¬ Stopped .none bareSite (FilePath.current.join "c.toml") bothVariables fault := by
  obtain ⟨config, directory⟩ := lookup_bothVariables
  have visible : FilePath.isEmpty ⟨"d"⟩ = false := by decide
  exact not_stopped_of_lookup config directory (fun _ _ => visible) fault

theorem run_bareSite :
    (run ⟨[]⟩ bareRequest : FaultyDisk .none Finish) bareSite =
      (report ⟨0, 0, []⟩ (.say "No HTML documents found in ."), bareSite) := by
  have prepared : Prepared .current [] bareSite := ⟨.current rfl, fun kind => by cases kind <;> rfl⟩
  have made := attempt_ensureAssetDirectories .none .current prepared fun kind => by cases kind <;> decide
  have shown : Faults.none.attempt (listDocuments .current) bareSite = (.ok [], bareSite) := by
    have names : Faults.none.fileNames bareSite .current = .ok ["c.toml"] := by
      obtain ⟨mode, found⟩ := prepared.led.exists_find (by decide)
      rw [Faults.fileNames, FileSystem.fileNames, found]
      rfl
    have none : isPageName "c.toml" = false := by decide
    rw [attempt_listDocuments, names]
    simp [Except.mapError, Except.map, none]
  have extracted : Faults.none.attempt (runExtraction .current false) bareSite = _ :=
    attempt_runExtraction .none .current made shown
  have settled := attempt_settingsFor_of_not_stopped not_stopped_noVariable .current
  rw [settingsAt_bareSite] at settled
  have accepted : Settings.checkIdentities (Settings.default.unify.targets ++ Settings.default.unify.pageStyles.names) =
    .ok () := by decide
  simp only [bareRequest, run_eq, perform, Faults.attempt_bind, settled, accepted, Except.mapError, Except.map,
    extracted]
  rfl

theorem run_overridden_bareSite :
    (run ⟨[]⟩ bareRequest : FaultyDisk .none Finish) bareSite =
        (run bothVariables bareRequest : FaultyDisk .none Finish) bareSite ∧
      (run emptyVariable bareRequest : FaultyDisk .none Finish) bareSite =
        (⟨1, .complain (Failure.configuration (.setting ⟨"EXTRICATE_CONFIG", .emptyPath⟩)).message, []⟩, bareSite) := by
  obtain ⟨same, stops⟩ := @run_overridden .none bareSite (FilePath.current.join "c.toml") .current none
    (.extract (some .current)) rfl false
  exact ⟨same _ _ not_stopped_noVariable not_stopped_bothVariables, stops _ _ stopped_emptyVariable⟩

/-- A variable that names no file is held against a command that needs no name. -/
theorem run_told_apart :
    parse? ["extract", "-w", ".", "-c", "./c.toml"] = some bareRequest ∧
      (∀ name, name ≠ configSetting.name → name ≠ webDirSetting.name →
        emptyVariable.bindings.lookup name = (⟨[]⟩ : Environment).bindings.lookup name) ∧
      ((run ⟨[]⟩ bareRequest : FaultyDisk .none Finish) bareSite).1.code = 0 ∧
      ((run emptyVariable bareRequest : FaultyDisk .none Finish) bareSite).1.code = 1 := by
  refine ⟨by rfl, ?_, ?_, ?_⟩
  · intro name other _
    have apart : (name == "EXTRICATE_CONFIG") = false := beq_false_of_ne other
    rw [emptyVariable, List.lookup_cons, apart]
  · rw [run_bareSite]
    rfl
  · rw [bareRequest, stopped_emptyVariable.run_eq rfl]

end PageAssets.CommandLine
