import PageAssets.Proofs.Batch.Narration
import PageAssets.Proofs.CommandLine.Arguments
import PageAssets.Proofs.CommandLine.Precedence
import PageAssets.Proofs.Config.Styles
import PageAssets.Proofs.Config.Validity

/-! The command that gives pages their style. Settings, targets and styles are looked at before the first
page is, so that what is wrong with any of them leaves all files as they are. Main statement: a command
line that goes is refused and changes nothing, or each of its targets is tried once. -/

namespace PageAssets.CommandLine
open Files Batch Config Page

/-- Settings with a directory and targets of the command line in place of their own. -/
def directed (settings : Settings) (webDir : Option FilePath) (targets : List String) : Settings where
  webDir := webDir.getD settings.webDir
  unify := { settings.unify with targets := if targets = [] then settings.unify.targets else targets }

section Preparing
variable {m : Type → Type} [Monad m] [FileAccess m]

/-- All that is looked at before the first page: the settings and the styles. -/
def prepare (environment : Environment) (config webDir : Option FilePath) (targets : List String) :
    ExceptT Failure m (Settings × Style.Bundle) := do
  let settings ← settingsFor environment config webDir
  let settings ← withTargets settings targets
  let bundle ← styleBundle settings
  return (settings, bundle)

def carryOut (silent : Bool) (settings : Settings) (bundle : Style.Bundle) : ExceptT Failure m Finish := do
  let outcomes ← ExceptT.lift (runUnification settings.webDir bundle settings.unify.targets)
  return report (summarize outcomes) (.hushed silent (narrateUnifications outcomes))

end Preparing

/-- What keeps the command from the pages. -/
inductive Refused (faults : Faults) (files : FileSystem) (environment : Environment) (config : Option FilePath)
    (targets : List String) : Prop where
  | settings {failure : Failure} (failed : (faults.attempt (load environment config) files).1 = .error failure) :
      Refused faults files environment config targets
  | target {target : String} (given : target ∈ targets) (invalid : isIdentity target = false) :
      Refused faults files environment config targets
  | style {settings : Settings} {path : FilePath} {cause : Cause}
      (loaded : (faults.attempt (load environment config) files).1 = .ok settings)
      (named : path ∈ styleFiles settings) (failed : faults.read files path = .error cause) :
      Refused faults files environment config targets

section Checking
variable {faults : Faults} {files : FileSystem} {environment : Environment} {config webDir : Option FilePath}
  {targets : List String} {loaded : Settings}

theorem perform_unify (silent : Bool) :
    perform (m := FaultyDisk faults) environment config silent (.unify webDir targets) =
      prepare environment config webDir targets >>= fun ready => carryOut silent ready.1 ready.2 := by
  simp only [perform, prepare, carryOut, bind_assoc, pure_bind]

theorem still_prepare : Still faults (prepare environment config webDir targets) := by
  have targeted (settings : Settings) : Still faults (withTargets settings targets) := by
    rw [withTargets]
    split
    · exact .pure settings
    · exact (still_checked _).bind fun _ => .pure _
  have styled (settings : Settings) : Still faults (styleBundle settings) := by
    intro files
    rw [attempt_styleBundle]
  exact ((still_load config).bind fun settings => .pure _).bind fun settings =>
    (targeted settings).bind fun settings => (styled settings).bind fun bundle => .pure _

/-- Settings that have been loaded, and the files as they were. -/
theorem attempt_load {result : Except Failure Settings}
    (found : (faults.attempt (load environment config) files).1 = result) :
    faults.attempt (load environment config) files = (result, files) :=
  Prod.ext found (still_load config files)

/-- Once there are settings, their targets and then their styles are looked at. -/
theorem attempt_prepare (found : (faults.attempt (load environment config) files).1 = .ok loaded) :
    faults.attempt (prepare environment config webDir targets) files =
      match if targets = [] then .ok () else (directed loaded webDir targets).validate with
      | .error fault => (.error (.configuration fault), files)
      | .ok () =>
        ((bundleAt faults files loaded).map fun bundle => (directed loaded webDir targets, bundle), files) := by
  have settled : faults.attempt (settingsFor environment config webDir) files =
      (.ok { loaded with webDir := webDir.getD loaded.webDir }, files) := by
    rw [settingsFor, Faults.attempt_bind, attempt_load found]
    rfl
  have styled : faults.attempt (styleBundle (directed loaded webDir targets)) files =
      (bundleAt faults files loaded, files) := attempt_styleBundle _
  have targeted : faults.attempt (withTargets { loaded with webDir := webDir.getD loaded.webDir } targets) files =
      (((if targets = [] then .ok () else (directed loaded webDir targets).validate).mapError
        Failure.configuration).map fun _ => directed loaded webDir targets, files) := by
    by_cases none : targets = []
    · subst none
      rfl
    · rw [withTargets, if_neg none, if_neg none, Faults.attempt_bind, attempt_checked]
      simp only [directed, if_neg none]
      generalize Settings.validate _ = checks
      cases checks <;> rfl
  rw [prepare, Faults.attempt_bind, settled]
  simp only [Faults.attempt_bind, targeted]
  cases (if targets = [] then Except.ok () else (directed loaded webDir targets).validate) with
  | error fault => rfl
  | ok value =>
    simp only [Except.mapError, Except.map, styled]
    cases bundleAt faults files loaded <;> rfl

/-- Where everything has been looked at, nothing was wrong. -/
theorem checks_of_prepare {ready : Settings × Style.Bundle}
    (found : (faults.attempt (load environment config) files).1 = .ok loaded)
    (done : (faults.attempt (prepare environment config webDir targets) files).1 = .ok ready) :
    (targets ≠ [] → Valid (directed loaded webDir targets)) ∧
      ∀ path ∈ styleFiles loaded, ∃ text, faults.read files path = .ok text := by
  rw [attempt_prepare found] at done
  cases checks : (if targets = [] then .ok () else (directed loaded webDir targets).validate) with
  | error fault =>
    rw [checks] at done
    cases done
  | ok value =>
    cases made : bundleAt faults files loaded with
    | error failure =>
      rw [checks, made] at done
      cases done
    | ok bundle =>
      have styled : faults.attempt (styleBundle loaded) files = (.ok bundle, files) := by
        rw [attempt_styleBundle, made]
      refine ⟨fun named => ?_, readable_of_styleBundle styled⟩
      rw [if_neg named] at checks
      exact validate_eq_ok_iff.mp checks

theorem not_refused_of_prepare {ready : Settings × Style.Bundle}
    (done : (faults.attempt (prepare environment config webDir targets) files).1 = .ok ready) :
    ¬ Refused faults files environment config targets := by
  intro refused
  cases found : (faults.attempt (load environment config) files).1 with
  | error failure =>
    rw [prepare, Faults.attempt_bind, settingsFor, Faults.attempt_bind, attempt_load found] at done
    cases done
  | ok loaded =>
    obtain ⟨checked, readable⟩ := checks_of_prepare found done
    cases refused with
    | settings failed => cases found.symm.trans failed
    | target given invalid =>
      have named := List.ne_nil_of_mem given
      have valid := (checked named).targets
      rw [directed, if_neg named] at valid
      rw [valid _ given] at invalid
      cases invalid
    | style same named failed =>
      cases found.symm.trans same
      obtain ⟨text, read⟩ := readable _ named
      cases read.symm.trans failed

/-- What is not refused has settings that are in order, and styles. -/
theorem exists_of_not_refused (visible : ∀ path ∈ webDir, path.isEmpty = false)
    (free : ¬ Refused faults files environment config targets) :
    ∃ loaded bundle, faults.attempt (load environment config) files = (.ok loaded, files) ∧
      faults.attempt (styleBundle loaded) files = (.ok bundle, files) ∧ Valid (directed loaded webDir targets) ∧
      faults.attempt (prepare environment config webDir targets) files =
        (.ok (directed loaded webDir targets, bundle), files) := by
  cases found : (faults.attempt (load environment config) files).1 with
  | error failure => exact absurd (.settings found) free
  | ok loaded =>
    have readable : ∀ path ∈ styleFiles loaded, ∃ text, faults.read files path = .ok text := by
      intro path named
      cases read : faults.read files path with
      | error cause => exact absurd (.style found named read) free
      | ok text => exact ⟨text, rfl⟩
    have invited : ∀ target ∈ targets, isIdentity target = true := by
      intro target given
      by_contra invalid
      exact free (.target given (eq_false_of_ne_true invalid))
    have valid := valid_of_load (attempt_load found)
    have checked : Valid (directed loaded webDir targets) := by
      refine ⟨?_, ?_, valid.pages⟩
      · cases webDir with
        | none => exact valid.webDir
        | some path => exact visible path rfl
      · rw [directed]
        split
        · exact valid.targets
        · exact invited
    obtain ⟨bundle, styled, -⟩ := exists_composes readable
    have made : bundleAt faults files loaded = .ok bundle :=
      congrArg Prod.fst ((attempt_styleBundle loaded).symm.trans styled)
    refine ⟨loaded, bundle, attempt_load found, styled, checked, ?_⟩
    rw [attempt_prepare found, validate_eq_ok_iff.mpr checked, ite_self, made]
    rfl

end Checking

/-- What comes of targets that are all tried: one outcome for each, in order, and a last line that counts
them. -/
structure Unified (faults : Faults) (webDir : FilePath) (bundle : Style.Bundle) (targets : List String)
    (files : FileSystem) (finish : Finish) (outcomes : List (Outcome FilePath)) (after : FileSystem) : Prop where
  valid : ∀ target ∈ targets, isIdentity target = true
  tried : inTurn (unifyDocument (m := FaultyDisk faults) webDir bundle) targets files = (outcomes, after)
  each : outcomes.map Outcome.document = targets
  failures : ∀ failed ∈ (summarize outcomes).failures, ∀ identity, failed.failure ≠ .invalidIdentity identity
  last : finish.narration.out.getLast? =
    some ("Done: " ++ toString (outcomes.countP fun outcome => outcome.result.isOk) ++ "/" ++
      toString targets.length ++ " documents processed")
  success : finish.code = 0 ↔ (outcomes.countP fun outcome => outcome.result.isOk) = targets.length
  failure : finish.code = 0 ∨ finish.code = 1

section Running
variable {faults : Faults} {files : FileSystem}

theorem attempt_carryOut (silent : Bool) (settings : Settings) (bundle : Style.Bundle) :
    faults.attempt (carryOut silent settings bundle) files =
      let outcome := unifyEach faults settings.webDir bundle settings.unify.targets files
      (.ok (report (summarize outcome.1) (.hushed silent (narrateUnifications outcome.1))), outcome.2) := rfl

theorem unified_of_valid {settings : Settings} (valid : Valid settings) (bundle : Style.Bundle) (silent : Bool) :
    ∃ finish outcomes after, faults.attempt (carryOut silent settings bundle) files = (.ok finish, after) ∧
      Unified faults settings.webDir bundle settings.unify.targets files finish outcomes after := by
  have tried := unifyEach_eq_inTurn faults settings.webDir bundle settings.unify.targets files
  have each := map_document_inTurn (unifyDocument (m := FaultyDisk faults) settings.webDir bundle)
    settings.unify.targets files
  rw [attempt_carryOut, tried]
  rcases done : inTurn (unifyDocument (m := FaultyDisk faults) settings.webDir bundle) settings.unify.targets files
    with ⟨outcomes, after⟩
  rw [done] at each
  have count : outcomes.length = settings.unify.targets.length := by
    rw [← each, List.length_map]
  refine ⟨_, outcomes, after, rfl, valid.targets, done, each, ?_, ?_, ?_, ?_⟩
  · intro failed member identity same
    obtain ⟨outcome, among, said⟩ := List.mem_filterMap.mp member
    have turned : outcome ∈
        (inTurn (unifyDocument (m := FaultyDisk faults) settings.webDir bundle) settings.unify.targets files).1 := by
      rwa [done]
    obtain ⟨named, now, turn⟩ := exists_turn_of_mem _ turned
    exact unifyDocument_not_invalid (valid.targets _ named) now identity
      (turn.symm.trans (error_of_failed? said same))
  · simp only [report, Summary.display, succeeded_eq]
    rw [← count]
    exact List.getLast?_concat
  · rw [← succeeded_eq, ← count, ← isSuccess_iff]
    simp [report]
  · simp only [report]
    split
    · exact .inl rfl
    · exact .inr rfl

variable {environment : Environment} {config webDir : Option FilePath} {level : Option Environment.LogLevel}
  {targets : List String}

theorem Refused.run_eq (refused : Refused faults files environment config targets) (webDir : Option FilePath)
    (silent : Bool) :
    ∃ failure : Failure,
      (run environment (.run config level silent (.unify webDir targets)) : FaultyDisk faults Finish) files =
        (⟨1, .complain failure.message, []⟩, files) := by
  have still : (faults.attempt (prepare environment config webDir targets) files).2 = files := still_prepare files
  rw [CommandLine.run_eq, perform_unify, Faults.attempt_bind]
  rcases done : faults.attempt (prepare environment config webDir targets) files with ⟨failure | ready, after⟩
  · rw [done] at still
    cases still
    exact ⟨failure, rfl⟩
  · exact absurd refused (not_refused_of_prepare (congrArg Prod.fst done))

theorem exists_unified (visible : ∀ path ∈ webDir, path.isEmpty = false) (silent : Bool)
    (free : ¬ Refused faults files environment config targets) :
    ∃ loaded bundle finish outcomes after, faults.attempt (load environment config) files = (.ok loaded, files) ∧
      faults.attempt (styleBundle loaded) files = (.ok bundle, files) ∧
      (run environment (.run config level silent (.unify webDir targets)) : FaultyDisk faults Finish) files =
        (finish, after) ∧
      Unified faults (webDir.getD loaded.webDir) bundle (if targets = [] then loaded.unify.targets else targets)
        files finish outcomes after := by
  obtain ⟨loaded, bundle, found, styled, valid, done⟩ := exists_of_not_refused visible free
  obtain ⟨finish, outcomes, after, carried, unified⟩ := unified_of_valid valid bundle silent
  refine ⟨loaded, bundle, finish, outcomes, after, found, styled, ?_, unified⟩
  rw [run_eq, perform_unify, Faults.attempt_bind, done]
  simp only [carried]

/-- A command line that goes is refused, and then all files stay as they are; or each of its targets is tried
once, on a page that may be one, and the exit code tells whether all have got their style. -/
theorem unify_checked_first {arguments : List String} {silent : Bool}
    (parsed : parse? arguments = some (.run config level silent (.unify webDir targets))) (faults : Faults)
    (files : FileSystem) (environment : Environment) :
    let outcome := (run environment (.run config level silent (.unify webDir targets)) : FaultyDisk faults Finish) files
    (Refused faults files environment config targets → outcome.1.code = 1 ∧ outcome.2 = files) ∧
      (¬ Refused faults files environment config targets → ∃ loaded bundle outcomes,
        faults.attempt (load environment config) files = (.ok loaded, files) ∧
        faults.attempt (styleBundle loaded) files = (.ok bundle, files) ∧
        Unified faults (webDir.getD loaded.webDir) bundle (if targets = [] then loaded.unify.targets else targets)
          files outcome.1 outcomes outcome.2) := by
  intro outcome
  constructor
  · intro refused
    obtain ⟨failure, ended⟩ := refused.run_eq webDir silent
    have finish : outcome = (⟨1, .complain failure.message, []⟩, files) := ended
    rw [finish]
    exact ⟨rfl, rfl⟩
  · intro free
    have visible : ∀ path ∈ webDir, path.isEmpty = false := by
      simpa [Command.paths] using (nonempty_of_parse? parsed).2
    obtain ⟨loaded, bundle, finish, outcomes, after, found, styled, ended, unified⟩ :=
      exists_unified visible silent free
    have same : outcome = (finish, after) := ended
    rw [same]
    exact ⟨loaded, bundle, outcomes, found, styled, unified⟩

end Running

def unifyRequest (targets : List String) : Request :=
  .run (some (FilePath.current.join "c.toml")) none false (.unify (some .current) targets)

theorem load_bareSite :
    Faults.none.attempt (load ⟨[]⟩ (some (FilePath.current.join "c.toml"))) bareSite = (.ok .default, bareSite) := by
  have looked : Environment.configSetting.lookup ⟨[]⟩ = .ok none := rfl
  simp only [load_eq, Faults.attempt_bind, attempt_checked, looked, Except.mapError, source, Option.some_or,
    attempt_loadNamed, settingsAt_bareSite]
  rfl

theorem unifyDocument_bareSite (bundle : Style.Bundle) :
    Faults.none.attempt (unifyDocument .current bundle "p") bareSite =
      (.error (.missingDocument (FilePath.current.join (fileOfIdentity "p"))), bareSite) := by
  have valid : isIdentity "p" = true := by decide
  have led : bareSite.LeadsTo .current [] := .current rfl
  have plain : bareSite.NoLinkAt ([] ++ [.text (fileOfIdentity "p")]) :=
    FileSystem.noLinkAt_of_entries (by decide) _
  have missing : Faults.none.read bareSite (FilePath.current.join (fileOfIdentity "p")) = .error .notFound := by
    rw [Faults.read, Faults.none, led.read_join (isName_fileOfIdentity valid) plain]
    decide
  simp only [unifyDocument, Faults.attempt_bind, Faults.attempt_mk, checkIdentity, if_pos valid,
    attempt_readDocument, missing, Except.mapError, readFailure]

/-- A page that is not there is tried; beside a name that is no page's, it is not. -/
theorem unify_checked_first_bareSite :
    ((run ⟨[]⟩ (unifyRequest ["p", "a/b"]) : FaultyDisk .none Finish) bareSite).1.code = 1 ∧
      ((run ⟨[]⟩ (unifyRequest ["p", "a/b"]) : FaultyDisk .none Finish) bareSite).2 = bareSite ∧
      ((run ⟨[]⟩ (unifyRequest ["p"]) : FaultyDisk .none Finish) bareSite).1.narration.out.getLast? =
        some "Done: 0/1 documents processed" ∧
      ((run ⟨[]⟩ (unifyRequest ["p"]) : FaultyDisk .none Finish) bareSite).1.code = 1 := by
  have mistaken : parse? ["unify", "-w", ".", "-c", "./c.toml", "p", "a/b"] = some (unifyRequest ["p", "a/b"]) := by
    rfl
  have accepted : parse? ["unify", "-w", ".", "-c", "./c.toml", "p"] = some (unifyRequest ["p"]) := by rfl
  have refused : Refused .none bareSite ⟨[]⟩ (some (FilePath.current.join "c.toml")) ["p", "a/b"] :=
    .target (List.mem_cons_of_mem _ List.mem_cons_self) (by decide)
  have free : ¬ Refused .none bareSite ⟨[]⟩ (some (FilePath.current.join "c.toml")) ["p"] := by
    rintro (failed | ⟨given, invalid⟩ | ⟨loaded, named, -⟩)
    · rw [load_bareSite] at failed
      cases failed
    · rw [List.mem_singleton.mp given] at invalid
      exact absurd invalid (by decide)
    · rw [load_bareSite] at loaded
      cases loaded
      cases named
  obtain ⟨code, unchanged⟩ := (unify_checked_first mistaken .none bareSite ⟨[]⟩).1 refused
  obtain ⟨loaded, bundle, outcomes, -, -, unified⟩ := (unify_checked_first accepted .none bareSite ⟨[]⟩).2 free
  rw [if_neg (List.cons_ne_nil _ _)] at unified
  have tried := unified.tried
  simp only [Option.getD_some, inTurn, unifyDocument_bareSite] at tried
  obtain ⟨rfl, -⟩ := Prod.mk.inj tried
  refine ⟨code, unchanged, unified.last, ?_⟩
  exact unified.failure.resolve_left fun success => absurd (unified.success.mp success) (by decide)

end PageAssets.CommandLine
