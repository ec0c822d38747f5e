import PageAssets.Proofs.Batch.Narration
import PageAssets.Proofs.CommandLine.Unifying

/-! Silence asked for on the command line. It takes away what is said of single pages and nothing else: the
same files are left, the exit code is the same, and so is the line that counts the pages. -/

namespace PageAssets.CommandLine
open Files Batch Config Page

/-- How a batch ends: behind all that has been said there is a line that counts its pages, the code tells whether
any of them has failed, and each that has is in the log. -/
structure Counted (summary : Summary) (narration : Narration) (finish : Finish) : Prop where
  code : finish.code = if summary.failures = [] then 0 else 1
  out : finish.narration.out = narration.out ++
    ["Done: " ++ (toString summary.succeeded ++ "/" ++ toString summary.total ++ " documents processed")]
  err : finish.narration.err = narration.err
  log : finish.log = summary.failures

theorem counted_report (summary : Summary) (narration : Narration) :
    Counted summary narration (report summary narration) where
  code := by simp only [report, Summary.isSuccess, List.isEmpty_iff]
  out := rfl
  err := List.append_nil _
  log := rfl

/-- How a command ends without silence and with it. A command that fails, and one that has nothing to do with pages,
ends in the same way. A batch says in silence no more than how many pages there were. -/
inductive Hushed (faults : Faults) (files : FileSystem) (environment : Environment) (config : Option FilePath) :
    Command → Finish → Finish → FileSystem → Prop where
  | failed {command : Command} {failure : Failure} {after : FileSystem}
      (failed : faults.attempt (perform environment config false command) files = (.error failure, after)) :
      Hushed faults files environment config command ⟨1, .complain failure.message, []⟩
        ⟨1, .complain failure.message, []⟩ after
  | extracted {webDir : Option FilePath} {settings : Settings} {summary : Summary} {narration : Narration}
      {loud quiet : Finish} {between after : FileSystem}
      (settled : faults.attempt (settingsFor environment config webDir) files = (.ok settings, between))
      (done : faults.attempt (runExtraction settings.webDir false) between = (.ok (summary, narration), after))
      (told : Counted summary narration loud) (silent : Counted summary .silence quiet) :
      Hushed faults files environment config (.extract webDir) loud quiet after
  | unified {webDir : Option FilePath} {targets : List String} {settings : Settings} {bundle : Style.Bundle}
      {outcomes : List (Outcome FilePath)} {loud quiet : Finish} {between after : FileSystem}
      (prepared : faults.attempt (prepare environment config webDir targets) files = (.ok (settings, bundle), between))
      (done : unifyEach faults settings.webDir bundle settings.unify.targets between = (outcomes, after))
      (told : Counted (summarize outcomes) (narrateUnifications outcomes) loud)
      (silent : Counted (summarize outcomes) .silence quiet) :
      Hushed faults files environment config (.unify webDir targets) loud quiet after
  | written {path : FilePath} {after : FileSystem}
      (written : faults.attempt (writeExample path) files = (.ok (), after)) :
      Hushed faults files environment config (.initConfig path) ⟨0, .say ("Wrote " ++ path.text), []⟩
        ⟨0, .say ("Wrote " ++ path.text), []⟩ after
  | documentation :
      Hushed faults files environment config .environmentDocs ⟨0, ⟨Environment.documentation, []⟩, []⟩
        ⟨0, ⟨Environment.documentation, []⟩, []⟩ files

section Ends
variable {faults : Faults} {files after : FileSystem} {environment : Environment} {config : Option FilePath}
  {command : Command} {loud quiet : Finish}

theorem Hushed.code (hushed : Hushed faults files environment config command loud quiet after) :
    quiet.code = loud.code := by
  cases hushed with
  | failed | written | documentation => rfl
  | extracted _ _ told silent | unified _ _ told silent => exact silent.code.trans told.code.symm

theorem Hushed.log (hushed : Hushed faults files environment config command loud quiet after) :
    quiet.log = loud.log := by
  cases hushed with
  | failed | written | documentation => rfl
  | extracted _ _ told silent | unified _ _ told silent => exact silent.log.trans told.log.symm

/-- The last line counts the pages, whatever has been said before. -/
theorem Hushed.last (hushed : Hushed faults files environment config command loud quiet after) :
    quiet.narration.out.getLast? = loud.narration.out.getLast? := by
  cases hushed with
  | failed | written | documentation => rfl
  | extracted _ _ told silent | unified _ _ told silent =>
    rw [silent.out, told.out, List.getLast?_concat, List.getLast?_concat]

end Ends

section Running
variable {faults : Faults} {files after : FileSystem} {environment : Environment} {config : Option FilePath}
  {level : Option Environment.LogLevel} {command : Command}

/-- The two runs of a command end in the same files, and are told apart by what is said only. -/
def RunsHushed (faults : Faults) (files : FileSystem) (environment : Environment) (config : Option FilePath)
    (level : Option Environment.LogLevel) (command : Command) : Prop :=
  ∃ loud quiet after,
    (run environment (.run config level false command) : FaultyDisk faults Finish) files = (loud, after) ∧
    (run environment (.run config level true command) : FaultyDisk faults Finish) files = (quiet, after) ∧
    Hushed faults files environment config command loud quiet after

theorem runsHushed_of_error {failure : Failure}
    (failed : ∀ silent, faults.attempt (perform environment config silent command) files = (.error failure, after)) :
    RunsHushed faults files environment config level command := by
  refine ⟨_, _, after, ?_, ?_, .failed (failed false)⟩
  · rw [run_eq, failed]
  · rw [run_eq, failed]

theorem runsHushed_of_ok {loud quiet : Finish}
    (told : faults.attempt (perform environment config false command) files = (.ok loud, after))
    (silent : faults.attempt (perform environment config true command) files = (.ok quiet, after))
    (hushed : Hushed faults files environment config command loud quiet after) :
    RunsHushed faults files environment config level command := by
  refine ⟨loud, quiet, after, ?_, ?_, hushed⟩
  · rw [run_eq, told]
  · rw [run_eq, silent]

theorem runsHushed_extract (webDir : Option FilePath) :
    RunsHushed faults files environment config level (.extract webDir) := by
  rcases settled : faults.attempt (settingsFor environment config webDir) files with ⟨failure | settings, between⟩
  · apply runsHushed_of_error
    intro silent
    rw [perform, Faults.attempt_bind, settled]
  · have performed (silent : Bool) : faults.attempt (perform environment config silent (.extract webDir)) files =
        faults.attempt (runExtraction settings.webDir silent >>= fun told => pure (report told.1 told.2)) between := by
      rw [perform, Faults.attempt_bind, settled]
    have muted : faults.attempt (runExtraction settings.webDir true) between = _ := runExtraction_muted _
    rcases done : faults.attempt (runExtraction settings.webDir false) between with ⟨failure | told, after⟩
    · rw [done] at muted
      apply runsHushed_of_error
      intro silent
      rw [performed, Faults.attempt_bind]
      cases silent with
      | false => rw [done]
      | true => rw [muted, Batch.muted]; rfl
    · rw [done] at muted
      refine runsHushed_of_ok ?_ ?_ (.extracted settled done (counted_report ..) (counted_report ..))
      · rw [performed, Faults.attempt_bind, done]
        rfl
      · rw [performed, Faults.attempt_bind, muted]
        rfl

theorem runsHushed_unify (webDir : Option FilePath) (targets : List String) :
    RunsHushed faults files environment config level (.unify webDir targets) := by
  have performed (silent : Bool) : faults.attempt (perform environment config silent (.unify webDir targets)) files = _ :=
    (congrArg (faults.attempt · files) (perform_unify silent)).trans (Faults.attempt_bind ..)
  rcases prepared : faults.attempt (prepare environment config webDir targets) files with ⟨failure | ready, between⟩
  · apply runsHushed_of_error
    intro silent
    rw [performed, prepared]
  · refine runsHushed_of_ok ?_ ?_ (.unified prepared rfl (counted_report ..) (counted_report ..))
    · rw [performed, prepared]
      exact attempt_carryOut false ready.1 ready.2
    · rw [performed, prepared]
      exact attempt_carryOut true ready.1 ready.2

theorem runs_hushed (faults : Faults) (files : FileSystem) (environment : Environment) (config : Option FilePath)
    (level : Option Environment.LogLevel) (command : Command) :
    RunsHushed faults files environment config level command := by
  cases command with
  | extract webDir => exact runsHushed_extract webDir
  | unify webDir targets => exact runsHushed_unify webDir targets
  | initConfig path =>
    have performed (silent : Bool) : faults.attempt (perform environment config silent (.initConfig path)) files = _ :=
      Faults.attempt_bind ..
    rcases written : faults.attempt (writeExample path) files with ⟨failure | value, after⟩
    · apply runsHushed_of_error
      intro silent
      rw [performed, written]
    · refine runsHushed_of_ok ?_ ?_ (.written written)
      · rw [performed, written]
        rfl
      · rw [performed, written]
        rfl
  | environmentDocs => exact runsHushed_of_ok rfl rfl .documentation

end Running

/-- Silence takes away what is said of single pages, and nothing else. An extraction ends as it does without
silence; what it says then is one line for each failure on the one stream, and on the other the number of
pages and what the reports of the successes tell, both in the order of the pages. A unification is told in the
same way, and a command ends with the same code, log and last line. -/
theorem silence_hushes (faults : Faults) (files : FileSystem) :
    (∀ webDir,
      (∀ silent, faults.attempt (runExtraction webDir silent) files = tellExtraction faults webDir files silent) ∧
      faults.attempt (runExtraction webDir true) files =
        muted (faults.attempt (runExtraction webDir false) files) ∧
      ∀ summary narration after,
        faults.attempt (runExtraction webDir false) files = (.ok (summary, narration), after) →
        ∃ ready documents outcomes, faults.attempt (ensureAssetDirectories webDir) files = (.ok (), ready) ∧
          faults.attempt (listDocuments webDir) ready = (.ok documents, ready) ∧
          inTurn (extractDocument (m := FaultyDisk faults) webDir) documents ready = (outcomes, after) ∧
          summary = summarize outcomes ∧
          narration.out = opening webDir documents :: successLines ExtractionReport.lines outcomes ∧
          narration.err = summary.failures.map Failed.line) ∧
    (∀ webDir bundle targets,
      let outcome := unifyEach faults webDir bundle targets files
      (∀ silent, tellUnification faults webDir bundle silent targets files =
        ((summarize outcome.1, .hushed silent (narrateUnifications outcome.1)), outcome.2)) ∧
      Narration.hushed true (narrateUnifications outcome.1) = .silence ∧
      Narration.hushed false (narrateUnifications outcome.1) =
        ⟨successLines (fun _ path => ["✓ Unified: " ++ path.text]) outcome.1,
          (summarize outcome.1).failures.map Failed.line⟩) ∧
    ∀ environment config level command,
      (∀ arguments, parse? arguments = some (.run config level false command) →
        parse? ("-s" :: arguments) = some (.run config level true command)) ∧
      ∃ loud quiet after,
        (run environment (.run config level false command) : FaultyDisk faults Finish) files = (loud, after) ∧
        (run environment (.run config level true command) : FaultyDisk faults Finish) files = (quiet, after) ∧
        Hushed faults files environment config command loud quiet after ∧ quiet.code = loud.code ∧
        quiet.log = loud.log ∧ quiet.narration.out.getLast? = loud.narration.out.getLast? := by
  refine ⟨fun webDir => ⟨attempt_runExtraction_eq_tellExtraction, runExtraction_muted webDir,
    fun _ _ _ => told_of_runExtraction⟩, ?_, ?_⟩
  · intro webDir bundle targets outcome
    exact ⟨fun silent => tellUnification_eq webDir bundle silent targets, rfl, narrateUnifications_eq outcome.1⟩
  · intro environment config level command
    obtain ⟨loud, quiet, after, ended, silenced, hushed⟩ := runs_hushed faults files environment config level command
    exact ⟨fun _ => parse?_silent, loud, quiet, after, ended, silenced, hushed, hushed.code, hushed.log, hushed.last⟩

/-- Of two pages, one cannot be read: without silence that is said, and in silence it is only counted. -/
theorem silence_hushes_twoPages :
    (∃ summary narration after,
      Faults.none.attempt (runExtraction .current false) twoPages = (.ok (summary, narration), after) ∧
      Faults.none.attempt (runExtraction .current true) twoPages = (.ok (summary, .silence), after) ∧
      narration.out.head? = some "Found 2 HTML documents" ∧ narration.err = summary.failures.map Failed.line) ∧
    parse? ["-s", "extract", "-w", "."] = some (.run none none true (.extract (some .current))) := by
  obtain ⟨batch, -, command⟩ := silence_hushes .none twoPages
  obtain ⟨-, muted, told⟩ := batch .current
  constructor
  · have led : twoPages.LeadsTo .current [] := .current rfl
    have names : Faults.none.fileNames twoPages .current = .ok ["q.html", "p.html"] := by
      obtain ⟨mode, found⟩ := led.exists_find (by decide)
      rw [Faults.fileNames, FileSystem.fileNames, found]
      rfl
    obtain ⟨pages, listed⟩ := listed_twoPages
    have loud : Faults.none.attempt (runExtraction .current false) twoPages = _ :=
      attempt_runExtraction .none .current made_twoPages listed
    obtain ⟨ready, documents, outcomes, made, shown, -, -, out, err⟩ := told _ _ _ loud
    refine ⟨_, _, _, loud, muted.trans (congrArg Batch.muted loud), ?_, err⟩
    cases made_twoPages.symm.trans made
    have count : documents.length = 2 := by
      rw [attempt_listDocuments, names] at shown
      cases shown
      rw [List.length_mergeSort]
      decide
    have some : documents ≠ [] := by
      rintro rfl
      cases count
    rw [out, opening, if_neg some, count]
    rfl
  · obtain ⟨accepted, -⟩ := command ⟨[]⟩ none none (.extract (some .current))
    exact accepted ["extract", "-w", "."] (by rfl)

end PageAssets.CommandLine
