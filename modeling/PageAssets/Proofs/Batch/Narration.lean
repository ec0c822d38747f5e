import PageAssets.Proofs.Batch.Isolation
import PageAssets.Proofs.Batch.Unification

/-! What a batch says while it goes on. A batch can be told turn by turn, each outcome as soon as it is
there; one that is told in silence differs from it in nothing else. Main statement: what is said, on either
stream, follows from the outcomes in their order. -/

namespace PageAssets.Batch
open Files Page

namespace Narration

theorem append_assoc (first second third : Narration) : first ++ second ++ third = first ++ (second ++ third) := by
  change append (append _ _) _ = append _ (append _ _)
  simp only [append, List.append_assoc]

theorem append_silence (narration : Narration) : narration ++ silence = narration := by
  change append _ _ = _
  simp only [append, silence, List.append_nil]

theorem concat_cons (first : Narration) (rest : List Narration) : concat (first :: rest) = first ++ concat rest := by
  change _ = append _ _
  simp only [concat, append, List.flatMap_cons]

end Narration

section Recording
variable {α : Type}

def Summary.nothing : Summary := ⟨0, 0, []⟩

def Summary.record (summary : Summary) (outcome : Outcome α) : Summary where
  total := summary.total + 1
  succeeded := if outcome.result.isOk then summary.succeeded + 1 else summary.succeeded
  failures := summary.failures ++ outcome.failed?.toList

theorem record_summarize (outcomes : List (Outcome α)) (outcome : Outcome α) :
    (summarize outcomes).record outcome = summarize (outcomes ++ [outcome]) := by
  obtain ⟨document, result⟩ := outcome
  cases result <;> simp [Summary.record, summarize, Outcome.failed?, Except.isOk, Except.toBool]

theorem succeeded_eq (outcomes : List (Outcome α)) :
    (summarize outcomes).succeeded = outcomes.countP fun outcome => outcome.result.isOk := by
  refine List.countP_congr fun outcome _ => ?_
  unfold Outcome.failed?
  cases outcome.result <;> simp [Except.isOk, Except.toBool]

theorem isSuccess_iff (outcomes : List (Outcome α)) :
    (summarize outcomes).isSuccess = true ↔ (summarize outcomes).succeeded = outcomes.length := by
  simp only [Summary.isSuccess, summarize, List.isEmpty_iff, List.filterMap_eq_nil_iff, List.countP_eq_length,
    Option.isNone_iff_eq_none]

theorem error_of_failed? {outcome : Outcome α} {failed : Failed} {failure : Failure}
    (said : outcome.failed? = some failed) (same : failed.failure = failure) : outcome.result = .error failure := by
  unfold Outcome.failed? at said
  cases result : outcome.result with
  | ok value =>
    rw [result] at said
    cases said
  | error cause =>
    rw [result] at said
    cases said
    exact congrArg _ same

end Recording

section Telling
variable {α : Type} {faults : Faults} (action : String → ExceptT Failure (FaultyDisk faults) α)
  (tell : Outcome α → Narration)

/-- An action for several names, one after the other. Each outcome is told as soon as it is there, unless
nothing is to be said, and is recorded. -/
def tellInTurn (silent : Bool) : List String → Summary × Narration → FileSystem → (Summary × Narration) × FileSystem
  | [], told, files => (told, files)
  | name :: rest, told, files =>
    let turn := faults.attempt (action name) files
    let outcome : Outcome α := ⟨name, turn.1⟩
    let narration := if silent then told.2 else told.2 ++ tell outcome
    tellInTurn silent rest (told.1.record outcome, narration) turn.2

variable {action tell}

/-- Silence has no part in what is done and recorded. -/
theorem tellInTurn_silent (names : List String) (summary : Summary) (said : Narration) (files : FileSystem) :
    tellInTurn action tell true names (summary, .silence) files =
      let loud := tellInTurn action tell false names (summary, said) files
      ((loud.1.1, .silence), loud.2) := by
  induction names generalizing summary said files with
  | nil => rfl
  | cons name rest ih => exact ih _ _ _

/-- What is told on the way is what is told of the outcomes behind it. -/
theorem tellInTurn_loud (names : List String) (before : List (Outcome α)) (said : Narration) (files : FileSystem) :
    tellInTurn action tell false names (summarize before, said) files =
      let outcome := inTurn action names files
      ((summarize (before ++ outcome.1), said ++ .concat (outcome.1.map tell)), outcome.2) := by
  induction names generalizing before said files with
  | nil =>
    simp only [tellInTurn, inTurn, List.append_nil, List.map_nil]
    exact congrArg (fun said => ((summarize before, said), files)) said.append_silence.symm
  | cons name rest ih =>
    simp only [tellInTurn, Bool.false_eq_true, if_false, record_summarize, ih, inTurn, List.map_cons,
      Narration.concat_cons, Narration.append_assoc, List.append_assoc, List.singleton_append]

/-- A batch that is told from its start. -/
theorem tellInTurn_nothing (silent : Bool) (names : List String) (said : Narration) (files : FileSystem) :
    tellInTurn action tell silent names (.nothing, .hushed silent said) files =
      let outcome := inTurn action names files
      ((summarize outcome.1, .hushed silent (said ++ .concat (outcome.1.map tell))), outcome.2) := by
  have loud : tellInTurn action tell false names (.nothing, said) files = _ := tellInTurn_loud names [] said files
  cases silent with
  | false => exact loud
  | true =>
    refine (tellInTurn_silent names .nothing said files).trans ?_
    rw [loud]
    rfl

end Telling

section Lines
variable {α : Type}

def Failed.line (failed : Failed) : String := "✗ " ++ failed.document ++ ": " ++ failed.failure.message

/-- What is said of a page that has succeeded, in this order: each asset that is written, and whether the page
is another than before. -/
def ExtractionReport.lines (document : String) (report : ExtractionReport) : List String :=
  (report.cssWritten.map fun path => "✓ CSS extracted: " ++ path.text).toList ++
    (report.jsWritten.map fun path => "✓ JS extracted: " ++ path.text).toList ++
    [if report.documentChanged then "✓ Updated: " ++ document else "- Unchanged: " ++ document]

def successLines (lines : String → α → List String) (outcomes : List (Outcome α)) : List String :=
  outcomes.flatMap fun outcome =>
    match outcome.result with
    | .ok value => lines outcome.document value
    | .error _ => []

/-- Successes are told on the one stream, failures on the other, each in their order. -/
theorem concat_map_tell {tell : Outcome α → Narration} {lines : String → α → List String}
    (success : ∀ document value, tell ⟨document, .ok value⟩ = ⟨lines document value, []⟩)
    (failure : ∀ document failure, tell ⟨document, .error failure⟩ = complaint document failure)
    (outcomes : List (Outcome α)) :
    Narration.concat (outcomes.map tell) =
      ⟨successLines lines outcomes, (summarize outcomes).failures.map Failed.line⟩ := by
  induction outcomes with
  | nil => rfl
  | cons outcome rest ih =>
    obtain ⟨document, failed | value⟩ := outcome
    · rw [List.map_cons, Narration.concat_cons, ih, failure]
      rfl
    · rw [List.map_cons, Narration.concat_cons, ih, success]
      rfl

theorem narrateUnifications_eq (outcomes : List (Outcome FilePath)) :
    narrateUnifications outcomes =
      ⟨successLines (fun _ path => ["✓ Unified: " ++ path.text]) outcomes,
        (summarize outcomes).failures.map Failed.line⟩ :=
  concat_map_tell (fun _ _ => rfl) (fun _ _ => rfl) outcomes

def opening (webDir : FilePath) (documents : List String) : String :=
  if documents = [] then "No HTML documents found in " ++ webDir.text
  else "Found " ++ toString documents.length ++ " HTML documents"

theorem narrateExtractions_eq (webDir : FilePath) (outcomes : List (Outcome ExtractionReport)) :
    narrateExtractions webDir outcomes =
      .say (opening webDir (outcomes.map Outcome.document)) ++ .concat (outcomes.map narrateExtraction) := by
  cases outcomes with
  | nil => rfl
  | cons outcome rest =>
    rw [opening, if_neg (by simp), List.length_map]
    rfl

end Lines

section Extraction
variable (faults : Faults) (webDir : FilePath) (files : FileSystem)

/-- An extraction, told turn by turn. -/
def tellExtraction (silent : Bool) : Except Failure (Summary × Narration) × FileSystem :=
  match faults.attempt (ensureAssetDirectories webDir) files with
  | (.error failure, after) => (.error failure, after)
  | (.ok (), ready) =>
    match faults.attempt (listDocuments webDir) ready with
    | (.error failure, after) => (.error failure, after)
    | (.ok documents, listed) =>
      let told := tellInTurn (extractDocument (m := FaultyDisk faults) webDir) narrateExtraction silent documents
        (.nothing, .hushed silent (.say (opening webDir documents))) listed
      (.ok told.1, told.2)

variable {faults webDir files}

theorem attempt_runExtraction_eq_tellExtraction (silent : Bool) :
    faults.attempt (runExtraction webDir silent) files = tellExtraction faults webDir files silent := by
  rw [tellExtraction]
  rcases made : faults.attempt (ensureAssetDirectories webDir) files with ⟨failure | value, ready⟩
  · rw [runExtraction, Faults.attempt_bind, made]
  · rcases shown : faults.attempt (listDocuments webDir) ready with ⟨failure | documents, listed⟩
    · rw [runExtraction, Faults.attempt_bind, made]
      simp only [Faults.attempt_bind, shown]
    · rw [attempt_runExtraction faults webDir made shown, runEach_eq_inTurn, narrateExtractions_eq, map_document_inTurn]
      simp only [shown, tellInTurn_nothing]

/-- Without silence, all is said that follows from the outcomes. -/
theorem told_of_runExtraction {summary : Summary} {narration : Narration} {after : FileSystem}
    (done : faults.attempt (runExtraction webDir false) files = (.ok (summary, narration), after)) :
    ∃ ready documents outcomes, faults.attempt (ensureAssetDirectories webDir) files = (.ok (), ready) ∧
      faults.attempt (listDocuments webDir) ready = (.ok documents, ready) ∧
      inTurn (extractDocument (m := FaultyDisk faults) webDir) documents ready = (outcomes, after) ∧
      summary = summarize outcomes ∧
      narration.out = opening webDir documents :: successLines ExtractionReport.lines outcomes ∧
      narration.err = summary.failures.map Failed.line := by
  rw [attempt_runExtraction_eq_tellExtraction, tellExtraction] at done
  rcases made : faults.attempt (ensureAssetDirectories webDir) files with ⟨failure | value, ready⟩
  · rw [made] at done
    cases done
  · rw [made] at done
    rcases shown : faults.attempt (listDocuments webDir) ready with ⟨failure | documents, listed⟩
    · simp only [shown] at done
      cases done
    · have same : listed = ready := by
        rw [attempt_listDocuments] at shown
        exact (congrArg Prod.snd shown).symm
      subst same
      simp only [shown, tellInTurn_nothing] at done
      cases done
      refine ⟨_, documents, _, rfl, shown, rfl, rfl, ?_⟩
      rw [concat_map_tell (fun _ _ => rfl) (fun _ _ => rfl)]
      exact ⟨rfl, rfl⟩

end Extraction

section Silence
variable {faults : Faults} {files : FileSystem}

/-- The same end, and nothing is said on the way. -/
def muted (ended : Except Failure (Summary × Narration) × FileSystem) :
    Except Failure (Summary × Narration) × FileSystem :=
  (ended.1.map fun told => (told.1, .silence), ended.2)

/-- Silence changes nothing in an extraction. -/
theorem runExtraction_muted (webDir : FilePath) :
    faults.attempt (runExtraction webDir true) files = muted (faults.attempt (runExtraction webDir false) files) := by
  rw [attempt_runExtraction_eq_tellExtraction, attempt_runExtraction_eq_tellExtraction, tellExtraction, tellExtraction]
  rcases faults.attempt (ensureAssetDirectories webDir) files with ⟨failure | value, ready⟩
  · rfl
  · simp only
    rcases faults.attempt (listDocuments webDir) ready with ⟨failure | documents, listed⟩
    · rfl
    · exact congrArg (fun told => (Except.ok told.1, told.2)) (tellInTurn_silent documents _ _ listed)

def tellUnification (faults : Faults) (webDir : FilePath) (bundle : Style.Bundle) (silent : Bool)
    (targets : List String) (files : FileSystem) : (Summary × Narration) × FileSystem :=
  tellInTurn (unifyDocument (m := FaultyDisk faults) webDir bundle) narrateUnification silent targets
    (.nothing, .silence) files

theorem tellUnification_eq (webDir : FilePath) (bundle : Style.Bundle) (silent : Bool) (targets : List String) :
    tellUnification faults webDir bundle silent targets files =
      let outcome := unifyEach faults webDir bundle targets files
      ((summarize outcome.1, .hushed silent (narrateUnifications outcome.1)), outcome.2) := by
  rw [unifyEach_eq_inTurn]
  cases silent <;> exact tellInTurn_nothing _ targets .silence files

end Silence
end PageAssets.Batch
