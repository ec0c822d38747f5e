import PageAssets.Batch.Extraction
import PageAssets.Proofs.Batch.Slots

/-! Attempts on a disk with faults. An attempt gives its outcome and the files it leaves; where one
step fails, the steps behind it are not tried. -/

namespace PageAssets.Files

variable {faults : Faults} {files : FileSystem} {α β : Type}

instance : LawfulMonad (FaultyDisk faults) := inferInstanceAs (LawfulMonad (StateM FileSystem))

theorem FaultyDisk.bind_of_eq {operation : FaultyDisk faults α} {value : α} {after : FileSystem}
    (done : operation files = (value, after)) (next : α → FaultyDisk faults β) :
    (operation >>= next) files = next value after := by
  change next (operation files).1 (operation files).2 = _
  rw [done]

namespace Faults

def attempt (faults : Faults) (action : ExceptT Failure (FaultyDisk faults) α) (files : FileSystem) :
    Except Failure α × FileSystem :=
  action.run files

/-- Without faults, an attempt is a run on the files themselves. -/
theorem attempt_none (action : ∀ m [Monad m] [FileAccess m], ExceptT Failure m α) :
    Faults.none.attempt (action (FaultyDisk .none)) files = (action (StateM FileSystem)).run files := rfl

theorem attempt_pure (value : α) : faults.attempt (pure value) files = (.ok value, files) := rfl

theorem attempt_mk (result : Except Failure α) :
    faults.attempt (ExceptT.mk (pure result)) files = (result, files) := rfl

theorem attempt_bind (action : ExceptT Failure (FaultyDisk faults) α)
    (next : α → ExceptT Failure (FaultyDisk faults) β) :
    faults.attempt (action >>= next) files =
      match faults.attempt action files with
      | (.ok value, after) => faults.attempt (next value) after
      | (.error failure, after) => (.error failure, after) := by
  unfold attempt
  rcases done : action.run files with ⟨result, after⟩
  refine (FaultyDisk.bind_of_eq done (ExceptT.bindCont next)).trans ?_
  cases result <;> rfl

/-- A success of two actions is a success of each. -/
theorem exists_of_attempt_bind {files after : FileSystem} {value : β}
    {action : ExceptT Failure (FaultyDisk faults) α} {next : α → ExceptT Failure (FaultyDisk faults) β}
    (done : faults.attempt (action >>= next) files = (.ok value, after)) :
    ∃ first between, faults.attempt action files = (.ok first, between) ∧
      faults.attempt (next first) between = (.ok value, after) := by
  rw [attempt_bind] at done
  rcases begun : faults.attempt action files with ⟨failure | first, between⟩
  · rw [begun] at done
    cases done
  · rw [begun] at done
    exact ⟨first, between, rfl, done⟩

end Faults

/-- An action that leaves all files as they are. -/
def Still (faults : Faults) (action : ExceptT Failure (FaultyDisk faults) α) : Prop :=
  ∀ files, (faults.attempt action files).2 = files

namespace Still

theorem pure (value : α) : Still faults (Pure.pure value) := fun _ => rfl

theorem bind {action : ExceptT Failure (FaultyDisk faults) α} {next : α → ExceptT Failure (FaultyDisk faults) β}
    (first : Still faults action) (later : ∀ value, Still faults (next value)) :
    Still faults (action >>= next) := by
  intro files
  have same := first files
  rw [Faults.attempt_bind]
  rcases done : faults.attempt action files with ⟨_ | value, after⟩
  · rwa [done] at same
  · rw [done] at same
    subst same
    exact later value after

end Still
end PageAssets.Files

namespace PageAssets.Page
open Files FileSystem

variable {faults : Faults} {files : FileSystem} {α : Type}

theorem attempt_failingWith {failure : Cause → Failure} {operation : FaultyDisk faults (Except Cause α)}
    {result : Except Cause α} {after : FileSystem} (done : operation files = (result, after)) :
    faults.attempt (failingWith failure operation) files = (result.mapError failure, after) := by
  unfold Faults.attempt failingWith
  refine (FaultyDisk.bind_of_eq done _).trans ?_
  cases result <;> rfl

theorem attempt_readDocument (path : FilePath) :
    faults.attempt (readDocument path) files = ((faults.read files path).mapError (readFailure path), files) :=
  attempt_failingWith rfl

theorem attempt_makeDirectories {path : FilePath} {failure : Cause → Failure} {result : Except Cause Unit}
    {made : FileSystem} (done : faults.makeDirectories files path = (result, made)) :
    faults.attempt (failingWith failure (FileAccess.makeDirectories path)) files = (result.mapError failure, made) :=
  attempt_failingWith done

theorem attempt_writeDocument {path : FilePath} {content : String} {result : Except Cause Unit} {after : FileSystem}
    (done : faults.replace files path content.toUTF8 = (result, after)) :
    faults.attempt (writeDocument path content) files = (result.mapError (.unwritable path), after) :=
  attempt_failingWith done

/-- What can come of writing an asset: nothing is to be written, its directory cannot be made, it
cannot be written there, or it is written. -/
inductive AssetAttempt (webDir : FilePath) (site : Location) (kind : AssetKind) (identity : String)
    (before : FileSystem) : Option (List Char) → Except Failure (Option FilePath) × FileSystem → Prop where
  | nothing : AssetAttempt webDir site kind identity before none (.ok none, before)
  | directory {text : List Char} (cause : Cause) :
      AssetAttempt webDir site kind identity before (some text)
        (.error (.unwritable (kind.directory webDir) cause), before)
  | file {text : List Char} {made : FileSystem} (cause : Cause)
      (provides : Provides before made (kind.directoryAt site)) :
      AssetAttempt webDir site kind identity before (some text)
        (.error (.unwritable (kind.path webDir identity) cause), made)
  | written {text : List Char} {made after : FileSystem} (provides : Provides before made (kind.directoryAt site))
      (rewrites : Rewrites made after (kind.assetAt site identity) (String.ofList text).toUTF8) :
      AssetAttempt webDir site kind identity before (some text) (.ok (some (kind.path webDir identity)), after)

section Assets
variable {webDir : FilePath} {site : Location} {kind : AssetKind} {identity : String}

/-- Content that can be seen is written, into the directory that its path names. -/
theorem writeAsset_of_visible (valid : isIdentity identity = true) {text : List Char}
    (visible : Text.isBlank text = false) :
    writeAsset (m := FaultyDisk faults) (kind.path webDir identity) (String.ofList text) = do
      failingWith (.unwritable (kind.directory webDir)) (FileAccess.makeDirectories (kind.directory webDir))
      writeDocument (kind.path webDir identity) (String.ofList text)
      return true := by
  rw [writeAsset, String.toList_ofList, visible]
  simp only [Bool.false_eq_true, ↓reduceIte, kind.parent?_path webDir valid]

theorem attempt_writeAsset (valid : isIdentity identity = true) {text : List Char}
    (visible : Text.isBlank text = false) :
    faults.attempt (writeAsset (kind.path webDir identity) (String.ofList text)) files =
      match faults.makeDirectories files (kind.directory webDir) with
      | (.error cause, made) => (.error (.unwritable (kind.directory webDir) cause), made)
      | (.ok (), made) =>
        match faults.replace made (kind.path webDir identity) (String.ofList text).toUTF8 with
        | (.error cause, after) => (.error (.unwritable (kind.path webDir identity) cause), after)
        | (.ok (), after) => (.ok true, after) := by
  simp only [writeAsset_of_visible valid visible, Faults.attempt_bind]
  rcases done : faults.makeDirectories files (kind.directory webDir) with ⟨cause | value, made⟩
  · rw [attempt_makeDirectories done]
    rfl
  · rw [attempt_makeDirectories done]
    rcases written : faults.replace made (kind.path webDir identity) (String.ofList text).toUTF8 with
      ⟨cause | value, after⟩
    · simp only [Except.mapError, attempt_writeDocument written, written]
    · simp only [Except.mapError, attempt_writeDocument written, written, Faults.attempt_pure]

/-- Assets are written one by one, each in full or not at all. -/
theorem attempt_writeExtracted (led : files.LeadsTo webDir site) (valid : isIdentity identity = true)
    (directory : files.NoLinkAt (kind.directoryAt site)) (asset : files.NoLinkAt (kind.assetAt site identity))
    {content : Option (List Char)} (visible : ∀ text, content = some text → Text.isBlank text = false) :
    AssetAttempt webDir site kind identity files content
      (faults.attempt (Batch.writeExtracted webDir identity kind content) files) := by
  cases content with
  | none => exact .nothing
  | some text =>
    simp only [Batch.writeExtracted, Faults.attempt_bind, attempt_writeAsset valid (visible text rfl)]
    rcases faults.makeDirectories_join led kind.isName_extension directory with
      ⟨cause, failed⟩ | ⟨made, done, provides⟩
    · simp only [AssetKind.directory, failed]
      exact .directory cause
    · have inside : made.LeadsTo (kind.directory webDir) (kind.directoryAt site) :=
        (led.keep provides.keepsWays provides.working).join kind.isName_extension kind.short_extension provides.directory
      have plain : made.NoLinkAt (kind.assetAt site identity) := by
        intro target
        rw [provides.others _ AssetKind.assetAt_ne_directoryAt]
        exact asset target
      have replaced := faults.replace_join inside (kind.isName_asset valid) plain
        (String.ofList text).toUTF8
      simp only [AssetKind.directory, done, AssetKind.path] at replaced ⊢
      split at replaced
      next cause _ =>
        rw [replaced]
        exact .file cause provides
      next =>
        obtain ⟨after, finished, rewrites⟩ := replaced
        rw [finished]
        exact .written provides rewrites

end Assets
end PageAssets.Page
