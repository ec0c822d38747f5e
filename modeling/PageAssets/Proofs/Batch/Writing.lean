import PageAssets.Proofs.Batch.Attempts
import PageAssets.Proofs.Files.Naming
import PageAssets.Proofs.Files.Opening
import PageAssets.Proofs.Text.Blank

/-! Writing a file at any path, on any files and any disk. A page is written in full or all is as it was.
Writing an asset adds to this that blank content is not written, and that the directories above an asset
are made first. -/

namespace PageAssets.Page
open Files FileSystem

/-- The directories above a path are there, those that were missing have been made, and nothing else has changed. -/
def ParentsMade (faults : Faults) (before made : FileSystem) (path : FilePath) : Prop :=
  match path.parent? with
  | none => made = before
  | some parent => faults.DirectoriesMade before parent made ∧
    MakesWay before made parent.steps (parent.isEmpty = false)

/-- What comes of writing an asset: nothing for blank content, a failure where the directories above it cannot all
be made, or else what comes of writing a page at the same path behind that. -/
inductive AssetWriting (faults : Faults) (path : FilePath) (content : String) (before : FileSystem) :
    Except Failure Bool × FileSystem → Prop where
  | blank (nothing : Text.trim content.toList = []) : AssetWriting faults path content before (.ok false, before)
  | unprepared {parent : FilePath} {made : FileSystem} (cause : Cause) (visible : Text.trim content.toList ≠ [])
      (above : path.parent? = some parent) (hindered : ∀ after, ¬ faults.DirectoriesMade before parent after)
      (failed : faults.makeDirectories before parent = (.error cause, made))
      (makes : MakesWay before made parent.steps False) :
      AssetWriting faults path content before (.error (.unwritable parent cause), made)
  | prepared {made after : FileSystem} {result : Except Failure Unit} (visible : Text.trim content.toList ≠ [])
      (parents : ParentsMade faults before made path)
      (written : faults.attempt (writeDocument path content) made = (result, after)) :
      AssetWriting faults path content before (result.map fun _ => true, after)

section Writing
variable {faults : Faults} {path : FilePath} {content : String} {before made : FileSystem}

/-- Behind the directories, an asset is written as a page is. -/
theorem attempt_writeDocument_true (faults : Faults) (path : FilePath) (content : String) (made : FileSystem) :
    faults.attempt (do writeDocument path content; return true) made =
      ((faults.attempt (writeDocument path content) made).1.map fun _ => true,
        (faults.attempt (writeDocument path content) made).2) := by
  rw [Faults.attempt_bind]
  rcases faults.attempt (writeDocument path content) made with ⟨failure | value, after⟩ <;> rfl

theorem attempt_writeAsset_cases (faults : Faults) (path : FilePath) (content : String) (before : FileSystem) :
    AssetWriting faults path content before (faults.attempt (writeAsset path content) before) := by
  rw [writeAsset]
  cases blank : Text.isBlank content.toList with
  | true => exact .blank (Text.trim_eq_nil_iff.mpr blank)
  | false =>
    have visible : Text.trim content.toList ≠ [] := by
      intro nothing
      rw [Text.trim_eq_nil_iff.mp nothing] at blank
      cases blank
    simp only [Bool.false_eq_true, ↓reduceIte]
    cases above : path.parent? with
    | none =>
      simp only [attempt_writeDocument_true]
      refine .prepared visible ?_ rfl
      rw [ParentsMade, above]
    | some parent =>
      have makes := faults.makeDirectories_makesWay before parent
      rw [Faults.attempt_bind]
      rcases done : faults.makeDirectories before parent with ⟨cause | value, made⟩
      · rw [done] at makes
        rw [attempt_makeDirectories done]
        refine .unprepared cause visible above ?_ done ⟨makes.working, makes.made, False.elim⟩
        intro after opened
        cases done.symm.trans (Faults.makeDirectories_ok_iff.mpr opened)
      · rw [done] at makes
        rw [attempt_makeDirectories done]
        simp only [Except.mapError, attempt_writeDocument_true]
        refine .prepared visible ?_ rfl
        rw [ParentsMade, above]
        exact ⟨Faults.makeDirectories_ok_iff.mp done, makes.working, makes.made,
          fun written => makes.leads ⟨rfl, written⟩⟩

end Writing

/-- A page is written in full or not at all. Where it cannot be written, all is as it was; it is written
exactly where nothing is in the way, and then the entry that its path names is the new file. Writing an asset
adds only what comes before: blank content is left, and missing directories are made. -/
theorem writing_all_or_nothing (faults : Faults) (path : FilePath) (content : String) (before : FileSystem) :
    let written := faults.attempt (writeDocument path content) before
    (∀ failure, written.1 = .error failure → written.2 = before ∧ ∃ cause, failure = .unwritable path cause) ∧
      (written.1 = .ok () ↔ Replaceable faults before path) ∧
      (written.1 = .ok () → ∃ directory name mode,
        Replaced before written.2 path content.toUTF8 directory name mode) ∧
      AssetWriting faults path content before (faults.attempt (writeAsset path content) before) := by
  intro written
  rcases replaced : faults.replace before path content.toUTF8 with ⟨result, after⟩
  have outcome : written = (result.mapError (.unwritable path), after) := attempt_writeDocument replaced
  have cases := faults.replace_cases before path content.toUTF8
  rw [replaced] at cases
  rw [outcome]
  cases cases with
  | refused cause hindered =>
    refine ⟨?_, ?_, nofun, attempt_writeAsset_cases faults path content before⟩
    · rintro failure ⟨⟩
      exact ⟨rfl, cause, rfl⟩
    · constructor
      · nofun
      · intro replaceable
        exact absurd replaceable hindered
  | @done _ directory name mode replaceable superseded =>
    refine ⟨nofun, ?_, ?_, attempt_writeAsset_cases faults path content before⟩
    · constructor
      · intro _
        exact replaceable
      · intro _
        rfl
    · intro _
      exact ⟨directory, name, mode, superseded⟩

/-- One page is a link to a page with permissions of its own, and another one to a directory with such. -/
def linkedPages : FileSystem where
  working := []
  entries := [([.text "p.html"], .link ⟨"old.html"⟩), ([.text "old.html"], .file ByteArray.empty 0o640),
    ([.text "q.html"], .link ⟨"private"⟩), ([.text "private"], .directory 0o700)]
  distinct := by decide

/-- A link to a name beside it is followed. -/
theorem find_linkedPages {name other : String} {entry : Entry} (named : IsName name)
    (short : (Name.text name).byteSize ≤ maxNameLength) (fine : (FilePath.current.join name).fault? = none)
    (link : linkedPages.get? ([] ++ [.text name]) = some (.link ⟨other⟩))
    (steps : (FilePath.mk other).steps = [.enter (.text other)]) (slashless : (FilePath.mk other).endsInSlash = false)
    (fits : (Name.text other).byteSize ≤ maxNameLength) (there : linkedPages.get? ([] ++ [.text other]) = some entry)
    (plain : entry.isLink = false) :
    linkedPages.find (FilePath.current.join name) = .ok ([.text other], entry) := by
  have top : linkedPages.isDirectoryAt [] = true := rfl
  have budget : maxLinks = 39 + 1 := rfl
  have here : FilePath.current.steps = [.here] := by decide
  have way : linkedPages.walk .find maxLinks [] false (FilePath.current.join name).steps =
      .ok (.present [.text other]) := by
    rw [FilePath.steps_join named, here, List.singleton_append, walk, if_pos top, budget,
      walk_follow false top short link, steps, slashless, List.append_nil, walk_enter _ top fits there plain, walk]
    rfl
  have start : linkedPages.working = [] := rfl
  rw [find, place, fine, FilePath.endsInSlash_join named, start]
  simp only [way, bind, Except.bind]
  rw [← List.nil_append [Name.text other], there]

theorem names_linkedPages {name : String} (named : IsName name) :
    linkedPages.Names (FilePath.current.join name) [] (.text name) :=
  (names_join_iff named).mpr ⟨.current rfl, rfl⟩

theorem replaceable_linkedPages {name : String} (named : IsName name) (short : name.utf8ByteSize ≤ maxNameLength)
    (fine : (FilePath.current.join name).fault? = none)
    (room : linkedPages.stagingFault? (FilePath.current.join name) = none)
    (free : linkedPages.isDirectoryAt [.text name] = false) :
    Replaceable .none linkedPages (FilePath.current.join name) :=
  ⟨rfl, rfl, room, fine, FilePath.endsInSlash_join named, _, _, names_linkedPages named, short, free⟩

/-- The directory for a style is missing and can be made. -/
theorem directoriesMade_linkedPages :
    ∃ made, Faults.none.DirectoriesMade linkedPages (AssetKind.css.directory .current) made := by
  have led : linkedPages.LeadsTo .current [] := .current rfl
  have opened : Opened linkedPages FilePath.current.steps linkedPages :=
    .of_leads (leadsToDirectory_iff.mpr ⟨[], led.walk, rfl⟩)
  have free (front : Location) (early : front <+: [.text "css"]) (some : front ≠ []) :
      linkedPages.get? ([] ++ front) = none := by
    obtain ⟨name, rest, rfl⟩ := List.exists_cons_of_ne_nil some
    obtain ⟨rfl, last⟩ := List.cons_prefix_cons.mp early
    rw [List.prefix_nil.mp last]
    rfl
  obtain ⟨made, whole, -⟩ := opened.exists_missing led.walk rfl (by decide) free
  refine ⟨made, rfl, ?_⟩
  have fine : (AssetKind.css.directory .current).fault? = none := by decide
  rw [if_neg (by decide), fine, AssetKind.directory, FilePath.steps_join AssetKind.css.isName_extension]
  exact ⟨rfl, whole⟩

theorem provides_linkedPages {made : FileSystem}
    (opened : Faults.none.DirectoriesMade linkedPages (AssetKind.css.directory .current) made) :
    Provides linkedPages made (AssetKind.css.directoryAt []) := by
  have led : linkedPages.LeadsTo .current [] := .current rfl
  have plain : linkedPages.NoLinkAt (AssetKind.css.directoryAt []) := by
    intro target link
    cases link
  have done := Faults.makeDirectories_ok_iff.mpr opened
  rcases Faults.none.makeDirectories_join led AssetKind.css.isName_extension plain with
    ⟨cause, failed⟩ | ⟨after, same, provides⟩
  · cases done.symm.trans failed
  · cases done.symm.trans same
    exact provides

/-- In that directory the style is new, and it can be written. -/
theorem style_linkedPages {made : FileSystem} (provides : Provides linkedPages made (AssetKind.css.directoryAt [])) :
    made.Names (AssetKind.css.path .current "p") (AssetKind.css.directoryAt []) (.text "p.css") ∧
      Replaceable .none made (AssetKind.css.path .current "p") ∧
      made.find (AssetKind.css.path .current "p") = .error .notFound := by
  have led : linkedPages.LeadsTo .current [] := .current rfl
  have inside : made.LeadsTo (AssetKind.css.directory .current) (AssetKind.css.directoryAt []) :=
    (led.keep provides.keepsWays provides.working).join AssetKind.css.isName_extension AssetKind.css.short_extension
      provides.directory
  have named : IsName "p.css" := by constructor <;> decide
  have written : AssetKind.css.path .current "p" = (AssetKind.css.directory .current).join "p.css" := by decide
  have names : made.Names (AssetKind.css.path .current "p") (AssetKind.css.directoryAt []) (.text "p.css") := by
    rw [written]
    exact (names_join_iff named).mpr ⟨inside, rfl⟩
  have absent : made.get? (AssetKind.css.directoryAt [] ++ [.text "p.css"]) = none := provides.others _ (by decide)
  refine ⟨names, ⟨rfl, rfl, ?_, ?_, ?_, _, _, names, by decide, ?_⟩, ?_⟩
  · rw [stagingFault?_congr provides.working]
    decide
  · rw [written]
    decide
  · rw [written]
    exact FilePath.endsInSlash_join named
  · rw [isDirectoryAt, absent]
    rfl
  · have plain : made.NoLinkAt (AssetKind.css.directoryAt [] ++ [.text "p.css"]) := by simp [NoLinkAt, absent]
    have fine : (AssetKind.css.directory .current).joinFault? "p.css" = none := by decide
    rw [written, inside.find_join named plain, fine, absent]

theorem writing_all_or_nothing_linkedPages :
    (∃ after, Faults.none.attempt (writeDocument (FilePath.current.join "p.html") "new") linkedPages =
        (.ok (), after) ∧ after.get? [.text "p.html"] = some (.file "new".toUTF8 0o640) ∧
        after.get? [.text "old.html"] = some (.file ByteArray.empty 0o640)) ∧
      (∃ after, Faults.none.attempt (writeDocument (FilePath.current.join "q.html") "new") linkedPages =
        (.ok (), after) ∧ after.get? [.text "q.html"] = some (.file "new".toUTF8 0o700) ∧
        after.get? [.text "private"] = some (.directory 0o700)) ∧
      ∃ after, Faults.none.attempt (writeAsset (AssetKind.css.path .current "p") "b") linkedPages =
        (.ok true, after) ∧ after.get? [.text "css"] = some (.directory 0o755) ∧
        after.get? [.text "css", .text "p.css"] = some (.file "b".toUTF8 0o644) := by
  have written {name other : String} {entry : Entry} (named : IsName name) (apart : name ≠ other)
      (there : linkedPages.get? [.text other] = some entry)
      (replaceable : Replaceable .none linkedPages (FilePath.current.join name))
      (found : linkedPages.find (FilePath.current.join name) = .ok ([.text other], entry)) :
      ∃ after, Faults.none.attempt (writeDocument (FilePath.current.join name) "new") linkedPages = (.ok (), after) ∧
        after.get? [.text name] = some (.file "new".toUTF8 entry.permissions) ∧
        after.get? [.text other] = some entry := by
    obtain ⟨-, possible, made, -⟩ := writing_all_or_nothing Faults.none (FilePath.current.join name) "new" linkedPages
    have done := possible.mpr replaceable
    obtain ⟨directory, last, mode, replaced⟩ := made done
    obtain ⟨rfl, rfl⟩ := replaced.names.unique (names_linkedPages named)
    obtain rfl := replaced.kept _ _ found
    rcases outcome : Faults.none.attempt (writeDocument (FilePath.current.join name) "new") linkedPages with
      ⟨result, after⟩
    rw [outcome] at done replaced
    cases done
    refine ⟨after, rfl, replaced.supersedes.written, ?_⟩
    rw [replaced.supersedes.others _ (by simpa using Ne.symm apart), there]
  refine ⟨?_, ?_, ?_⟩
  · have named : IsName "p.html" := by constructor <;> decide
    exact written named (by decide) rfl (replaceable_linkedPages named (by decide) (by decide) (by decide) rfl)
      (find_linkedPages named (by decide) (by decide) rfl (by decide) (by decide) (by decide) rfl rfl)
  · have named : IsName "q.html" := by constructor <;> decide
    exact written named (by decide) rfl (replaceable_linkedPages named (by decide) (by decide) (by decide) rfl)
      (find_linkedPages named (by decide) (by decide) rfl (by decide) (by decide) (by decide) rfl rfl)
  · have valid : isIdentity "p" = true := rfl
    obtain ⟨ready, opened⟩ := directoriesMade_linkedPages
    obtain ⟨-, -, -, asset⟩ := writing_all_or_nothing Faults.none (AssetKind.css.path .current "p") "b" linkedPages
    generalize Faults.none.attempt (writeAsset (AssetKind.css.path .current "p") "b") linkedPages = outcome at asset
    cases asset with
    | blank nothing => exact absurd nothing (by decide)
    | unprepared cause visible above hindered =>
      rw [AssetKind.css.parent?_path .current valid] at above
      cases above
      exact absurd opened (hindered ready)
    | @prepared made after result visible parents written =>
      rw [ParentsMade, AssetKind.css.parent?_path .current valid] at parents
      have provides := provides_linkedPages parents.1
      obtain ⟨names, replaceable, missing⟩ := style_linkedPages provides
      obtain ⟨-, possible, done, -⟩ :=
        writing_all_or_nothing Faults.none (AssetKind.css.path .current "p") "b" made
      have succeeded := possible.mpr replaceable
      obtain ⟨directory, name, mode, replaced⟩ := done succeeded
      obtain ⟨rfl, rfl⟩ := replaced.names.unique names
      obtain rfl := replaced.new (by simp [missing])
      rw [written] at succeeded replaced
      cases succeeded
      have place : AssetKind.css.directoryAt [] = [.text "css"] := by decide
      rw [place] at provides replaced
      refine ⟨after, rfl, ?_, replaced.supersedes.written⟩
      rw [replaced.supersedes.others _ (by decide)]
      exact provides.made rfl

end PageAssets.Page
