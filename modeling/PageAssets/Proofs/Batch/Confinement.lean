import PageAssets.Proofs.Batch.Attempts
import PageAssets.Proofs.Batch.Outputs

/-! A page keeps to its own names. Wherever the paths lead, and whatever links stand on the way, taking the
assets out of a page makes directories and writes files named for the page, and nothing else. -/

namespace PageAssets.Batch
open Files FileSystem Page

/-- What differs is a directory that has been made, or has one of some names. -/
def Within (names : List Name) (before after : FileSystem) : Prop :=
  ∀ location, after.get? location ≠ before.get? location →
    before.get? location = none ∧ after.get? location = some (.directory directoryMode) ∨
      ∃ directory, ∃ name ∈ names, location = directory ++ [name]

namespace Within
variable {names : List Name} {before now after : FileSystem}

theorem refl (names : List Name) (files : FileSystem) : Within names files files := fun _ changed => absurd rfl changed

theorem trans (first : Within names before now) (second : Within names now after) : Within names before after := by
  intro location changed
  by_cases same : after.get? location = now.get? location
  · rw [same] at changed ⊢
    exact first location changed
  · rcases second location same with ⟨free, made⟩ | named
    · by_cases early : now.get? location = before.get? location
      · exact .inl ⟨early ▸ free, made⟩
      · rcases first location early with ⟨-, there⟩ | named
        · cases there.symm.trans free
        · exact .inr named
    · exact .inr named

theorem of_makesWay {steps : List Step} {done : Prop} (makes : MakesWay before after steps done) :
    Within names before after := by
  intro location changed
  obtain ⟨free, there, -⟩ := makes.made location changed
  exact .inl ⟨free, there⟩

theorem of_supersedes {directory : Location} {name : Name} {content : ByteArray} {mode : Nat} (member : name ∈ names)
    (supersedes : Supersedes before after (directory ++ [name]) content mode) : Within names before after := by
  intro location changed
  by_cases same : location = directory ++ [name]
  · exact .inr ⟨directory, name, member, same⟩
  · exact absurd (supersedes.others location same) changed

end Within

/-- An action that makes directories, changes what has one of some names wherever it stands, and nothing else. -/
def Confined (faults : Faults) (names : List Name) {α : Type} (action : ExceptT Failure (FaultyDisk faults) α) : Prop :=
  ∀ files, Within names files (faults.attempt action files).2

namespace Confined
variable {faults : Faults} {names : List Name} {α β : Type}

theorem of_still {action : ExceptT Failure (FaultyDisk faults) α} (still : Still faults action) :
    Confined faults names action := by
  intro files
  rw [still files]
  exact .refl names files

theorem pure (value : α) : Confined faults names (Pure.pure value) := .of_still (.pure value)

theorem bind {action : ExceptT Failure (FaultyDisk faults) α} {next : α → ExceptT Failure (FaultyDisk faults) β}
    (first : Confined faults names action)
    (second : ∀ value files after, faults.attempt action files = (.ok value, after) →
      Confined faults names (next value)) :
    Confined faults names (action >>= next) := by
  intro files
  have within := first files
  rw [Faults.attempt_bind]
  rcases done : faults.attempt action files with ⟨failure | value, after⟩ <;> rw [done] at within
  · exact within
  · exact within.trans (second value files after done after)

theorem makeDirectories (path : FilePath) (failure : Cause → Failure) :
    Confined faults names (failingWith failure (FileAccess.makeDirectories path)) := by
  intro files
  rcases done : faults.makeDirectories files path with ⟨result, made⟩
  have makes := faults.makeDirectories_makesWay files path
  rw [done] at makes
  rw [attempt_makeDirectories done]
  exact .of_makesWay makes

section Writing
variable {part : String} (named : IsName part) (member : .text part ∈ names) (base : FilePath) (content : String)
include named member

/-- Writing under a name that is joined to a path changes what has that name, wherever the path leads. -/
theorem writeDocument : Confined faults names (writeDocument (base.join part) content) := by
  intro files
  rcases done : faults.replace files (base.join part) content.toUTF8 with ⟨result, after⟩
  have cases := faults.replace_cases files (base.join part) content.toUTF8
  rw [done] at cases
  rw [attempt_writeDocument done]
  cases cases with
  | refused cause hindered => exact .refl names files
  | done replaceable replaced =>
    obtain ⟨-, rfl⟩ := (names_join_iff named).mp replaced.names
    exact .of_supersedes member replaced.supersedes

theorem writeAsset : Confined faults names (writeAsset (base.join part) content) := by
  rw [Page.writeAsset]
  split
  · exact .pure false
  · cases (base.join part).parent? with
    | none => exact .bind (.writeDocument named member base content) fun _ _ _ _ => .pure true
    | some parent =>
      refine .bind (.makeDirectories parent _) fun _ _ _ _ => ?_
      exact .bind (.writeDocument named member base content) fun _ _ _ _ => .pure true

end Writing
end Confined

section Extraction
variable {faults : Faults} {names : List Name} {fileName identity : String}

theorem confined_writeExtracted (valid : isIdentity identity = true) (kind : AssetKind)
    (member : .text ((Output.asset kind).name identity) ∈ names) (webDir : FilePath) (content : Option (List Char)) :
    Confined faults names (writeExtracted webDir identity kind content) := by
  cases content with
  | none => exact .pure none
  | some text =>
    have joined : kind.path webDir identity = _ := (Output.asset kind).path_eq_join webDir identity
    rw [writeExtracted, joined]
    refine .bind (.writeAsset (Output.isName valid) member _ _) fun wrote _ _ _ => ?_
    cases wrote <;> exact .pure _

theorem confined_writeRewritten (named : IsName fileName) (member : .text fileName ∈ names) (webDir : FilePath)
    (before after : String) : Confined faults names (writeRewritten (webDir.join fileName) before after) := by
  rw [writeRewritten]
  split
  · exact .pure false
  · exact .bind (.writeDocument named member webDir after) fun _ _ _ _ => .pure true

theorem still_readDocument (path : FilePath) : Still faults (readDocument path) := by
  intro files
  rw [attempt_readDocument]

def namesOf (fileName : String) : List Name :=
  .text fileName :: AssetKind.all.map fun kind => .text ((Output.asset kind).name (baseName fileName))

theorem confined_extractDocument (faults : Faults) (webDir : FilePath) (fileName : String) :
    Confined faults (namesOf fileName) (extractDocument webDir fileName) := by
  refine .bind (.of_still fun _ => rfl) ?_
  intro identity _ _ accepted
  have accepted : identityOfFile fileName = .ok identity := congrArg Prod.fst accepted
  have named := isName_file accepted
  obtain ⟨valid, rfl⟩ := identityOfFile_eq_ok_iff.mp accepted
  have stores (kind : AssetKind) (content : Option (List Char)) :
      Confined faults (namesOf fileName) (writeExtracted webDir (baseName fileName) kind content) := by
    refine confined_writeExtracted valid kind ?_ webDir content
    exact List.mem_cons_of_mem _ (List.mem_map_of_mem kind.mem_all)
  refine .bind (.of_still (still_readDocument _)) fun content _ _ _ => ?_
  refine .bind (stores .css _) fun css _ _ _ => .bind (stores .js _) fun js _ _ _ => ?_
  refine .bind ?_ fun changed _ _ _ => .pure _
  exact confined_writeRewritten named List.mem_cons_self webDir _ _

theorem attempt_extractDocument_refused {failure : Failure} (refused : identityOfFile fileName = .error failure)
    (webDir : FilePath) (files : FileSystem) :
    faults.attempt (extractDocument webDir fileName) files = (.error failure, files) := by
  rw [extractDocument, Faults.attempt_bind, Faults.attempt_mk, refused]

def FileWritten (before after : FileSystem) (location : Location) : Prop :=
  ∃ content mode, after.get? location = some (.file content mode) ∧ after.get? location ≠ before.get? location

/-- A file that is written for a page is one of the outputs of its identity. -/
theorem exists_output_of_written {webDir : FilePath} {files : FileSystem} {location : Location}
    (page : isPageName fileName = true)
    (written : FileWritten files (faults.attempt (extractDocument webDir fileName) files).2 location) :
    ∃ identity output directory, identityOfFile fileName = .ok identity ∧
      location = directory ++ [.text (Output.name output identity)] := by
  obtain ⟨content, mode, file, changed⟩ := written
  cases accepted : identityOfFile fileName with
  | error failure =>
    rw [attempt_extractDocument_refused accepted] at changed
    exact absurd rfl changed
  | ok identity =>
    obtain ⟨valid, rfl⟩ := identityOfFile_eq_ok_iff.mp accepted
    rcases confined_extractDocument faults webDir fileName files location changed with
      ⟨-, there⟩ | ⟨directory, name, member, split⟩
    · cases file.symm.trans there
    · refine ⟨baseName fileName, ?_⟩
      rcases List.mem_cons.mp member with rfl | asset
      · exact ⟨.page, directory, rfl, by rw [Output.name_page page, split]⟩
      · obtain ⟨kind, -, rfl⟩ := List.mem_map.mp asset
        exact ⟨.asset kind, directory, rfl, split⟩

/-- No file is written for two pages, on the same files or on others. -/
theorem not_fileWritten_twice {webDir : FilePath} {first second : String} {files others : FileSystem}
    {location : Location} (page : isPageName first = true) (other : isPageName second = true) (apart : first ≠ second)
    (written : FileWritten files (faults.attempt (extractDocument webDir first) files).2 location) :
    ¬ FileWritten others (faults.attempt (extractDocument webDir second) others).2 location := by
  intro again
  obtain ⟨identity, output, directory, accepted, split⟩ := exists_output_of_written page written
  obtain ⟨further, sort, place, taken, same⟩ := exists_output_of_written other again
  obtain ⟨-, last⟩ := List.append_inj' (split.symm.trans same) rfl
  obtain ⟨-, rfl⟩ := Output.name_inj (by simpa using last)
  exact apart (identityOfFile_inj page other accepted taken)

end Extraction

/-- Identities keep outputs apart. An identity is a text of safe characters that does not start with a dot. It
gives a page and its assets one name each, right in their directories, which no other output of any identity has.
A reference to an asset is read as the path of the asset, seen from the directory of the pages. Two pages have
different identities, and no file is ever written for both. -/
theorem identities_separate_outputs (webDir : FilePath) :
    (∀ identity, checkIdentity identity = .ok () ↔
      identity ≠ "" ∧ (∀ c ∈ identity.toList, IsSafe c) ∧ identity.toList.head? ≠ some '.') ∧
    (∀ identity, checkIdentity identity = .ok () →
      (∀ output : Output, output.Stands webDir identity) ∧
      (∀ kind : AssetKind, kind.path webDir identity = webDir.join (kind.target identity) ∧
        RefersTo (kind.referenceTag identity).toList kind.element.toList kind.key (kind.target identity).toList) ∧
      ∀ second, checkIdentity second = .ok () → ∀ output other : Output,
        ((output.path webDir identity).steps = (other.path webDir second).steps → output = other ∧ identity = second) ∧
        ∀ files : FileSystem, ∀ directory name, files.Names (output.path webDir identity) directory name →
          files.Names (other.path webDir second) directory name → output = other ∧ identity = second) ∧
    ∀ first second, isPageName first = true → isPageName second = true → first ≠ second →
      (∀ identity, identityOfFile first = .ok identity → identityOfFile second ≠ .ok identity) ∧
      ∀ faults : Faults, ∀ files others location,
        FileWritten files (faults.attempt (extractDocument webDir first) files).2 location →
          ¬ FileWritten others (faults.attempt (extractDocument webDir second) others).2 location := by
  refine ⟨fun identity => checkIdentity_eq_ok_iff.trans isIdentity_iff, ?_, ?_⟩
  · intro identity accepted
    have valid := checkIdentity_eq_ok_iff.mp accepted
    have stands (output : Output) := output.stands valid webDir
    refine ⟨stands, fun kind => ⟨kind.path_eq_target valid webDir, kind.refersTo_referenceTag valid⟩, ?_⟩
    intro second again output other
    have further := other.stands (checkIdentity_eq_ok_iff.mp again) webDir
    refine ⟨(stands output).eq_of_steps further, ?_⟩
    intro files directory name one two
    exact (stands output).eq_of_names further one two
  · intro first second page other apart
    refine ⟨fun identity accepted again => apart (identityOfFile_inj page other accepted again), ?_⟩
    intro faults files others location written
    exact not_fileWritten_twice page other apart written

theorem identities_separate_outputs_twoPages :
    identityOfFile "p.html" = .ok "p" ∧ identityOfFile "q.html" ≠ .ok "p" ∧
      AssetKind.css.path .current "p" = FilePath.current.join "css/p.css" ∧
      RefersTo "<link rel=\"stylesheet\" href=\"/css/p.css\">".toList "link".toList AssetKind.css.key
        "css/p.css".toList := by
  obtain ⟨-, outputs, apart⟩ := identities_separate_outputs .current
  have accepted : identityOfFile "p.html" = .ok "p" := by decide
  have valid : checkIdentity "p" = .ok () := rfl
  have references := (outputs "p" valid).2.1 .css
  exact ⟨accepted, (apart "p.html" "q.html" (by decide) (by decide) (by decide)).1 _ accepted, references⟩

end PageAssets.Batch
