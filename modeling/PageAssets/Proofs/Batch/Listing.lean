import PageAssets.Proofs.Batch.Attempts
import PageAssets.Proofs.Files.Entries

/-! The listing of the pages of a directory: every regular file with the name of a page, once, in
the order of the bytes of their names. -/

namespace PageAssets.Files.FileSystem

variable {files : FileSystem} {path : FilePath} {names : List String}

theorem fileNames_ok (listed : files.fileNames path = .ok names) :
    ∃ site, files.LeadsTo path site ∧ names.Nodup ∧
      ∀ name, name ∈ names ↔ ∃ content mode, files.get? (site ++ [.text name]) = some (.file content mode) := by
  rw [fileNames] at listed
  cases found : files.find path with
  | error cause =>
    rw [found] at listed
    cases listed
  | ok both =>
    obtain ⟨site, entry⟩ := both
    rw [found] at listed
    cases entry with
    | file | link => cases listed
    | directory =>
      cases listed
      refine ⟨site, leadsTo_of_find found, ?_, ?_⟩
      · have distinct := List.pairwise_map.mp (files.nodup_children site)
        refine distinct.filterMap _ ?_
        rintro ⟨⟨first⟩ | ⟨bytes⟩, entry⟩ ⟨⟨second⟩ | ⟨others⟩, other⟩ apart _ shown _ again
        all_goals
          cases entry <;> cases shown
        all_goals
          cases other <;> cases again
        exact fun same => apart (congrArg Name.text same)
      · intro name
        rw [List.mem_filterMap]
        constructor
        · rintro ⟨⟨⟨spelling⟩ | ⟨bytes⟩, entry⟩, listed, shown⟩ <;> cases entry <;> cases shown
          exact ⟨_, _, mem_children_iff.mp listed⟩
        · rintro ⟨content, mode, there⟩
          exact ⟨_, mem_children_iff.mpr there, rfl⟩

end PageAssets.Files.FileSystem

namespace PageAssets.Batch
open Files FileSystem Page

/-- The names of the pages in a directory, in the order of their bytes, each one once. -/
structure Lists (files : FileSystem) (site : Location) (names : List String) : Prop where
  sorted : names.Pairwise fun first second => Text.bytes first < Text.bytes second
  mem : ∀ name, name ∈ names ↔
    isPageName name = true ∧ ∃ content mode, files.get? (pageAt site name) = some (.file content mode)

theorem pairwise_mergeSort_bytes {names : List String} (distinct : names.Nodup) :
    (names.mergeSort fun first second => !decide (second < first)).Pairwise fun first second =>
      Text.bytes first < Text.bytes second := by
  have ordered : (names.mergeSort fun first second => !decide (second < first)).Pairwise fun first second =>
      (!decide (second < first)) = true := by
    refine List.pairwise_mergeSort ?_ ?_ names
    · intro first second third before after
      rw [Bool.not_eq_true', decide_eq_false_iff_not, String.not_lt] at before after ⊢
      exact String.le_trans before after
    · intro first second
      rw [Bool.or_eq_true, Bool.not_eq_true', Bool.not_eq_true', decide_eq_false_iff_not, decide_eq_false_iff_not,
        String.not_lt, String.not_lt]
      exact String.le_total first second
  have apart := (List.mergeSort_perm names fun first second => !decide (second < first)).nodup_iff.mpr distinct
  refine ordered.imp₂ ?_ apart
  intro first second before differs
  simp only [Bool.not_eq_true', decide_eq_false_iff_not, String.not_lt] at before
  exact Text.bytes_lt (String.not_le.mp fun after => differs (String.le_antisymm before after))

theorem attempt_listDocuments (faults : Faults) (webDir : FilePath) (files : FileSystem) :
    faults.attempt (listDocuments webDir) files =
      (((faults.fileNames files webDir).mapError (.unreadable webDir)).map fun names =>
        (names.filter isPageName).mergeSort fun first second => !decide (second < first), files) := by
  have found : faults.attempt (failingWith (.unreadable webDir) (FileAccess.fileNames webDir)) files =
      ((faults.fileNames files webDir).mapError (.unreadable webDir), files) := attempt_failingWith rfl
  rw [listDocuments, Faults.attempt_bind, found]
  cases faults.fileNames files webDir <;> rfl

theorem listDocuments_ok {faults : Faults} {webDir : FilePath} {files after : FileSystem} {names : List String}
    (listed : faults.attempt (listDocuments webDir) files = (.ok names, after)) :
    after = files ∧ ∃ site, files.LeadsTo webDir site ∧ Lists files site names := by
  rw [attempt_listDocuments, Faults.fileNames] at listed
  cases fault : faults.listing webDir with
  | some cause =>
    rw [fault] at listed
    cases listed
  | none =>
    cases shown : files.fileNames webDir with
    | error cause =>
      rw [fault, shown] at listed
      cases listed
    | ok all =>
      rw [fault, shown] at listed
      cases listed
      obtain ⟨site, led, distinct, mem⟩ := fileNames_ok shown
      refine ⟨rfl, site, led, pairwise_mergeSort_bytes (distinct.filter _), ?_⟩
      intro name
      rw [List.mem_mergeSort, List.mem_filter, mem]
      exact And.comm

end PageAssets.Batch
