import PageAssets.Proofs.Files.Making
import PageAssets.Proofs.Files.Replacing
import PageAssets.Proofs.Page.References
import PageAssets.Page.Storage

/-! Where a page and its assets stand, seen from the directory of the pages. An identity stays below
that directory: the paths made from it lead to these locations and to no others. -/

namespace PageAssets.Files.FileSystem

variable {before after : FileSystem} {base : FilePath} {site location : Location} {content : ByteArray}

theorem Provides.keepsWays (provides : Provides before after location) : KeepsWays before after := by
  intro other entry found leads
  by_cases same : other = location
  · subst same
    exact provides.kept found
  · rw [provides.others other same, found]

theorem Rewrites.keepsWays (rewrites : Rewrites before after location content) : KeepsWays before after :=
  .of_others rewrites.others rewrites.replaced

end PageAssets.Files.FileSystem

namespace PageAssets.Page
open Files FileSystem

section Names
variable {identity fileName : String}

theorem isName_append (valid : isIdentity identity = true) {suffix : String} (slashless : '/' ∉ suffix.toList) :
    IsName (identity ++ suffix) := by
  have inside := not_mem_identity valid (c := '/') rfl
  unfold isIdentity at valid
  split at valid
  next => cases valid
  next first rest written =>
    have start : first ≠ '.' := by
      rintro rfl
      simp at valid
    rw [written] at inside
    constructor
    all_goals
      rw [String.toList_append, written]
      simp_all

theorem toList_of_isPageName (page : isPageName fileName = true) :
    fileName.toList = (baseName fileName).toList ++ htmlExtension.toList := by
  obtain ⟨front, written⟩ := List.isSuffixOf_iff_suffix.mp page
  rw [baseName, if_pos page, ← written]
  simp

theorem baseName_inj {first second : String} (page : isPageName first = true) (other : isPageName second = true)
    (same : baseName first = baseName second) : first = second := by
  rw [← String.toList_inj, toList_of_isPageName page, toList_of_isPageName other, same]

theorem append_baseName (fileName : String) :
    ∃ suffix, fileName = baseName fileName ++ suffix ∧ '/' ∉ suffix.toList := by
  by_cases page : isPageName fileName = true
  · exact ⟨htmlExtension, String.toList_inj.mp (by rw [toList_of_isPageName page, String.toList_append]), by decide⟩
  · exact ⟨"", by simp [baseName, page], by simp⟩

theorem identityOfFile_eq_ok_iff :
    identityOfFile fileName = .ok identity ↔ isIdentity identity = true ∧ baseName fileName = identity := by
  rw [identityOfFile, checkIdentity]
  by_cases valid : isIdentity (baseName fileName) = true
  · simp only [valid, if_true, bind, Except.bind, pure, Except.pure, Except.ok.injEq]
    constructor
    · rintro rfl
      exact ⟨valid, rfl⟩
    · exact And.right
  · simp only [valid, bind, Except.bind]
    constructor
    · intro impossible
      cases impossible
    · rintro ⟨accepted, rfl⟩
      exact absurd accepted valid

theorem isName_file (accepted : identityOfFile fileName = .ok identity) : IsName fileName := by
  obtain ⟨valid, rfl⟩ := identityOfFile_eq_ok_iff.mp accepted
  obtain ⟨suffix, written, slashless⟩ := append_baseName fileName
  rw [written]
  exact isName_append valid slashless

namespace AssetKind
variable (kind : AssetKind)

theorem mem_all : kind ∈ AssetKind.all := by
  cases kind <;> decide

theorem isName_extension : IsName kind.extension := by
  cases kind <;> constructor <;> decide

theorem short_extension : kind.extension.utf8ByteSize ≤ maxNameLength := by
  cases kind <;> decide

theorem isName_asset (valid : isIdentity identity = true) : IsName (identity ++ "." ++ kind.extension) := by
  rw [String.append_assoc]
  refine isName_append valid ?_
  cases kind <;> decide

/-- The directory of an asset is made as it is written in the asset's path. -/
theorem parent?_path (webDir : FilePath) (valid : isIdentity identity = true) :
    (kind.path webDir identity).parent? = some (kind.directory webDir) :=
  FilePath.parent?_join_join kind.isName_extension (kind.isName_asset valid)

end AssetKind
end Names

def pageAt (site : Location) (fileName : String) : Location := site ++ [.text fileName]

namespace AssetKind

def directoryAt (kind : AssetKind) (site : Location) : Location := site ++ [.text kind.extension]

def assetAt (kind : AssetKind) (site : Location) (identity : String) : Location :=
  kind.directoryAt site ++ [.text (identity ++ "." ++ kind.extension)]

variable {kind other : AssetKind} {site : Location} {identity second fileName : String}

theorem assetAt_ne_pageAt : kind.assetAt site identity ≠ pageAt site fileName := by
  intro same
  simpa [assetAt, directoryAt, pageAt] using congrArg List.length same

theorem assetAt_ne_directoryAt : kind.assetAt site identity ≠ other.directoryAt site := by
  intro same
  simpa [assetAt, directoryAt] using congrArg List.length same

theorem extension_inj : kind.extension = other.extension ↔ kind = other := by
  cases kind <;> cases other <;> decide

theorem assetAt_inj : kind.assetAt site identity = other.assetAt site second ↔ kind = other ∧ identity = second := by
  constructor
  · intro same
    simp only [assetAt, directoryAt, List.append_assoc, List.append_cancel_left_eq, List.cons_append, List.nil_append,
      List.cons.injEq, Name.text.injEq, and_true, extension_inj] at same
    obtain ⟨rfl, names⟩ := same
    refine ⟨rfl, ?_⟩
    rw [← String.toList_inj] at names ⊢
    simpa using names
  · rintro ⟨rfl, rfl⟩
    rfl

end AssetKind

/-- No link stands where a page, its assets and their directories are looked for. -/
structure Unlinked (files : FileSystem) (site : Location) (fileName : String) : Prop where
  page : files.NoLinkAt (pageAt site fileName)
  directory : ∀ kind : AssetKind, files.NoLinkAt (kind.directoryAt site)
  asset : ∀ kind : AssetKind, files.NoLinkAt (kind.assetAt site (baseName fileName))

end PageAssets.Page
