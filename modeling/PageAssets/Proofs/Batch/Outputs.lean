import PageAssets.Proofs.Batch.Slots
import PageAssets.Proofs.Files.Naming
import PageAssets.Proofs.Markup.Spelling

/-! What an identity gives names to: a page, a style and a script. Each has one name in one directory,
and the name alone tells which of them it is and whose. -/

namespace PageAssets.Page
open Files FileSystem Markup

section Identities
variable {identity second fileName : String}

/-- A letter, a digit or one of three signs, all of them of ASCII. -/
def IsSafe (c : Char) : Prop :=
  'A' ≤ c ∧ c ≤ 'Z' ∨ 'a' ≤ c ∧ c ≤ 'z' ∨ '0' ≤ c ∧ c ≤ '9' ∨ c = '_' ∨ c = '-' ∨ c = '.'

theorem isIdentityChar_iff {c : Char} : isIdentityChar c = true ↔ IsSafe c := by
  have upper : c.isUpper = true ↔ 'A' ≤ c ∧ c ≤ 'Z' := decide_eq_true_iff
  have lower : c.isLower = (decide ('a' ≤ c) && decide (c ≤ 'z')) := rfl
  have digit : c.isDigit = (decide ('0' ≤ c) && decide (c ≤ '9')) := rfl
  have letter : c.isAlphanum = (c.isUpper || c.isLower || c.isDigit) := rfl
  simp only [isIdentityChar, letter, upper, lower, digit, IsSafe, Bool.or_eq_true, Bool.and_eq_true, decide_eq_true_eq,
    or_assoc]

theorem isIdentity_iff :
    isIdentity identity = true ↔
      identity ≠ "" ∧ (∀ c ∈ identity.toList, IsSafe c) ∧ identity.toList.head? ≠ some '.' := by
  rw [isIdentity, ← String.toList_inj.ne]
  cases identity.toList with
  | nil => simp
  | cons first rest =>
    simp only [← isIdentityChar_iff, Bool.and_eq_true, List.all_eq_true, bne_iff_ne, List.forall_mem_cons]
    simpa using and_right_comm

theorem checkIdentity_eq_ok_iff : checkIdentity identity = .ok () ↔ isIdentity identity = true := by
  rw [checkIdentity]
  split <;> simp_all

theorem identityOfFile_inj (page : isPageName fileName = true) (other : isPageName second = true)
    (accepted : identityOfFile fileName = .ok identity) (again : identityOfFile second = .ok identity) :
    fileName = second := by
  obtain ⟨-, rfl⟩ := identityOfFile_eq_ok_iff.mp accepted
  exact baseName_inj page other (identityOfFile_eq_ok_iff.mp again).2.symm

end Identities

inductive Output where
  | page
  | asset (kind : AssetKind)
  deriving DecidableEq

namespace Output

def suffix : Output → String
  | page => htmlExtension
  | asset kind => "." ++ kind.extension

def name (output : Output) (identity : String) : String := identity ++ output.suffix

def directory (output : Output) (webDir : FilePath) : FilePath :=
  match output with
  | page => webDir
  | asset kind => kind.directory webDir

def path (output : Output) (webDir : FilePath) (identity : String) : FilePath :=
  match output with
  | page => webDir.join (fileOfIdentity identity)
  | asset kind => kind.path webDir identity

variable {output other : Output} {identity second fileName : String} {webDir : FilePath}

theorem path_eq_join (output : Output) (webDir : FilePath) (identity : String) :
    output.path webDir identity = (output.directory webDir).join (output.name identity) := by
  cases output with
  | page => rfl
  | asset kind =>
    rw [path, name, suffix, ← String.append_assoc]
    rfl

theorem name_page (page : isPageName fileName = true) : Output.page.name (baseName fileName) = fileName := by
  rw [← String.toList_inj, toList_of_isPageName page]
  exact String.toList_append

theorem isName (valid : isIdentity identity = true) : IsName (output.name identity) := by
  refine isName_append valid ?_
  rcases output with _ | kind
  · decide
  · cases kind <;> decide

theorem eq_of_suffix (ends : output.suffix.toList <:+ other.suffix.toList) : output = other := by
  rcases output with _ | kind <;> rcases other with _ | second
  · rfl
  · cases second <;> revert ends <;> decide
  · cases kind <;> revert ends <;> decide
  · cases kind <;> cases second <;> revert ends <;> decide

/-- No name ends as one of another sort does, so the ends tell the sorts apart. -/
theorem name_inj (same : output.name identity = other.name second) : output = other ∧ identity = second := by
  have letters : identity.toList ++ output.suffix.toList = second.toList ++ other.suffix.toList := by
    simpa [name] using congrArg String.toList same
  obtain rfl : output = other := by
    rcases List.suffix_or_suffix_of_suffix ⟨_, letters⟩ ⟨_, rfl⟩ with ends | ends
    · exact eq_of_suffix ends
    · exact (eq_of_suffix ends).symm
  exact ⟨rfl, String.toList_inj.mp (List.append_cancel_right letters)⟩

/-- An output has one name, right in its directory, whatever the directory is written like and wherever
it is. -/
structure Stands (output : Output) (webDir : FilePath) (identity : String) : Prop where
  named : IsName (output.name identity)
  joined : output.path webDir identity = (output.directory webDir).join (output.name identity)
  steps : (output.path webDir identity).steps =
    (output.directory webDir).steps ++ [.enter (.text (output.name identity))]
  names : ∀ files : FileSystem, ∀ directory name, files.Names (output.path webDir identity) directory name ↔
    files.LeadsTo (output.directory webDir) directory ∧ name = .text (output.name identity)

theorem stands (valid : isIdentity identity = true) (output : Output) (webDir : FilePath) :
    output.Stands webDir identity := by
  have joined := output.path_eq_join webDir identity
  refine ⟨isName valid, joined, ?_, ?_⟩
  · rw [joined]
    exact FilePath.steps_join (isName valid)
  · intro files directory name
    rw [joined]
    exact names_join_iff (isName valid)

/-- Two outputs whose paths end in the same step are the same. -/
theorem Stands.eq_of_steps (one : output.Stands webDir identity) (again : other.Stands webDir second)
    (same : (output.path webDir identity).steps = (other.path webDir second).steps) :
    output = other ∧ identity = second := by
  rw [one.steps, again.steps] at same
  obtain ⟨-, last⟩ := List.append_inj' same rfl
  exact name_inj (by simpa using last)

theorem Stands.eq_of_names (one : output.Stands webDir identity) (again : other.Stands webDir second) {files : FileSystem}
    {directory place : Location} {name : Name} (first : files.Names (output.path webDir identity) directory name)
    (further : files.Names (other.path webDir second) place name) : output = other ∧ identity = second := by
  obtain ⟨-, rfl⟩ := (one.names files directory name).mp first
  obtain ⟨-, same⟩ := (again.names files place _).mp further
  exact name_inj (by simpa using same)

end Output

/-- A text starts with a tag of an element, and the tag has one attribute of some name: a path from the top of
the site. -/
def RefersTo (text element key target : List Char) : Prop :=
  ∃ inside attributes behind, text = '<' :: (element ++ inside) ∧ inside.head? = some ' ' ∧
    readTag? inside = some (attributes, behind) ∧
    attributes.filter (·.name = key) = [⟨key, some ('/' :: target)⟩]

namespace AssetKind
variable {identity : String}

def element : AssetKind → String
  | css => "link"
  | js => "script"

def key : AssetKind → List Char
  | css => ['h', 'r', 'e', 'f']
  | js => sourceName

def target (kind : AssetKind) (identity : String) : String :=
  kind.extension ++ "/" ++ (Output.asset kind).name identity

def relation : PlainAttribute where
  name := ['r', 'e', 'l']
  value := ['s', 't', 'y', 'l', 'e', 's', 'h', 'e', 'e', 't']
  named := List.cons_ne_nil _ _
  plainName := rfl
  unquoted := by decide

def naming (kind : AssetKind) (target : List Char) (unquoted : '"' ∉ target) : PlainAttribute where
  name := kind.key
  value := '/' :: target
  named := by cases kind <;> exact List.cons_ne_nil _ _
  plainName := by cases kind <;> rfl
  unquoted := by simp [unquoted]

def referenceAttributes (kind : AssetKind) (target : List Char) (unquoted : '"' ∉ target) : List PlainAttribute :=
  match kind with
  | css => [relation, css.naming target unquoted]
  | js => [js.naming target unquoted]

theorem unquoted_target (valid : isIdentity identity = true) (kind : AssetKind) :
    '"' ∉ (kind.target identity).toList := by
  have inside := not_mem_identity valid (c := '"') rfl
  cases kind <;> simp [target, Output.name, Output.suffix, extension, inside]

def behindTag : AssetKind → String
  | css => ""
  | js => "</script>"

theorem toList_referenceTag (kind : AssetKind) (unquoted : '"' ∉ (kind.target identity).toList) :
    (kind.referenceTag identity).toList = '<' :: (kind.element.toList ++
      ((kind.referenceAttributes _ unquoted).flatMap PlainAttribute.render ++ '>' :: kind.behindTag.toList)) := by
  cases kind <;>
    simp [referenceTag_css, referenceTag_js, element, behindTag, referenceAttributes, relation, naming, key, sourceName,
      target, extension, Output.name, Output.suffix, PlainAttribute.render]

theorem refersTo_referenceTag (valid : isIdentity identity = true) (kind : AssetKind) :
    RefersTo (kind.referenceTag identity).toList kind.element.toList kind.key (kind.target identity).toList := by
  have unquoted := unquoted_target valid kind
  have read := PlainAttribute.readAttributes_render (kind.referenceAttributes _ unquoted) kind.behindTag.toList
  refine ⟨_, _, _, kind.toList_referenceTag unquoted, ?_, by rw [readTag?, read], ?_⟩
  · cases kind <;> rfl
  · generalize (kind.target identity).toList = target at unquoted
    cases kind <;> simp [referenceAttributes, PlainAttribute.asRead, relation, naming, key, sourceName]

/-- Seen from the directory of the pages, the path of an asset is what a reference to it says. -/
theorem path_eq_target (valid : isIdentity identity = true) (kind : AssetKind) (webDir : FilePath) :
    kind.path webDir identity = webDir.join (kind.target identity) := by
  rw [target, ← FilePath.join_join kind.isName_extension]
  · exact (Output.asset kind).path_eq_join webDir identity
  · exact FilePath.isAbsolute_of_slashless (Output.isName valid).slashless

end AssetKind
end PageAssets.Page
