import PageAssets.Page.Asset
import PageAssets.Page.Identity
import PageAssets.Page.Script
import PageAssets.Proofs.Markup.Segment

/-! The references that a page gets to its assets, as segments. An identity cannot end a value or
open a tag of its own, so a reference is read as it was meant, wherever it is put. -/

namespace PageAssets.Page
open Markup

variable {identity : String}

theorem isIdentityChar_of_mem (valid : isIdentity identity = true) {c : Char} (inside : c ∈ identity.toList) :
    isIdentityChar c = true := by
  unfold isIdentity at valid
  split at valid
  next => cases valid
  next first rest same =>
    simp only [Bool.and_eq_true, List.all_eq_true] at valid
    rw [same] at inside
    rcases List.mem_cons.mp inside with rfl | further
    · exact valid.1.1
    · exact valid.2 c further

/-- An identity puts no character into a tag that would end a value or open another tag. -/
theorem not_mem_identity (valid : isIdentity identity = true) {c : Char} (foreign : isIdentityChar c = false) :
    c ∉ identity.toList := by
  intro inside
  cases foreign.symm.trans (isIdentityChar_of_mem valid inside)

theorem isPlain_of_not_mem {text : List Char} (outside : '<' ∉ text) : isPlain text = true := by
  induction text with
  | nil => rfl
  | cons c rest ih =>
    have here : c ≠ '<' := fun same => outside (same ▸ List.mem_cons_self)
    have further : '<' ∉ rest := fun inside => outside (List.mem_cons_of_mem _ inside)
    simp [isPlain, ih further, here]

theorem isPlain_styleReference (valid : isIdentity identity = true) :
    isPlain (AssetKind.css.referenceTag identity).toList = true := by
  have written : (AssetKind.css.referenceTag identity).toList =
      '<' :: ("link rel=\"stylesheet\" href=\"/css/".toList ++ identity.toList ++ ".css\">".toList) := by
    simp [AssetKind.referenceTag_css]
  have outside : '<' ∉ "link rel=\"stylesheet\" href=\"/css/".toList ++ identity.toList ++ ".css\">".toList := by
    simp [not_mem_identity valid (c := '<') rfl]
  rw [written, isPlain, isPlain_of_not_mem outside]
  simp [openers, mismatches, BlockKind.tagName]

def styleReference (valid : isIdentity identity = true) : Segment :=
  .text (AssetKind.css.referenceTag identity).toList (isPlain_styleReference valid)

def scriptReference (valid : isIdentity identity = true) : Segment :=
  .block {
    kind := .script
    attributes := [{
      name := sourceName
      value := "/js/".toList ++ identity.toList ++ ".js".toList
      named := by simp [sourceName]
      plainName := rfl
      unquoted := by simp [not_mem_identity valid (c := '"') rfl] }]
    body := []
    unclosed := by simp [BlockKind.tagName] }

theorem render_scriptReference (valid : isIdentity identity = true) :
    (scriptReference valid).render = (AssetKind.js.referenceTag identity).toList := by
  simp [scriptReference, Segment.render, PlainBlock.render, PlainBlock.tag, PlainBlock.closing, BlockKind.tagName,
    PlainAttribute.render, sourceName, AssetKind.referenceTag_js]

end PageAssets.Page
