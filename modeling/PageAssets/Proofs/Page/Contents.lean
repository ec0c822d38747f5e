import PageAssets.Page.Extraction
import PageAssets.Proofs.Text.Blank

/-! What is taken out of a page, read off the blocks of the page alone. Nothing is taken out exactly
when every block that could give something is blank. -/

namespace PageAssets.Page
open Markup

def isStyle (block : Block) : Bool := block.kind = .style

/-- A script whose code is its body: none of its attributes is a `src`, in any case of the letters. -/
def isInlineScript (block : Block) : Bool :=
  block.kind = .script && block.attributes.all fun candidate => candidate.name.map Char.toLower ≠ ['s', 'r', 'c']

/-- The style in some blocks: their bodies with a blank line in between. -/
def styleOf? (found : List Block) : Option (List Char) :=
  let style := ['\n', '\n'].intercalate ((found.filter isStyle).map Block.inner)
  if Text.isBlank style then none else some style

def scriptOf? (found : List Block) : Option (List Char) :=
  let script := Text.trim (['\n', '\n'].intercalate ((found.filter isInlineScript).map Block.inner))
  if script = [] then none else some script

theorem isStyle_eq (block : Block) : isStyle block = decide (role block = .style) := by
  unfold role isStyle
  cases block.kind <;> cases scriptClass block <;> rfl

theorem isInlineScript_eq (block : Block) : isInlineScript block = decide (role block = .inlineScript) := by
  have lower : sourceName.map Char.toLower = ['s', 'r', 'c'] := rfl
  unfold role isInlineScript scriptClass namesSource sameName
  rw [lower]
  cases block.kind with
  | style => rfl
  | script =>
    cases named : block.attributes.any fun candidate => candidate.name.map Char.toLower = ['s', 'r', 'c'] <;>
      simp_all

theorem joinedBodies_filter (wanted : Block → Bool) (document : List Char) :
    joinedBodies ((placedBlocks document).filter fun placed => wanted placed.block) =
      bodySeparator.intercalate (((blocks document).filter wanted).map Block.inner) := by
  simp [joinedBodies, blocks, List.filter_map, Function.comp_def]

theorem extract_css (document : List Char) (identity : String) :
    (extract document identity).css = styleOf? (blocks document) := by
  have joined := joinedBodies_filter isStyle document
  simp only [isStyle_eq] at joined
  simp only [extract, extractedStyle?, joined, Text.trim_eq_nil_iff]
  simp only [styleOf?]
  rfl

theorem extract_js (document : List Char) (identity : String) :
    (extract document identity).js = scriptOf? (blocks document) := by
  have joined := joinedBodies_filter isInlineScript document
  simp only [isInlineScript_eq] at joined
  simp only [extract, extractedScript?, joined]
  simp only [scriptOf?]
  rfl

theorem styleOf?_eq_none_iff {found : List Block} :
    styleOf? found = none ↔ ∀ block ∈ found, isStyle block = true → Text.isBlank block.inner = true := by
  simp only [styleOf?, ite_eq_left_iff, reduceCtorEq, imp_false, Decidable.not_not]
  rw [Text.isBlank_intercalate rfl, List.forall_mem_map]
  simp only [List.mem_filter, and_imp]

theorem scriptOf?_eq_none_iff {found : List Block} :
    scriptOf? found = none ↔ ∀ block ∈ found, isInlineScript block = true → Text.isBlank block.inner = true := by
  simp only [scriptOf?, ite_eq_left_iff, reduceCtorEq, imp_false, Decidable.not_not, Text.trim_eq_nil_iff]
  rw [Text.isBlank_intercalate rfl, List.forall_mem_map]
  simp only [List.mem_filter, and_imp]

end PageAssets.Page
