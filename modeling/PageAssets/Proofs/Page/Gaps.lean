import PageAssets.Proofs.Page.Contents
import PageAssets.Proofs.Page.Rewriting

/-! A page as its blocks and the gaps around them. Taking the page apart keeps every gap and puts a
text in place of each block that depends on the block and on those in front of it only. -/

namespace PageAssets.Page
open Markup

def slice (span : Span) (document : List Char) : List Char :=
  Text.takeBytes (span.stop - span.start) (Text.dropBytes span.start document)

def gapsFrom (offset : Nat) (document : List Char) : List Span → List (List Char)
  | [] => [Text.dropBytes offset document]
  | span :: spans => slice ⟨offset, span.start⟩ document :: gapsFrom span.stop document spans

def gaps (document : List Char) : List (List Char) :=
  gapsFrom 0 document ((placedBlocks document).map Placed.span)

/-- Texts with a gap in front of each and a last gap behind them. -/
def weave : List (List Char) → List (List Char) → List Char
  | gap :: gaps, text :: texts => gap ++ text ++ weave gaps texts
  | gaps, _ => gaps.flatten

/-- What stands in place of a block, given the blocks in front of it. -/
def successor (css js : Option (List Char)) (identity : String) (earlier : List Block) (block : Block) :
    List Char :=
  if isStyle block && css.isSome then
    if earlier.any isStyle then [] else (AssetKind.css.referenceTag identity).toList
  else if isInlineScript block && js.isSome then
    if earlier.any isInlineScript then [] else (AssetKind.js.referenceTag identity).toList
  else block.outer

def successors (css js : Option (List Char)) (identity : String) (earlier : List Block) :
    List Block → List (List Char)
  | [] => []
  | block :: rest =>
    successor css js identity earlier block :: successors css js identity (earlier ++ [block]) rest

/-- Taking a page apart, read off its blocks and gaps. -/
def dissect (document : List Char) (identity : String) : Extraction :=
  let found := blocks document
  let css := styleOf? found
  let js := scriptOf? found
  { css, js, document := weave (gaps document) (successors css js identity [] found) }

def Fate.behind (first : Fate) (met : Bool) : Fate := if met then first.next else first

theorem Fate.next_behind (first : Fate) (met : Bool) : (first.behind met).next = first.behind true := by
  cases met <;> cases first <;> rfl

def Fates.behind (css js : Option (List Char)) (identity : String) (earlier : List Block) : Fates
  | .style => (Fate.ofContent .css identity css).behind (earlier.any isStyle)
  | .inlineScript => (Fate.ofContent .js identity js).behind (earlier.any isInlineScript)
  | .externalScript => .keep

theorem Fates.behind_nil (css js : Option (List Char)) (identity : String) :
    Fates.behind css js identity [] = Fates.ofContents css js identity := by
  funext part
  cases part <;> rfl

theorem Fates.after_behind (css js : Option (List Char)) (identity : String) (earlier : List Block) (block : Block) :
    (Fates.behind css js identity earlier).after (role block) =
      Fates.behind css js identity (earlier ++ [block]) := by
  funext other
  cases other <;> cases part : role block <;>
    simp [Fates.after, Fates.behind, isStyle_eq, isInlineScript_eq, part, Fate.next_behind]

/-- The text that a block's fate leaves is the one read off the blocks in front of it. -/
theorem Fates.apply_behind (css js : Option (List Char)) (identity : String) (earlier : List Block) (block : Block) :
    (Fates.behind css js identity earlier (role block)).apply block =
      successor css js identity earlier block := by
  have style := isStyle_eq block
  have script := isInlineScript_eq block
  unfold successor
  cases part : role block with
  | style =>
    cases css <;> cases met : earlier.any isStyle <;>
      simp [style, script, part, met, Fates.behind, Fate.behind, Fate.ofContent, Fate.next, Fate.apply]
  | inlineScript =>
    cases js <;> cases met : earlier.any isInlineScript <;>
      simp [style, script, part, met, Fates.behind, Fate.behind, Fate.ofContent, Fate.next, Fate.apply]
  | externalScript => simp [style, script, part, Fates.behind, Fate.apply]

theorem slice_gap (front gap rest : List Char) :
    slice ⟨Text.byteSize front, Text.byteSize front + Text.byteSize gap⟩ (front ++ (gap ++ rest)) = gap := by
  simp only [slice, Text.dropBytes_byteSize, Nat.add_sub_cancel_left, Text.takeBytes_byteSize]

/-- Gaps and successors of the blocks make up the page that is left. The gap at the front has not
been passed yet. -/
theorem weave_gapsFrom (css js : Option (List Char)) (identity : String) (earlier : List Block)
    (parts : List Piece) (front gap : List Char) :
    weave
        (gapsFrom (Text.byteSize front) (front ++ (gap ++ parts.flatMap Piece.text))
          ((place (Text.byteSize front + Text.byteSize gap) parts).map Placed.span))
        (successors css js identity earlier (parts.filterMap Piece.block?)) =
      gap ++ rewrite (Fates.behind css js identity earlier) parts := by
  induction parts generalizing earlier front gap with
  | nil => simp [place, gapsFrom, weave, successors, rewrite, Text.dropBytes_byteSize]
  | cons piece rest ih =>
    rw [List.flatMap_cons, place, rewrite]
    cases found : piece.block? with
    | none =>
      have passed := ih earlier front (gap ++ piece.text)
      simpa [found, Nat.add_assoc] using passed
    | some block =>
      obtain rfl : piece = .block block := by cases piece <;> cases found; rfl
      have reached := ih (earlier ++ [block]) (front ++ gap ++ block.outer) []
      simp only [List.nil_append, Text.byteSize_nil, Nat.add_zero, Text.byteSize_append, List.append_assoc] at reached
      simp only [List.filterMap_cons, found, successors, List.map_cons, gapsFrom, weave, Placed.span, slice_gap,
        Piece.text, Fates.apply_behind, Fates.after_behind]
      rw [Nat.add_assoc, reached, List.append_assoc]

theorem successors_eq_texts (css js : Option (List Char)) (identity : String) (earlier found : List Block) :
    successors css js identity earlier found = (Fates.behind css js identity earlier).texts found := by
  induction found generalizing earlier with
  | nil => rfl
  | cons block rest ih => rw [successors, Fates.texts, Fates.apply_behind, Fates.after_behind, ih]

theorem weave_gaps {document : List Char} {parts : List Piece} (whole : Decomposes document parts)
    (css js : Option (List Char)) (identity : String) :
    weave (gaps document) (successors css js identity [] (blocks document)) =
      rewrite (.ofContents css js identity) parts := by
  have placed : placedBlocks document = place 0 parts := whole.blocks_eq_place 0
  have woven := weave_gapsFrom css js identity [] parts [] []
  simpa [gaps, placed, whole.blocks_eq, whole.flatMap_text, Fates.behind_nil] using woven

theorem successors_none (identity : String) (earlier found : List Block) :
    successors none none identity earlier found = found.map Block.outer := by
  induction found generalizing earlier with
  | nil => rfl
  | cons block rest ih => simp [successors, successor, ih]

theorem slice_span {parts : List Piece} {front : List Char} {placed : Placed}
    (member : placed ∈ place (Text.byteSize front) parts) :
    slice placed.span (front ++ parts.flatMap Piece.text) = placed.block.outer := by
  induction parts generalizing front with
  | nil => cases member
  | cons piece rest ih =>
    have later (inside : placed ∈ place (Text.byteSize (front ++ piece.text)) rest) := ih inside
    simp only [Text.byteSize_append, List.append_assoc] at later
    rw [place] at member
    rw [List.flatMap_cons]
    split at member
    next block found =>
      obtain rfl : piece = .block block := by cases piece <;> cases found; rfl
      rcases List.mem_cons.mp member with rfl | inside
      · exact slice_gap front block.outer _
      · exact later inside
    next => exact later member

/-- The blocks stand where their offsets say, and with the gaps around them they make up the page.
What is taken out of the page, and what is left of it, can be read off them. -/
theorem extract_eq_dissect (document : List Char) (identity : String) :
    weave (gaps document) ((blocks document).map Block.outer) = document ∧
      (∀ placed ∈ placedBlocks document, slice placed.span document = placed.block.outer) ∧
      extract document identity = dissect document identity := by
  obtain ⟨parts, whole⟩ := Decomposes.exists_parts document
  have placed : placedBlocks document = place 0 parts := whole.blocks_eq_place 0
  refine ⟨?_, ?_, ?_⟩
  · rw [← successors_none identity [], weave_gaps whole, Fates.ofContents_none, rewrite_keepAll, whole.flatMap_text]
  · intro found member
    rw [placed] at member
    have inside : slice found.span ([] ++ parts.flatMap Piece.text) = found.block.outer := slice_span member
    rwa [List.nil_append, whole.flatMap_text] at inside
  · have left := extract_document whole identity
    rw [extract_css, extract_js, ← weave_gaps whole] at left
    rw [dissect, ← left, ← extract_css document identity, ← extract_js document identity]

end PageAssets.Page
