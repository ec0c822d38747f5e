import PageAssets.Proofs.Offsets.Blocks
import PageAssets.Proofs.Page.Restyling

/-! Pages that are rewritten by offsets. All blocks are found first, and the text between the edits is then
copied by offsets into the page as it was. Main statement: whatever the page is, nothing of this fails or
goes on for ever, and it comes to what is said of the text of the page. -/

namespace PageAssets.Offsets
open Text Markup Page

section Programs
variable (document : List Char)

/-- Copies a document from a cursor on, with some edits made to it. -/
def paste (cursor : Nat) : List Edit → Checked (List Char)
  | [] => sliceFrom document cursor
  | edit :: rest => do
    let kept ← slice document cursor edit.span.start
    let others ← paste edit.span.stop rest
    return kept ++ edit.replacement ++ others

def extractByOffsets (identity : String) : Checked Extraction := do
  let found ← readBlocks document
  let styles := found.filter fun placed => role placed.block = .style
  let scripts := found.filter fun placed => role placed.block = .inlineScript
  let css := extractedStyle? styles
  let js := extractedScript? scripts
  let edits := referenceEdits .css identity css styles ++ referenceEdits .js identity js scripts
  return { css, js, document := ← paste document 0 (sortEdits edits) }

def restyleByOffsets? (style : List Char) : Checked (Option (List Char)) := do
  let found ← readBlocks document
  match found.find? fun placed => placed.block.kind = .style with
  | none => return none
  | some placed => return some (← paste document 0 [⟨placed.span, styleBlock style⟩])

def scriptClassByOffsets? : Checked (Option ScriptClass) := do
  let found ← readBlocks document
  return (found.find? fun placed => placed.block.kind = .script).map fun placed => scriptClass placed.block

end Programs

section Pasting
variable {document text rest : List Char} {cursor offset : Nat}

/-- The range of an edit starts and stops between two characters, behind a cursor. -/
structure Cuts (document : List Char) (cursor : Nat) (span : Span) : Prop where
  behind : cursor ≤ span.start
  ordered : span.start ≤ span.stop
  starts : ∃ rest, At document span.start rest
  stops : ∃ rest, At document span.stop rest

/-- Edits that stand in order, apart and between characters are made without a fault. -/
theorem paste_eq {edits : List Edit} (here : At document cursor text)
    (ordered : (edits.map Edit.span).Pairwise fun first second => first.stop ≤ second.start)
    (cuts : ∀ span ∈ edits.map Edit.span, Cuts document cursor span) :
    paste document cursor edits = pure (applyFrom cursor text edits) := by
  induction edits generalizing cursor text with
  | nil => exact here.sliceFrom
  | cons edit others ih =>
    rw [List.map_cons] at ordered cuts
    obtain ⟨first, further⟩ := List.pairwise_cons.mp ordered
    have cut := cuts edit.span List.mem_cons_self
    obtain ⟨inside, starts⟩ := cut.starts
    obtain ⟨behind, stops⟩ := cut.stops
    obtain ⟨kept, rfl, start⟩ := here.exists_run starts cut.behind
    obtain ⟨gone, rfl, stop⟩ := starts.exists_run stops cut.ordered
    have left (span : Span) (member : span ∈ others.map Edit.span) : Cuts document edit.span.stop span := by
      have whole := cuts span (List.mem_cons_of_mem _ member)
      exact ⟨first span member, whole.ordered, whole.starts, whole.stops⟩
    have size : edit.span.start - cursor = byteSize kept := by omega
    have passed : edit.span.stop - cursor = byteSize (kept ++ gone) := by
      rw [byteSize_append]
      omega
    have sliced : slice document cursor edit.span.start = pure kept := by
      rw [start]
      exact here.slice
    rw [paste, sliced, pure_bind, ih stops further left, pure_bind, applyFrom, size, passed, takeBytes_byteSize,
      ← List.append_assoc, dropBytes_byteSize]

/-- Edits to blocks, in the order of the document, are made without a fault. -/
theorem paste_blocks {edits : List Edit}
    (blocks : (edits.map Edit.span).Sublist ((placedBlocks document).map Placed.span)) :
    paste document 0 edits = pure (applyEdits document edits) := by
  obtain ⟨parts, whole⟩ := Decomposes.exists_parts document
  have placed : placedBlocks document = place 0 parts := whole.blocks_eq_place 0
  rw [placed] at blocks
  refine paste_eq (At.start document) ?_ ?_
  · refine List.Pairwise.sublist blocks (List.pairwise_map.mpr ?_)
    exact (whole.place_pairwise 0).imp fun apart => apart.2
  · intro span member
    obtain ⟨block, inside, rfl⟩ := List.mem_map.mp (blocks.subset member)
    obtain ⟨front, back, rfl, start⟩ := mem_place inside
    have text := whole.flatMap_text
    rw [List.flatMap_append, List.flatMap_cons] at text
    have here : At document block.start (block.block.outer ++ back.flatMap Piece.text) := by
      rw [← text, start, Nat.zero_add]
      exact At.behind _ _
    exact ⟨Nat.zero_le _, Nat.le_add_right _ _, ⟨_, here⟩, ⟨_, here.advance⟩⟩

end Pasting

section Outcomes
variable (document : List Char)

/-- The edits of a role are made to blocks of the document, and in their order once they are sorted. -/
theorem sublist_sortEdits {css js : Option (List Char)} (identity : String) :
    ((sortEdits
        (referenceEdits .css identity css ((placedBlocks document).filter fun placed => role placed.block = .style) ++
          referenceEdits .js identity js
            ((placedBlocks document).filter fun placed => role placed.block = .inlineScript))).map Edit.span).Sublist
      ((placedBlocks document).map Placed.span) := by
  obtain ⟨parts, whole⟩ := Decomposes.exists_parts document
  have placed : placedBlocks document = place 0 parts := whole.blocks_eq_place 0
  have both := Fates.edits_perm (.ofContents css js identity) (place 0 parts) rfl
  have sorted := Fates.sort_edits (.ofContents css js identity) whole 0 both
  simp only [Fates.ofContents, Fate.edits_ofContent] at sorted
  rw [placed, sorted]
  exact Fates.spans_edits _ _

theorem extractByOffsets_eq (identity : String) :
    extractByOffsets document identity = pure (extract document identity) := by
  rw [extractByOffsets, readBlocks_eq, pure_bind]
  simp only [paste_blocks (sublist_sortEdits document identity), pure_bind]
  rfl

theorem restyleByOffsets?_eq (style : List Char) :
    restyleByOffsets? document style = pure (restyle? document style) := by
  rw [restyleByOffsets?, readBlocks_eq, pure_bind, restyle?]
  split
  next missing => rw [missing, Option.map_none]
  next placed found =>
    have member := List.mem_of_find?_eq_some found
    have blocks : (List.map Edit.span [⟨placed.span, styleBlock style⟩]).Sublist
        ((placedBlocks document).map Placed.span) :=
      List.singleton_sublist.mpr (List.mem_map_of_mem member)
    rw [paste_blocks blocks, pure_bind, found, Option.map_some]

theorem scriptClassByOffsets?_eq : scriptClassByOffsets? document = pure (scriptClassOfTag? document) := by
  rw [scriptClassByOffsets?, readBlocks_eq, pure_bind, scriptClassOfTag?, blocks, List.find?_map, Option.map_map]
  rfl

end Outcomes

/-- Nothing that is done by offsets fails or goes on for ever. From any place between two characters of a
document each loop comes to its end, and each of its turns moves on within the document. Every range that is
found can be read back, and the page is rewritten without a fault. -/
theorem offsets_safe (front text : List Char) (identity : String) (style : List Char) :
    let document := front ++ text
    (∃ result, Runs (searchTurn document) (SearchAdvance document) (byteSize front) result) ∧
    (∃ result, Runs (attributesTurn document) (AttributesAdvance document) (byteSize front, []) result) ∧
    (∀ kind, ∃ result, Runs (closingTurn document kind) (ClosingAdvance document) (byteSize front) result) ∧
    (∃ result, Runs (blocksTurn document) (BlocksAdvance document) (0, []) result) ∧
    readBlocks document = pure (placedBlocks document) ∧
    readOuter document = pure ((blocks document).map Block.outer) ∧
    extractByOffsets document identity = pure (extract document identity) ∧
    restyleByOffsets? document style = pure (restyle? document style) ∧
    scriptClassByOffsets? document = pure (scriptClassOfTag? document) := by
  intro document
  have here : At document (byteSize front) text := At.behind front text
  obtain ⟨next, searched, -⟩ := here.nextBlock
  obtain ⟨attributes, stop, tokenised, -⟩ := here.attributes
  obtain ⟨found, scanned, -⟩ := (At.start document).blocks
  refine ⟨⟨_, searched⟩, ⟨_, tokenised []⟩, ?_, ⟨_, scanned []⟩, readBlocks_eq document, readOuter_eq document,
    extractByOffsets_eq document identity, restyleByOffsets?_eq document style, scriptClassByOffsets?_eq document⟩
  intro kind
  obtain ⟨place, closed, -⟩ := here.closing kind
  exact ⟨place, closed⟩

end PageAssets.Offsets
