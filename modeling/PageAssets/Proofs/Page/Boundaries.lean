import PageAssets.Page.Script
import PageAssets.Proofs.Markup.Cutting
import PageAssets.Proofs.Page.Restyling

/-! The blocks of a page hold on their own. The end of a block is a place where the page can be cut, and
a block that is cut out on both sides is read as the block that it was. -/

namespace PageAssets.Markup

/-- A block takes some of the text, and does not reach out of it. -/
theorem Decomposes.mem_place_bounds {text : List Char} {start : Nat} {parts : List Piece} {placed : Placed}
    (whole : Decomposes text parts) (member : placed ∈ place start parts) :
    start ≤ placed.start ∧ placed.start < placed.span.stop ∧ placed.span.stop ≤ start + Text.byteSize text := by
  obtain ⟨front, back, rfl, starts⟩ := mem_place member
  obtain ⟨inside, outer⟩ := whole.reads_alone.block_angles
  have size := congrArg Text.byteSize whole.flatMap_text
  rw [List.flatMap_append, List.flatMap_cons, Text.byteSize_append, Text.byteSize_append] at size
  have taken := Char.utf8Size_pos '<'
  simp only [Placed.span, Piece.text, outer, Text.byteSize_cons] at size ⊢
  omega

/-- At a place between two pieces, the blocks in front of it are those of the text in front, and the
blocks behind it are those of the text behind. -/
theorem Decomposes.placedBlocks_append {document : List Char} {front back : List Piece}
    (whole : Decomposes document (front ++ back)) :
    let size := Text.byteSize (front.flatMap Piece.text)
    placedBlocks (front.flatMap Piece.text) = (placedBlocks document).filter (fun placed => placed.span.stop ≤ size) ∧
      (placedBlocks (back.flatMap Piece.text)).map (Placed.shift 0 size) =
        (placedBlocks document).filter (fun placed => size ≤ placed.start) ∧
      placedBlocks document = placedBlocks (front.flatMap Piece.text) ++
        (placedBlocks (back.flatMap Piece.text)).map (Placed.shift 0 size) := by
  intro size
  obtain ⟨early, late⟩ := whole.cut
  have moved := place_shift 0 0 size back
  rw [Nat.zero_add, Nat.zero_add] at moved
  rw [placedBlocks, placedBlocks, placedBlocks, whole.blocks_eq_place, early.blocks_eq_place, late.blocks_eq_place,
    place_append, moved, Nat.zero_add, List.filter_append, List.filter_append]
  have before : ∀ placed ∈ place 0 front, placed.start < placed.span.stop ∧ placed.span.stop ≤ size := by
    intro placed member
    have bounds := early.mem_place_bounds member
    omega
  have behind : ∀ placed ∈ place size back, size ≤ placed.start ∧ placed.start < placed.span.stop :=
    fun placed member => ⟨(late.mem_place_bounds member).1, (late.mem_place_bounds member).2.1⟩
  refine ⟨?_, ?_, rfl⟩
  · rw [List.filter_eq_self.mpr, List.filter_eq_nil_iff.mpr, List.append_nil]
    · intro placed member
      have := behind placed member
      simp only [decide_eq_true_eq]
      omega
    · exact fun placed member => decide_eq_true (before placed member).2
  · rw [List.filter_eq_nil_iff.mpr, List.filter_eq_self.mpr, List.nil_append]
    · exact fun placed member => decide_eq_true (behind placed member).1
    · intro placed member
      have := before placed member
      simp only [decide_eq_true_eq]
      omega

/-- The end of a block is a clean cut. What is found up to there is what is found in the text up to
there, and what is found behind is what is found in the text behind. -/
theorem placedBlocks_cut {document : List Char} {placed : Placed} (found : placed ∈ placedBlocks document) :
    let stop := placed.span.stop
    let front := Text.takeBytes stop document
    let back := Text.dropBytes stop document
    document = front ++ back ∧ Text.byteSize front = stop ∧
      placedBlocks front = (placedBlocks document).filter (fun other => other.span.stop ≤ stop) ∧
      (placedBlocks back).map (Placed.shift 0 stop) =
        (placedBlocks document).filter (fun other => stop ≤ other.start) ∧
      placedBlocks document = placedBlocks front ++ (placedBlocks back).map (Placed.shift 0 stop) := by
  intro stop front back
  obtain ⟨parts, whole⟩ := Decomposes.exists_parts document
  rw [placedBlocks, whole.blocks_eq_place] at found
  obtain ⟨earlier, later, rfl, starts⟩ := mem_place found
  rw [← List.singleton_append, ← List.append_assoc] at whole
  have text := whole.flatMap_text
  rw [List.flatMap_append] at text
  have size : stop = Text.byteSize ((earlier ++ [Piece.block placed.block]).flatMap Piece.text) := by
    simp [stop, Placed.span, starts, Piece.text]
  have before : front = (earlier ++ [Piece.block placed.block]).flatMap Piece.text := by
    simp only [front]
    rw [size, ← text, Text.takeBytes_byteSize]
  have behind : back = later.flatMap Piece.text := by
    simp only [back]
    rw [size, ← text, Text.dropBytes_byteSize]
  rw [before, behind, size]
  exact ⟨text.symm, rfl, whole.placedBlocks_append⟩

end PageAssets.Markup

namespace PageAssets.Page
open Markup

/-- A script with a quote in its tag that nothing closes. -/
def openQuoteScript : Block where
  kind := .script
  opening := "<script a=\">".toList
  attributes := [⟨['a'], some []⟩]
  inner := ['x']
  closing := "</script>".toList

def openQuotePage : List Char := openQuoteScript.outer ++ lastStyle.render

theorem decomposes_openQuotePage : Decomposes openQuotePage [.block openQuoteScript, .block lastStyle.asRead] := by
  have named : StartsWithName .script (openQuotePage.drop 1) (openQuotePage.drop 7) :=
    openingName?_eq_some_iff.mp (by decide)
  have opened : (readAttributes (openQuotePage.drop 7)).2 = none := by
    rw [readAttributes]
    rfl
  have alone : (readAttributes " a=\"".toList).1 = openQuoteScript.attributes := by
    rw [readAttributes]
    rfl
  have angle : ¬ ['>'] <:+: " a=\"".toList := Text.cutAtMark?_eq_none_iff.mp (by decide)
  have ends := (readTag?_of_open opened).mpr ⟨_, rfl, angle, alone⟩
  have closes : IsClosingTag .script openQuoteScript.closing := ⟨"script".toList, [], rfl, by decide, by simp⟩
  have first : ¬ HoldsClosingTag .script openQuoteScript.inner := cutAtClosingTag?_eq_none_iff.mp (by decide)
  have reads := @Reads.block .script "script a=\">".toList _ _ _ lastStyle.render _ named ends closes first
  exact .cons reads lastStyle.stands.decomposes

theorem placedBlocks_cut_openQuotePage :
    ⟨0, openQuoteScript⟩ ∈ placedBlocks openQuotePage ∧
      placedBlocks openQuotePage = placedBlocks (Text.takeBytes 22 openQuotePage) ++
        (placedBlocks (Text.dropBytes 22 openQuotePage)).map (Placed.shift 0 22) := by
  have found : (⟨0, openQuoteScript⟩ : Placed) ∈ placedBlocks openQuotePage := by
    rw [placedBlocks, decomposes_openQuotePage.blocks_eq_place]
    exact List.mem_cons_self
  obtain ⟨-, -, -, -, split⟩ := placedBlocks_cut found
  exact ⟨found, split⟩

/-- A block is self-contained: its text alone is a document of one block, the same one, that takes up
the whole text. So the class of a script can be told from its text as well as from its attributes. -/
theorem placedBlocks_outer {document : List Char} {block : Block} (found : block ∈ blocks document) :
    placedBlocks block.outer = [⟨0, block⟩] ∧
      (⟨0, block⟩ : Placed).span = ⟨0, Text.byteSize block.outer⟩ ∧
      (block.kind = .script → scriptClassOfTag? block.outer = some (scriptClass block)) := by
  obtain ⟨parts, whole⟩ := Decomposes.exists_parts document
  rw [whole.blocks_eq] at found
  obtain ⟨piece, member, shown⟩ := List.mem_filterMap.mp found
  obtain ⟨front, back, rfl⟩ := List.append_of_mem member
  obtain rfl : piece = .block block := by
    cases piece <;> cases shown
    rfl
  have alone : Decomposes block.outer [.block block] := .cons whole.reads_alone .nil
  have placed : placedBlocks block.outer = [⟨0, block⟩] := alone.blocks_eq_place 0
  refine ⟨placed, by rw [Placed.span, Nat.zero_add], ?_⟩
  intro script
  rw [scriptClassOfTag?, blocks, placed]
  simp [script]

theorem placedBlocks_outer_openQuotePage :
    openQuoteScript ∈ blocks openQuotePage ∧ placedBlocks openQuoteScript.outer = [⟨0, openQuoteScript⟩] ∧
      scriptClassOfTag? openQuoteScript.outer = some .inline := by
  have found : openQuoteScript ∈ blocks openQuotePage := by
    rw [decomposes_openQuotePage.blocks_eq]
    exact List.mem_cons_self
  obtain ⟨placed, -, script⟩ := placedBlocks_outer found
  exact ⟨found, placed, script rfl⟩

end PageAssets.Page
