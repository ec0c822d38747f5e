import PageAssets.Page.Restyling
import PageAssets.Proofs.Markup.Approach
import PageAssets.Proofs.Markup.Segment
import PageAssets.Proofs.Page.Contents
import PageAssets.Proofs.Page.Rewriting

/-! Giving a page a style of its own disturbs no other block. The way to the first style is read the
same in front of the new one, and what stands behind it only moves. -/

namespace PageAssets.Markup

def Placed.shift (lost got : Nat) (placed : Placed) : Placed :=
  { placed with start := placed.start + got - lost }

theorem place_append (start : Nat) (first second : List Piece) :
    place start (first ++ second) =
      place start first ++ place (start + Text.byteSize (first.flatMap Piece.text)) second := by
  induction first generalizing start with
  | nil => simp [place]
  | cons piece rest ih =>
    rw [List.cons_append, place, place, ih, List.flatMap_cons, Text.byteSize_append, ← Nat.add_assoc]
    cases piece.block? <;> rfl

theorem mem_place {start : Nat} {parts : List Piece} {placed : Placed} (member : placed ∈ place start parts) :
    ∃ front back, parts = front ++ .block placed.block :: back ∧
      placed.start = start + Text.byteSize (front.flatMap Piece.text) := by
  induction parts generalizing start with
  | nil => cases member
  | cons piece rest ih =>
    have later (inside : placed ∈ place (start + Text.byteSize piece.text) rest) :
        ∃ front back, piece :: rest = front ++ .block placed.block :: back ∧
          placed.start = start + Text.byteSize (front.flatMap Piece.text) := by
      obtain ⟨front, back, rfl, starts⟩ := ih inside
      exact ⟨piece :: front, back, rfl, by simp [starts, Nat.add_assoc]⟩
    rw [place] at member
    cases piece with
    | block block =>
      rcases List.mem_cons.mp member with rfl | inside
      · exact ⟨[], rest, rfl, rfl⟩
      · exact later inside
    | comment | openComment | strayTag | char => exact later member

theorem place_shift (start lost got : Nat) (parts : List Piece) :
    (place (start + lost) parts).map (Placed.shift lost got) = place (start + got) parts := by
  induction parts generalizing start with
  | nil => rfl
  | cons piece rest ih =>
    have further := ih (start + Text.byteSize piece.text)
    have behind (moved : Nat) :
        start + Text.byteSize piece.text + moved = start + moved + Text.byteSize piece.text := by
      omega
    rw [behind, behind] at further
    have here : start + lost + got - lost = start + got := by omega
    rw [place, place]
    cases piece.block? with
    | none => exact further
    | some block => simp [Placed.shift, further, here]

end PageAssets.Markup

namespace PageAssets.Page
open Markup

/-- The block that a page gets in place of its first style. -/
def newStyle (style : List Char) : Block where
  kind := .style
  opening := ['<', 's', 't', 'y', 'l', 'e', '>']
  attributes := []
  inner := ['\n'] ++ style ++ ['\n', ' ', ' ', ' ', ' ']
  closing := ['<', '/', 's', 't', 'y', 'l', 'e', '>']

theorem outer_newStyle (style : List Char) : (newStyle style).outer = styleBlock style := by
  simp [newStyle, Block.outer, styleBlock]

def styleEnd : List Char := ['<', '/', 's', 't', 'y', 'l', 'e']

theorem not_infix_inner {style : List Char} (unclosed : ¬ styleEnd <:+: style.map Char.toLower) :
    ¬ styleEnd <:+: (newStyle style).inner.map Char.toLower := by
  have lower : (newStyle style).inner.map Char.toLower =
      '\n' :: (style.map Char.toLower ++ ['\n', ' ', ' ', ' ', ' ']) := by simp [newStyle]
  rw [lower]
  intro found
  rcases List.infix_cons_iff.mp found with starts | inside
  · cases (List.cons_prefix_cons.mp starts).1
  rcases List.infix_append_iff_ne_nil.mp inside with early | late | ⟨head, tail, -, remains, same, -, starts⟩
  · exact unclosed early
  · exact absurd (late.subset (a := '<') (by simp [styleEnd])) (by simp)
  · obtain ⟨c, letters, rfl⟩ := List.exists_cons_of_ne_nil remains
    obtain ⟨rfl, -⟩ := List.cons_prefix_cons.mp starts
    have inside : '\n' ∈ styleEnd := same ▸ by simp
    simp [styleEnd] at inside

theorem stands_newStyle {style : List Char} (unclosed : ¬ styleEnd <:+: style.map Char.toLower) :
    Stands (styleBlock style) [.block (newStyle style)] := by
  let plain : PlainBlock := ⟨.style, [], (newStyle style).inner, not_infix_inner unclosed⟩
  have read : plain.asRead = newStyle style := rfl
  have stands := plain.stands
  rwa [← plain.outer_asRead, read, outer_newStyle] at stands

/-- A page taken apart around its first style block. -/
structure FirstStyle (document front : List Char) (first : Block) (behind : List Char) : Prop where
  text : document = front ++ first.outer ++ behind
  found : (placedBlocks document).find? (fun placed => isStyle placed.block) = some ⟨Text.byteSize front, first⟩

/-- Where a page has a style, it can be taken apart there. -/
theorem exists_firstStyle {document : List Char} {placed : Placed}
    (found : (placedBlocks document).find? (fun placed => isStyle placed.block) = some placed) :
    ∃ front behind, FirstStyle document front placed.block behind := by
  obtain ⟨parts, whole⟩ := Decomposes.exists_parts document
  have member := List.mem_of_find?_eq_some found
  rw [placedBlocks, whole.blocks_eq_place] at member
  obtain ⟨front, back, rfl, starts⟩ := mem_place member
  refine ⟨front.flatMap Piece.text, back.flatMap Piece.text, ?_, ?_⟩
  · simp [← whole.flatMap_text, Piece.text]
  · rw [found, ← Nat.zero_add (Text.byteSize _), ← starts]

/-- A page is restyled by an exchange of its first style. -/
theorem FirstStyle.restyle? {document front behind : List Char} {first : Block}
    (here : FirstStyle document front first behind) (style : List Char) :
    restyle? document style = some (front ++ styleBlock style ++ behind) := by
  have found : (placedBlocks document).find? (fun placed => placed.block.kind = .style) = _ := here.found
  have edited := applyFrom_cons 0 front behind (styleBlock style) first []
  simp only [Nat.zero_add, ← List.append_assoc, ← here.text] at edited
  rw [Page.restyle?, found, Option.map_some, applyEdits, edited, applyFrom]

/-- A page can be restyled when it has a style, and only then. -/
theorem restyle?_eq_some_iff {document style restyled : List Char} :
    restyle? document style = some restyled ↔ ∃ front first behind,
      FirstStyle document front first behind ∧ restyled = front ++ styleBlock style ++ behind := by
  constructor
  · intro done
    have made := done
    rw [restyle?, Option.map_eq_some_iff] at made
    obtain ⟨placed, found, -⟩ := made
    obtain ⟨front, behind, here⟩ := exists_firstStyle found
    rw [here.restyle?] at done
    exact ⟨front, placed.block, behind, here, (Option.some.inj done).symm⟩
  · rintro ⟨front, first, behind, here, rfl⟩
    exact here.restyle? style

/-- The first style is the one that no other stands in front of. -/
theorem firstStyle_of_decomposes {document : List Char} {front back : List Piece} {first : Block}
    (whole : Decomposes document (front ++ .block first :: back)) (isFirst : isStyle first = true)
    (earlier : ∀ block ∈ front.filterMap Piece.block?, isStyle block = false) :
    FirstStyle document (front.flatMap Piece.text) first (back.flatMap Piece.text) := by
  refine ⟨by simp [← whole.flatMap_text, Piece.text], ?_⟩
  have passed : (place 0 front).find? (fun placed => isStyle placed.block) = none := by
    apply List.find?_eq_none.mpr
    intro placed member
    have listed := List.mem_map_of_mem (f := Placed.block) member
    rw [map_block_place] at listed
    simpa using earlier _ listed
  rw [placedBlocks, whole.blocks_eq_place, place_append, List.find?_append, passed, place, Nat.zero_add]
  simp [Piece.block?, isFirst]

theorem restyle?_eq_some {document : List Char} {front back : List Piece} {first : Block}
    (whole : Decomposes document (front ++ .block first :: back)) (isFirst : isStyle first = true)
    (earlier : ∀ block ∈ front.filterMap Piece.block?, isStyle block = false) (style : List Char) :
    restyle? document style =
      some (front.flatMap Piece.text ++ styleBlock style ++ back.flatMap Piece.text) :=
  (firstStyle_of_decomposes whole isFirst earlier).restyle? style

/-- When no tag in front of the first style hangs on what comes later, and the new style holds no
closing tag, the page has the same blocks as before but for that one. So a page that is given
several styles one after the other ends up as if it were given the last one only. -/
theorem restyle?_keeps_blocks {document here behind style : List Char} {front : List Piece} {first : Block}
    (way : Approach document front here) (reads : Reads here (.block first) behind) (isFirst : isStyle first = true)
    (earlier : ∀ block ∈ front.filterMap Piece.block?, isStyle block = false)
    (unclosed : ¬ styleEnd <:+: style.map Char.toLower) :
    ∃ restyled before after, restyle? document style = some restyled ∧
      placedBlocks document = before ++ ⟨Text.byteSize (front.flatMap Piece.text), first⟩ :: after ∧
      placedBlocks restyled = before ++ ⟨Text.byteSize (front.flatMap Piece.text), newStyle style⟩ ::
        after.map (Placed.shift (Text.byteSize first.outer) (Text.byteSize (newStyle style).outer)) ∧
      ∀ other, restyle? restyled other = restyle? document other := by
  obtain ⟨back, rest⟩ := Decomposes.exists_parts behind
  have whole := way.decomposes (.cons reads rest)
  have renewed : Decomposes (front.flatMap Piece.text ++ styleBlock style ++ behind)
      (front ++ .block (newStyle style) :: back) := by
    obtain ⟨inside, outer⟩ := reads.block_angles
    obtain rfl : '<' :: (inside ++ '>' :: behind) = here := by
      rw [← reads.text_append, Piece.text, outer]
      simp
    rw [List.append_assoc]
    exact way.exchange (by simp) (stands_newStyle unclosed _ _ rest)
  refine ⟨_, place 0 front, place (Text.byteSize (front.flatMap Piece.text) + Text.byteSize first.outer) back,
    restyle?_eq_some whole isFirst earlier style, ?_, ?_, ?_⟩
  · rw [placedBlocks, whole.blocks_eq_place, place_append, place, Nat.zero_add]
    rfl
  · rw [rest.flatMap_text, placedBlocks, renewed.blocks_eq_place, place_append, place, Nat.zero_add, place_shift]
    rfl
  · intro other
    rw [rest.flatMap_text, restyle?_eq_some renewed rfl earlier, restyle?_eq_some whole isFirst earlier]

def quotingScript : PlainBlock :=
  ⟨.script, [⟨['i', 's'], ['\'', '>'], List.cons_ne_nil _ _, rfl, by decide⟩], ['<', 's', 't', 'y', 'l', 'e', '>'],
    by decide⟩

def oldStyle : PlainBlock := ⟨.style, [], ['o'], by decide⟩

def lastStyle : PlainBlock := ⟨.style, [], ['w'], by decide⟩

def tornPage : List Char :=
  quotingScript.render ++ '<' :: 's' :: 'c' :: 'r' :: (oldStyle.render ++ lastStyle.render)

def markupStyle : List Char := "u:'<!--<style>\"</script>'".toList

theorem approach_tornPage :
    Approach tornPage (.block quotingScript.asRead :: ['<', 's', 'c', 'r'].map .char)
      (oldStyle.render ++ lastStyle.render) := by
  have different : ∀ word ∈ openers, mismatches word ['s', 'c', 'r', '<'] = true := by decide
  have angle := reads_angle_of_mismatches different (oldStyle.render ++ lastStyle.render).tail
  refine .step (quotingScript.reads _) (quotingScript.closesItself.isSteady _ _) (.step angle trivial ?_)
  exact .step (.other (by decide)) trivial
    (.step (.other (by decide)) trivial (.step (.other (by decide)) trivial .here))

theorem restyle?_keeps_blocks_tornPage :
    isStyle oldStyle.asRead = true ∧ ¬ styleEnd <:+: markupStyle.map Char.toLower ∧
      ∃ restyled before after, restyle? tornPage markupStyle = some restyled ∧
        placedBlocks tornPage = before ++ ⟨36, oldStyle.asRead⟩ :: after ∧
        placedBlocks restyled = before ++ ⟨36, newStyle markupStyle⟩ :: after.map (Placed.shift 16 46) ∧
        ∀ other, restyle? restyled other = restyle? tornPage other := by
  have unclosed : ¬ styleEnd <:+: markupStyle.map Char.toLower := Text.cutAtMark?_eq_none_iff.mp (by decide)
  refine ⟨rfl, unclosed, ?_⟩
  exact restyle?_keeps_blocks approach_tornPage (oldStyle.reads lastStyle.render) rfl (by decide) unclosed

end PageAssets.Page
