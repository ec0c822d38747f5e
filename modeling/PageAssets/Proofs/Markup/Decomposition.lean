import Mathlib.Logic.ExistsUnique
import PageAssets.Proofs.Markup.Readers

/-! The grammar of documents. Every document is a sequence of pieces in exactly one way, and the
search finds the blocks among them, although it jumps over the text in between. -/

namespace PageAssets.Markup

/-- A document starts with a piece, and the text behind the piece. The alternatives look as far
ahead as their conditions say: a block up to its closing tag, an opening tag that nothing closes
and an open comment to the end of the document. -/
inductive Reads : List Char → Piece → List Char → Prop where
  | block {kind : BlockKind} {tag rest inner closing behind : List Char} {attributes : List Attribute}
      (named : StartsWithName kind (tag ++ (inner ++ closing ++ behind)) rest)
      (ends : readTag? rest = some (attributes, inner ++ closing ++ behind))
      (closes : IsClosingTag kind closing) (first : ¬ HoldsClosingTag kind inner) :
      Reads ('<' :: (tag ++ (inner ++ closing ++ behind)))
        (.block ⟨kind, '<' :: tag, attributes, inner, closing⟩) behind
  | comment {inside behind : List Char} (first : ¬ ['-', '-', '>'] <:+: inside) :
      Reads ('<' :: (['!', '-', '-'] ++ (inside ++ ['-', '-', '>'] ++ behind)))
        (.comment ('<' :: (['!', '-', '-'] ++ (inside ++ ['-', '-', '>'])))) behind
  | strayTag {kind : BlockKind} {tag rest body : List Char} {attributes : List Attribute}
      (named : StartsWithName kind (tag ++ body) rest) (ends : readTag? rest = some (attributes, body))
      (unclosed : ¬ HoldsClosingTag kind body) :
      Reads ('<' :: (tag ++ body)) (.strayTag ('<' :: tag)) body
  | other {c : Char} {text : List Char} (plain : c ≠ '<') : Reads (c :: text) (.char c) text
  | angle {text : List Char} (comment : ¬ ['!', '-', '-'] <+: text)
      (tag : ∀ kind rest, StartsWithName kind text rest → '>' ∉ rest) :
      Reads ('<' :: text) (.char '<') text
  | openComment {inside : List Char} (unclosed : ¬ ['-', '-', '>'] <:+: inside) :
      Reads ('<' :: (['!', '-', '-'] ++ inside)) (.openComment ('<' :: (['!', '-', '-'] ++ inside))) []

/-- Consecutive pieces that make up a document from its start to its end. -/
inductive Decomposes : List Char → List Piece → Prop where
  | nil : Decomposes [] []
  | cons {document rest : List Char} {piece : Piece} {others : List Piece}
      (first : Reads document piece rest) (further : Decomposes rest others) :
      Decomposes document (piece :: others)

namespace Reads
variable {document rest : List Char} {piece : Piece}

theorem text_append (reads : Reads document piece rest) : piece.text ++ rest = document := by
  cases reads <;> simp [Piece.text, Block.outer]

theorem length_lt (reads : Reads document piece rest) : rest.length < document.length := by
  cases reads <;> simp <;> omega

/-- In front of other text than an opening angle there is nothing but characters. -/
theorem of_plain {c : Char} {text : List Char} (plain : c ≠ '<') (reads : Reads (c :: text) piece rest) :
    piece = .char c ∧ rest = text := by
  cases reads with
  | other => exact ⟨rfl, rfl⟩
  | block | comment | strayTag | angle | openComment => exact absurd rfl plain

end Reads

namespace Decomposes
variable {document : List Char} {parts : List Piece}

theorem flatMap_text (whole : Decomposes document parts) : parts.flatMap Piece.text = document := by
  induction whole with
  | nil => rfl
  | cons first _ ih => rw [List.flatMap_cons, ih, first.text_append]

end Decomposes

theorem StartsWithName.not_comment {kind : BlockKind} {text rest : List Char}
    (named : StartsWithName kind text rest) : List.isPrefixOf? ['!', '-', '-'] text = none := by
  obtain ⟨name, rfl, same, -⟩ := named
  cases name with
  | nil => cases kind <;> simp [sameName, BlockKind.tagName] at same
  | cons c name =>
    have different : c ≠ '!' := by
      rintro rfl
      exact not_mem_name same (by simp) List.mem_cons_self
    simp [Text.isPrefixOf?_cons, different]

theorem readMarkup_of_tag {kind : BlockKind} {text rest body : List Char} {attributes : List Attribute}
    (named : StartsWithName kind text rest) (ends : readTag? rest = some (attributes, body)) :
    readMarkup text = readBlock kind attributes ('<' :: Text.upTo body text) body := by
  have opened := openingTag?_eq_some_iff.mpr ⟨rest, named, ends⟩
  simp [readMarkup, named.not_comment, opened]

theorem readMarkup_of_comment {body inside behind : List Char}
    (cut : Text.cutAtMark? ['-', '-', '>'] body = some (inside, behind)) :
    readMarkup (['!', '-', '-'] ++ body) =
      (.comment ('<' :: Text.upTo behind (['!', '-', '-'] ++ body)), behind) := by
  simp only [readMarkup, Text.isPrefixOf?_append, cut]

theorem readMarkup_of_openComment {body : List Char} (cut : Text.cutAtMark? ['-', '-', '>'] body = none) :
    readMarkup (['!', '-', '-'] ++ body) = (.openComment ('<' :: (['!', '-', '-'] ++ body)), []) := by
  simp only [readMarkup, Text.isPrefixOf?_append, cut]

theorem readMarkup_reads (text : List Char) :
    Reads ('<' :: text) (readMarkup text).1 (readMarkup text).2 := by
  by_cases comment : ['!', '-', '-'] <+: text
  · obtain ⟨body, rfl⟩ := comment
    cases cut : Text.cutAtMark? ['-', '-', '>'] body with
    | none =>
      rw [readMarkup_of_openComment cut]
      exact .openComment (Text.cutAtMark?_eq_none_iff.mp cut)
    | some parts =>
      obtain ⟨inside, behind⟩ := parts
      rw [readMarkup_of_comment cut]
      obtain ⟨rfl, first⟩ := cutAtCommentEnd_eq_some_iff.mp cut
      have read := Text.upTo_append_self (['!', '-', '-'] ++ (inside ++ ['-', '-', '>'])) behind
      rw [List.append_assoc _ _ behind] at read
      rw [read]
      exact .comment first
  · cases opened : openingTag? text with
    | none =>
      have unmarked : List.isPrefixOf? ['!', '-', '-'] text = none := by
        apply Option.eq_none_iff_forall_ne_some.mpr
        intro body marked
        exact comment ⟨body, List.isPrefixOf?_eq_some_iff_append_eq.mp marked⟩
      simp only [readMarkup, unmarked, opened]
      exact .angle comment (openingTag?_eq_none_iff.mp opened)
    | some tag =>
      obtain ⟨kind, attributes, body⟩ := tag
      obtain ⟨rest, named, ends⟩ := openingTag?_eq_some_iff.mp opened
      obtain ⟨tag, rfl⟩ := openingTag?_suffix opened
      rw [readMarkup_of_tag named ends, Text.upTo_append_self, readBlock]
      split
      next inner behind cut =>
        obtain ⟨closing, closes, rfl, first⟩ := cutAtClosingTag?_eq_some_iff.mp cut
        simpa using Reads.block named ends closes first
      next unclosed => exact .strayTag named ends (cutAtClosingTag?_eq_none_iff.mp unclosed)

theorem Reads.readMarkup_eq {text rest : List Char} {piece : Piece}
    (reads : Reads ('<' :: text) piece rest) : readMarkup text = (piece, rest) := by
  cases reads with
  | @block kind tag _ inner closing _ attributes named ends closes first =>
    have cut : cutAtClosingTag? kind (inner ++ closing ++ rest) = some (inner, rest) :=
      cutAtClosingTag?_eq_some_iff.mpr ⟨closing, closes, rfl, first⟩
    rw [readMarkup_of_tag named ends, readBlock, cut]
    simp
  | @comment inside _ first =>
    have cut : Text.cutAtMark? ['-', '-', '>'] (inside ++ ['-', '-', '>'] ++ rest) = some (inside, rest) :=
      cutAtCommentEnd_eq_some_iff.mpr ⟨rfl, first⟩
    have read := Text.upTo_append_self (['!', '-', '-'] ++ (inside ++ ['-', '-', '>'])) rest
    rw [List.append_assoc _ _ rest] at read
    rw [readMarkup_of_comment cut, read]
  | strayTag named ends unclosed =>
    have cut := cutAtClosingTag?_eq_none_iff.mpr unclosed
    rw [readMarkup_of_tag named ends, readBlock, cut]
    simp
  | other plain => exact absurd rfl plain
  | angle comment tag =>
    have unmarked : List.isPrefixOf? ['!', '-', '-'] text = none := by
      apply Option.eq_none_iff_forall_ne_some.mpr
      intro body marked
      exact comment ⟨body, List.isPrefixOf?_eq_some_iff_append_eq.mp marked⟩
    simp [readMarkup, unmarked, openingTag?_eq_none_iff.mpr tag]
  | openComment unclosed => exact readMarkup_of_openComment (Text.cutAtMark?_eq_none_iff.mpr unclosed)

theorem Reads.unique {document rest tail : List Char} {piece other : Piece}
    (first : Reads document piece rest) (second : Reads document other tail) :
    piece = other ∧ rest = tail := by
  cases document with
  | nil => cases first
  | cons c text =>
    by_cases angle : c = '<'
    · subst angle
      exact Prod.mk.inj (first.readMarkup_eq.symm.trans second.readMarkup_eq)
    · obtain ⟨rfl, rfl⟩ := first.of_plain angle
      obtain ⟨rfl, rfl⟩ := second.of_plain angle
      exact ⟨rfl, rfl⟩

theorem exists_reads (c : Char) (text : List Char) : ∃ piece rest, Reads (c :: text) piece rest := by
  by_cases angle : c = '<'
  · subst angle
    exact ⟨_, _, readMarkup_reads text⟩
  · exact ⟨_, _, .other angle⟩

namespace Decomposes

theorem unique {document : List Char} {parts others : List Piece}
    (first : Decomposes document parts) (second : Decomposes document others) : parts = others := by
  induction first generalizing others with
  | nil =>
    cases second with
    | nil => rfl
    | cons reads _ => cases reads
  | cons reads _ ih =>
    cases second with
    | nil => cases reads
    | cons other further =>
      obtain ⟨rfl, rfl⟩ := reads.unique other
      rw [ih further]

theorem exists_parts (document : List Char) : ∃ parts, Decomposes document parts := by
  induction size : document.length using Nat.strongRecOn generalizing document with
  | ind length ih =>
    cases document with
    | nil => exact ⟨[], .nil⟩
    | cons c text =>
      obtain ⟨piece, rest, reads⟩ := exists_reads c text
      obtain ⟨parts, further⟩ := ih rest.length (size ▸ reads.length_lt) rest rfl
      exact ⟨piece :: parts, .cons reads further⟩

end Decomposes

/-- The blocks among some pieces, when the first of the pieces stands at `start`. -/
def place (start : Nat) : List Piece → List Placed
  | [] => []
  | piece :: rest =>
    let others := place (start + Text.byteSize piece.text) rest
    match piece.block? with
    | some block => ⟨start, block⟩ :: others
    | none => others

theorem Cursor.blocks_eq_round (cursor : Cursor) :
    cursor.blocks =
      match cursor.round with
      | .finished => []
      | .onward next => next.blocks
      | .found placed next => placed :: next.blocks := by
  rw [Cursor.blocks]
  split <;> simp_all

theorem Cursor.blocks_of_plain {offset : Nat} {c : Char} {text : List Char} (plain : c ≠ '<') :
    Cursor.blocks ⟨offset, c :: text⟩ = Cursor.blocks ⟨offset + c.utf8Size, text⟩ := by
  have same : Cursor.round ⟨offset, c :: text⟩ = Cursor.round ⟨offset + c.utf8Size, text⟩ := by
    simp [Cursor.round, plain, Nat.add_assoc]
  rw [Cursor.blocks_eq_round, same, ← Cursor.blocks_eq_round]

theorem Cursor.blocks_of_angle {offset : Nat} {text rest : List Char} {piece : Piece}
    (reads : Reads ('<' :: text) piece rest) :
    Cursor.blocks ⟨offset, '<' :: text⟩ =
      (piece.block?.map (Placed.mk offset)).toList ++
        Cursor.blocks ⟨offset + Text.byteSize piece.text, rest⟩ := by
  have here : Cursor.round ⟨offset, '<' :: text⟩ = readAngle offset text := by simp [Cursor.round]
  rw [Cursor.blocks_eq_round, here, readAngle, reads.readMarkup_eq]
  cases reads with
  | openComment =>
    rw [Cursor.blocks_eq_round]
    rfl
  | block | comment | strayTag | other | angle => rfl

/-- The search finds the blocks of the grammar. A round that reads several pieces at once only
passes over single characters. -/
theorem Decomposes.blocks_eq_place {text : List Char} {parts : List Piece}
    (whole : Decomposes text parts) (offset : Nat) : Cursor.blocks ⟨offset, text⟩ = place offset parts := by
  induction whole generalizing offset with
  | nil =>
    rw [Cursor.blocks]
    rfl
  | @cons document rest piece others first further ih =>
    cases document with
    | nil => cases first
    | cons c text =>
      by_cases angle : c = '<'
      · subst angle
        rw [Cursor.blocks_of_angle first, ih, place]
        cases piece.block? <;> rfl
      · obtain ⟨rfl, rfl⟩ := first.of_plain angle
        rw [Cursor.blocks_of_plain angle, ih]
        simp [place, Piece.block?, Piece.text]

/-- Every document is made of pieces in exactly one way, and the search returns the blocks among
them, in order: kind, attributes, the texts of the tags and of the body, and the offset. -/
theorem unique_decomposition (document : List Char) :
    (∃! parts, Decomposes document parts) ∧
      ∀ parts, Decomposes document parts → placedBlocks document = place 0 parts := by
  obtain ⟨parts, whole⟩ := Decomposes.exists_parts document
  exact ⟨⟨parts, whole, fun _ other => other.unique whole⟩, fun _ other => other.blocks_eq_place 0⟩

end PageAssets.Markup
