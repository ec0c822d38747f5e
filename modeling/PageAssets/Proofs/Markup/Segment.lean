import PageAssets.Proofs.Markup.Spelling
import PageAssets.Proofs.Markup.Standing

/-! Documents that are written segment by segment: plain text, comments, and blocks in the plainest
form. The conditions under which a segment stands alone are part of it, so every list of segments
is a document that is read segment by segment. -/

namespace PageAssets.Markup

structure PlainAttribute where
  name : List Char
  value : List Char
  named : name ≠ []
  plainName : name.all isNameChar = true
  unquoted : '"' ∉ value

namespace PlainAttribute

def render (plain : PlainAttribute) : List Char := ' ' :: (plain.name ++ ['=', '"'] ++ plain.value ++ ['"'])

def asRead (plain : PlainAttribute) : Attribute := ⟨plain.name, some plain.value⟩

def spelled (plain : PlainAttribute) : SpelledAttribute where
  separation := ⟨' ', [], rfl, rfl⟩
  name := plain.name
  assignment := some ⟨[], [], .quoted '"' plain.value rfl plain.unquoted, rfl, rfl⟩
  named := plain.named
  plainName := plain.plainName

theorem text_spelled (plain : PlainAttribute) : plain.spelled.text = plain.render := by
  simp [spelled, SpelledAttribute.text, SpelledAttribute.body, Separation.text, Assignment.text, SpelledValue.text, render]

theorem asRead_spelled (plain : PlainAttribute) : plain.spelled.asRead = plain.asRead := rfl

/-- The attributes of a tag are read as they were written, up to the angle that closes it. -/
theorem readAttributes_render (attributes : List PlainAttribute) (after : List Char) :
    readAttributes (attributes.flatMap render ++ '>' :: after) = (attributes.map asRead, some after) := by
  have read := (⟨attributes.map spelled, none⟩ : SpelledTag).readAttributes_text after
  simpa only [SpelledTag.text, Option.elim_none, List.nil_append, List.append_assoc, List.cons_append,
    List.flatMap_map, List.map_map, Function.comp_def, text_spelled, asRead_spelled] using read

end PlainAttribute

/-- A block whose body holds nothing that looks like the start of its closing tag. -/
structure PlainBlock where
  kind : BlockKind
  attributes : List PlainAttribute
  body : List Char
  unclosed : ¬ (['<', '/'] ++ kind.tagName) <:+: body.map Char.toLower

namespace PlainBlock

def tag (plain : PlainBlock) : List Char :=
  plain.kind.tagName ++ (plain.attributes.flatMap PlainAttribute.render ++ ['>'])

def closing (plain : PlainBlock) : List Char := ['<', '/'] ++ plain.kind.tagName ++ ['>']

def render (plain : PlainBlock) : List Char := '<' :: (plain.tag ++ (plain.body ++ plain.closing))

def asRead (plain : PlainBlock) : Block :=
  ⟨plain.kind, '<' :: plain.tag, plain.attributes.map PlainAttribute.asRead, plain.body, plain.closing⟩

theorem outer_asRead (plain : PlainBlock) : plain.asRead.outer = plain.render := by
  simp [asRead, Block.outer, render]

theorem closesItself (plain : PlainBlock) :
    ClosesItself plain.kind (plain.attributes.map PlainAttribute.asRead) plain.tag := by
  refine ⟨_, ⟨_, rfl, by simp [sameName], ?_⟩, PlainAttribute.readAttributes_render _ []⟩
  cases plain.attributes with
  | nil => exact ⟨'>', [], rfl, .inr (.inl rfl)⟩
  | cons first others => exact ⟨' ', _, rfl, .inl rfl⟩

theorem isClosingTag (plain : PlainBlock) : IsClosingTag plain.kind plain.closing :=
  ⟨plain.kind.tagName, [], by simp [closing], by simp [sameName], by simp⟩

theorem body_not_holdsClosingTag (plain : PlainBlock) : ¬ HoldsClosingTag plain.kind plain.body := by
  rintro ⟨-, ⟨name, space, rfl, same, -⟩, front, back, split⟩
  refine plain.unclosed ⟨front.map Char.toLower, (space ++ ['>'] ++ back).map Char.toLower, ?_⟩
  rw [← split, ← sameName_tagName.mp same]
  simp

theorem reads (plain : PlainBlock) (behind : List Char) :
    Reads (plain.render ++ behind) (.block plain.asRead) behind :=
  plain.closesItself.reads_block plain.isClosingTag plain.body_not_holdsClosingTag behind

theorem stands (plain : PlainBlock) : Stands plain.render [.block plain.asRead] := Stands.of_reads plain.reads

end PlainBlock

inductive Segment where
  | text (written : List Char) (plain : isPlain written = true)
  | comment (inside : List Char) (unended : ¬ ['-', '-', '>'] <:+: inside)
  | block (block : PlainBlock)

namespace Segment

def render : Segment → List Char
  | text written _ => written
  | comment inside _ => '<' :: (['!', '-', '-'] ++ (inside ++ ['-', '-', '>']))
  | block plain => plain.render

def pieces : Segment → List Piece
  | text written _ => written.map .char
  | comment inside _ => [.comment ('<' :: (['!', '-', '-'] ++ (inside ++ ['-', '-', '>'])))]
  | block plain => [.block plain.asRead]

def block? : Segment → Option Block
  | block plain => some plain.asRead
  | _ => none

theorem stands (segment : Segment) : Stands segment.render segment.pieces := by
  cases segment with
  | text written plain => exact stands_of_isPlain plain
  | comment inside first => exact .comment first
  | block plain => exact plain.stands

theorem text_pieces (segment : Segment) : segment.pieces.flatMap Piece.text = segment.render :=
  segment.stands.decomposes.flatMap_text

theorem blocks_pieces (segment : Segment) : segment.pieces.filterMap Piece.block? = segment.block?.toList := by
  cases segment with
  | text written plain => simp [pieces, block?, Function.comp_def, Piece.block?]
  | comment inside first => rfl
  | block plain => rfl

end Segment

def render (page : List Segment) : List Char := page.flatMap Segment.render

theorem decomposes_render (page : List Segment) : Decomposes (render page) (page.flatMap Segment.pieces) :=
  (Stands.flatMap page fun segment _ => segment.stands).decomposes

end PageAssets.Markup
