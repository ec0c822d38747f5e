import PageAssets.Markup.Block

/-! What starts at an opening angle: a style or script block, a comment, an opening tag that nothing
closes, or no markup at all. Main statement: the piece read there and the text behind it are the
text it was read from. -/

namespace PageAssets.Markup

inductive Piece where
  | block (block : Block)
  | comment (text : List Char)
  /-- A comment that never ends hides the rest of the document. -/
  | openComment (text : List Char)
  | strayTag (text : List Char)
  | char (c : Char)
  deriving DecidableEq, Repr

namespace Piece

def text : Piece → List Char
  | block b => b.outer
  | comment text | openComment text | strayTag text => text
  | char c => [c]

def block? : Piece → Option Block
  | block b => some b
  | _ => none

end Piece

def readBlock (kind : BlockKind) (attributes : List Attribute) (opening body : List Char) :
    Piece × List Char :=
  match cutAtClosingTag? kind body with
  | some (inner, behind) =>
    (.block ⟨kind, opening, attributes, inner, Text.upTo behind (body.drop inner.length)⟩, behind)
  | none => (.strayTag opening, body)

/-- Reads a piece that starts with an opening angle, given the text behind the angle. -/
def readMarkup (text : List Char) : Piece × List Char :=
  match List.isPrefixOf? ['!', '-', '-'] text with
  | some body =>
    match Text.cutAtMark? ['-', '-', '>'] body with
    | some (_, behind) => (.comment ('<' :: Text.upTo behind text), behind)
    | none => (.openComment ('<' :: text), [])
  | none =>
    match openingTag? text with
    | some (kind, attributes, body) => readBlock kind attributes ('<' :: Text.upTo body text) body
    | none => (.char '<', text)

theorem readBlock_text {kind : BlockKind} {attributes : List Attribute} {opening body : List Char} :
    (readBlock kind attributes opening body).1.text ++ (readBlock kind attributes opening body).2 =
      opening ++ body := by
  unfold readBlock
  split
  next inner behind found =>
    obtain ⟨here, rfl, accepted, -⟩ := Text.cutAtFirst?_eq_some_iff.mp found
    have := Text.upTo_append (afterClosingTag?_suffix accepted)
    simp [Piece.text, Block.outer, this]
  next => simp [Piece.text]

theorem readMarkup_text (text : List Char) :
    (readMarkup text).1.text ++ (readMarkup text).2 = '<' :: text := by
  unfold readMarkup
  split
  next body marked =>
    split
    next _ behind cut =>
      have ending := ((Text.cutAtFirst?_suffix (fun _ _ => Text.isPrefixOf?_suffix) cut).trans
        (List.drop_suffix _ _)).trans (Text.isPrefixOf?_suffix marked)
      simp [Piece.text, Text.upTo_append ending]
    next => simp [Piece.text]
  next =>
    split
    next found =>
      rw [readBlock_text, List.cons_append, Text.upTo_append (openingTag?_suffix found)]
    next => rfl

theorem readMarkup_ne_nil (text : List Char) : (readMarkup text).1.text ≠ [] := by
  unfold readMarkup readBlock
  split
  · split <;> simp [Piece.text]
  · split
    · split <;> simp [Piece.text, Block.outer]
    · simp [Piece.text]

theorem readMarkup_length_le (text : List Char) : (readMarkup text).2.length ≤ text.length := by
  have whole := congrArg List.length (readMarkup_text text)
  have taken := List.length_pos_iff.2 (readMarkup_ne_nil text)
  simp only [List.length_append, List.length_cons] at whole
  omega

end PageAssets.Markup
