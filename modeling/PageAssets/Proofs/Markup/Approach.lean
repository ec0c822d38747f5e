import PageAssets.Proofs.Markup.Angles

/-! The way to a place in a document. As long as no tag on the way hangs on what comes later, the way
is read the same in front of any other markup. -/

namespace PageAssets.Markup

theorem ClosesItself.of_readAttributes {kind : BlockKind} {tag body rest : List Char} {attributes : List Attribute}
    (named : StartsWithName kind (tag ++ body) rest) (ends : readAttributes rest = (attributes, some body)) :
    ClosesItself kind attributes tag := by
  obtain ⟨front, rfl⟩ := readAttributes_ends (congrArg Prod.snd ends)
  obtain ⟨name, split, same, c, more, start, ended⟩ := named
  rw [show front ++ '>' :: body = front ++ ['>'] ++ body by simp] at split start ends
  have alone := readAttributes_of_append (congrArg Prod.snd ends)
  have read := readAttributes_append alone body
  rw [ends] at read
  obtain ⟨d, tail, first⟩ := List.exists_cons_of_ne_nil (l := front ++ ['>']) (by simp)
  obtain ⟨rfl, -⟩ := List.cons.inj ((congrArg (· ++ body) first).symm.trans start)
  refine ⟨front ++ ['>'], ⟨name, ?_, same, d, tail, first, ended⟩, Prod.ext (Prod.mk.inj read).1.symm alone⟩
  exact List.append_cancel_right (by simpa using split)

theorem readAttributes_of_readTag? {text body : List Char} {attributes : List Attribute}
    (found : readTag? text = some (attributes, body)) (closed : (readAttributes text).2 ≠ none) :
    readAttributes text = (attributes, some body) := by
  unfold readTag? at found
  split at found
  next read =>
    cases found
    exact read
  next read => exact absurd (congrArg Prod.snd read) closed

/-- What starts a document is read without a look at how the document ends: it is no tag that counts
for nothing because it is never closed, and no tag that ends at the first angle because a quote in it
stays open. -/
def IsSteady (document : List Char) : Piece → Prop
  | .strayTag _ => False
  | .block _ => ∀ kind rest, StartsWithName kind (document.drop 1) rest → (readAttributes rest).2 ≠ none
  | .comment _ | .openComment _ | .char _ => True

theorem ClosesItself.isSteady {kind : BlockKind} {tag : List Char} {attributes : List Attribute}
    (closes : ClosesItself kind attributes tag) (block : Block) (more : List Char) :
    IsSteady ('<' :: (tag ++ more)) (.block block) := by
  intro other tail named
  obtain ⟨rest, starts, read⟩ := closes.extends_name more
  obtain rfl := starts.rest_unique named
  simp [read]

inductive Approach : List Char → List Piece → List Char → Prop where
  | here {text : List Char} : Approach text [] text
  | step {document middle place : List Char} {piece : Piece} {others : List Piece}
      (first : Reads document piece middle) (steady : IsSteady document piece)
      (further : Approach middle others place) : Approach document (piece :: others) place

namespace Approach
variable {document place : List Char} {front : List Piece}

theorem text_append (way : Approach document front place) : front.flatMap Piece.text ++ place = document := by
  induction way with
  | here => rfl
  | step first _ _ ih => rw [List.flatMap_cons, List.append_assoc, ih, first.text_append]

theorem decomposes (way : Approach document front place) {parts : List Piece} (rest : Decomposes place parts) :
    Decomposes document (front ++ parts) := by
  induction way with
  | here => exact rest
  | step first _ _ ih => exact .cons first (ih rest)

/-- The way to an angle is the same when other markup stands there. -/
theorem exchange {text other : List Char} {parts : List Piece} (way : Approach document front ('<' :: text))
    (closed : '>' ∈ text) (rest : Decomposes ('<' :: other) parts) :
    Decomposes (front.flatMap Piece.text ++ '<' :: other) (front ++ parts) := by
  generalize reached : '<' :: text = place at way
  induction way with
  | here => exact rest
  | @step document middle place piece others first steady further ih =>
    subst reached
    have later := ih rfl
    rw [List.flatMap_cons, List.append_assoc]
    cases first with
    | @block kind tag behind inner closing _ attributes named ends closes unclosed =>
      have alone := ClosesItself.of_readAttributes named (readAttributes_of_readTag? ends (steady kind _ named))
      simpa [Piece.text, Block.outer] using alone.stands_block closes unclosed _ _ later
    | comment unended => exact Stands.comment unended _ _ later
    | strayTag => exact absurd steady id
    | other plain => exact .cons (.other plain) later
    | angle comment tag =>
      have same : SameToAngle middle (others.flatMap Piece.text ++ '<' :: other) :=
        ⟨_, '<', text, other, .inl rfl, further.text_append.symm, rfl⟩
      refine .cons (reads_angle_of_same (.inr same) (fun outside => absurd ?_ outside) (.angle comment tag)) later
      simp [← further.text_append, closed]
    | openComment =>
      cases further with
      | step reads _ _ => cases reads

end Approach
end PageAssets.Markup
