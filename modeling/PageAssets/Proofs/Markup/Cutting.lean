import PageAssets.Proofs.Markup.Approach

/-! Documents that are cut between two pieces. What was read in front of the cut is read as before when
the document ends there: a look further ahead has either found nothing, or found what it looked for
in front of the cut. -/

namespace PageAssets.Markup

section Readers
variable {kind : BlockKind} {attributes : List Attribute} {tag text body rest more : List Char}

theorem recognises_closingAngle : Text.Recognises (List.isPrefixOf? ['>']) (· = ['>']) where
  reads text rest := by simp [eq_comm]
  nonempty := by simp
  apart front back found rest tail word known remains ends := by
    have whole := congrArg List.length word
    have first := List.length_pos_iff.mpr remains
    have second := List.length_pos_iff.mpr ends
    simp only [List.length_append, List.length_singleton] at whole
    omega

/-- A tag in which a quote stays open ends at the first closing angle. -/
theorem readTag?_of_open (opened : (readAttributes text).2 = none) :
    readTag? text = some (attributes, body) ↔
      ∃ inside, text = inside ++ ['>'] ++ body ∧ ¬ ['>'] <:+: inside ∧ (readAttributes inside).1 = attributes := by
  have cut (before behind : List Char) : Text.cutAtMark? ['>'] text = some (before, behind) ↔
      text = before ++ ['>'] ++ behind ∧ ¬ ['>'] <:+: before := by
    simp [Text.cutAtMark?, recognises_closingAngle.cut_eq_some_iff]
  rw [readTag?]
  split
  next read => cases opened.symm.trans (congrArg Prod.snd read)
  next =>
    simp only [Option.map_eq_some_iff, Prod.exists, Prod.mk.injEq, cut]
    constructor
    · rintro ⟨inside, behind, ⟨split, first⟩, same, rfl⟩
      exact ⟨inside, split, first, same⟩
    · rintro ⟨inside, split, first, same⟩
      exact ⟨inside, body, ⟨split, first⟩, same, rfl⟩

/-- A quote that is open at the end of a document was open wherever the document is cut. -/
theorem open_of_append (opened : (readAttributes (text ++ more)).2 = none) : (readAttributes text).2 = none := by
  rw [Option.eq_none_iff_forall_ne_some]
  intro behind closed
  cases opened.symm.trans (congrArg Prod.snd (readAttributes_append closed more))

/-- A tag that ends in front of a cut ends at the same angle when the rest is cut off. -/
theorem readTag?_of_append (read : readTag? (text ++ more) = some (attributes, body ++ more)) :
    readTag? text = some (attributes, body) := by
  by_cases opened : (readAttributes (text ++ more)).2 = none
  · obtain ⟨inside, split, first, same⟩ := (readTag?_of_open opened).mp read
    rw [← List.append_assoc] at split
    exact (readTag?_of_open (open_of_append opened)).mpr ⟨inside, List.append_cancel_right split, first, same⟩
  · have whole := readAttributes_of_readTag? read opened
    obtain ⟨front, split⟩ := readAttributes_ends (congrArg Prod.snd whole)
    have cut : text ++ more = front ++ ['>'] ++ body ++ more := by simpa using split
    obtain rfl := List.append_cancel_right cut
    rw [List.append_assoc _ body more] at whole
    have alone := readAttributes_of_append (congrArg Prod.snd whole)
    have further := readAttributes_append alone (body ++ more)
    rw [whole] at further
    rw [readTag?, readAttributes_append alone body, (Prod.mk.inj further).1]
    rfl

theorem StartsWithName.append (named : StartsWithName kind text rest) (more : List Char) :
    StartsWithName kind (text ++ more) (rest ++ more) := by
  obtain ⟨name, rfl, same, c, others, rfl, ended⟩ := named
  exact ⟨name, List.append_assoc _ _ _, same, c, others ++ more, rfl, ended⟩

theorem openingTag?_of_append (opens : openingTag? (text ++ more) = some (kind, attributes, body ++ more)) :
    openingTag? text = some (kind, attributes, body) := by
  obtain ⟨rest, ⟨name, split, same, c, others, start, ended⟩, read⟩ := openingTag?_eq_some_iff.mp opens
  obtain ⟨front, rfl⟩ := readTag?_ends read
  have left : front ++ '>' :: (body ++ more) = front ++ ['>'] ++ body ++ more := by simp
  rw [left] at split start read
  rw [← List.append_assoc] at split
  obtain ⟨d, tail, first⟩ := List.exists_cons_of_ne_nil (l := front ++ ['>'] ++ body) (by simp)
  obtain ⟨rfl, -⟩ := List.cons.inj ((congrArg (· ++ more) first).symm.trans start)
  refine openingTag?_eq_some_iff.mpr ⟨front ++ ['>'] ++ body, ?_, readTag?_of_append read⟩
  exact ⟨name, List.append_cancel_right split, same, d, tail, first, ended⟩

end Readers

/-- The piece that starts a document is the same when the document is cut somewhere behind it. -/
theorem Reads.of_append {text rest more : List Char} {piece : Piece}
    (reads : Reads (text ++ more) piece (rest ++ more)) : Reads text piece rest := by
  have cancel (front : List Char) (split : text ++ more = front ++ more) : text = front :=
    List.append_cancel_right split
  generalize whole : text ++ more = document at reads cancel
  generalize left : rest ++ more = behind at reads
  cases reads with
  | @block kind tag start inner closing _ attributes named ends closes first =>
    subst left
    have opens := openingTag?_eq_some_iff.mpr ⟨start, named, ends⟩
    rw [← List.append_assoc _ rest more, ← List.append_assoc] at opens
    obtain ⟨begin, shorter, read⟩ := openingTag?_eq_some_iff.mp (openingTag?_of_append opens)
    obtain rfl := cancel ('<' :: (tag ++ (inner ++ closing ++ rest))) (by simp)
    exact .block shorter read closes first
  | @comment inside _ first =>
    subst left
    obtain rfl := cancel ('<' :: (['!', '-', '-'] ++ (inside ++ ['-', '-', '>'] ++ rest))) (by simp)
    exact .comment first
  | @strayTag kind tag start _ attributes named ends unclosed =>
    subst left
    have opens := openingTag?_eq_some_iff.mpr ⟨start, named, ends⟩
    rw [← List.append_assoc] at opens
    obtain ⟨begin, shorter, read⟩ := openingTag?_eq_some_iff.mp (openingTag?_of_append opens)
    obtain rfl := cancel ('<' :: (tag ++ rest)) (by simp)
    exact .strayTag shorter read (mt (·.mono (List.prefix_append _ _).isInfix) unclosed)
  | @other c _ plain =>
    subst left
    obtain rfl := cancel (c :: rest) (by simp)
    exact .other plain
  | angle comment tag =>
    subst left
    obtain rfl := cancel ('<' :: rest) (by simp)
    refine .angle (fun marked => comment (marked.trans (List.prefix_append _ _))) ?_
    intro kind start named inside
    exact tag kind _ (named.append more) (List.mem_append_left _ inside)
  | openComment unclosed =>
    obtain ⟨rfl, rfl⟩ := List.append_eq_nil_iff.mp left
    rw [List.append_nil] at whole
    rw [whole]
    exact .openComment unclosed

namespace Decomposes
variable {document : List Char} {front back : List Piece} {piece : Piece}

/-- A place between two pieces is a clean cut: the pieces on either side make up the text there. -/
theorem cut (whole : Decomposes document (front ++ back)) :
    Decomposes (front.flatMap Piece.text) front ∧ Decomposes (back.flatMap Piece.text) back := by
  induction front generalizing document with
  | nil => exact ⟨.nil, whole.flatMap_text ▸ whole⟩
  | cons piece others ih =>
    cases whole with
    | @cons _ rest _ _ first further =>
      obtain ⟨early, late⟩ := ih further
      have left : (others ++ back).flatMap Piece.text = rest := further.flatMap_text
      have split := first.text_append
      rw [← left, List.flatMap_append, ← List.append_assoc] at split
      rw [← split, ← left, List.flatMap_append] at first
      exact ⟨.cons first.of_append early, late⟩

/-- A piece that is cut out of a document is read as the piece that it was. -/
theorem reads_alone (whole : Decomposes document (front ++ piece :: back)) : Reads piece.text piece [] := by
  have behind : Decomposes _ ([piece] ++ back) := whole.cut.2
  have alone := behind.cut.1
  rw [List.flatMap_singleton] at alone
  generalize piece.text = text at alone ⊢
  cases alone with
  | cons first further =>
    cases further
    exact first

end Decomposes
end PageAssets.Markup
