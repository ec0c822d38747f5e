import PageAssets.Proofs.Markup.Decomposition

/-! Texts that are read as the same pieces whatever stands behind them. Such texts can be put
together and taken apart freely: a page of them is read text by text. -/

namespace PageAssets.Markup

/-- A text that is read as some pieces in front of every other text. -/
def Stands (text : List Char) (parts : List Piece) : Prop :=
  ∀ rest others, Decomposes rest others → Decomposes (text ++ rest) (parts ++ others)

namespace Stands
variable {text more : List Char} {parts others : List Piece}

theorem nil : Stands [] [] := fun _ _ whole => whole

theorem append (first : Stands text parts) (second : Stands more others) :
    Stands (text ++ more) (parts ++ others) := by
  intro rest behind whole
  rw [List.append_assoc, List.append_assoc]
  exact first _ _ (second _ _ whole)

theorem decomposes (stands : Stands text parts) : Decomposes text parts := by
  simpa using stands [] [] .nil

theorem of_reads {piece : Piece} (reads : ∀ rest, Reads (text ++ rest) piece rest) : Stands text [piece] :=
  fun _ _ whole => .cons (reads _) whole

theorem flatMap {item : Type} (items : List item) {render : item → List Char} {pieces : item → List Piece}
    (stand : ∀ one ∈ items, Stands (render one) (pieces one)) :
    Stands (items.flatMap render) (items.flatMap pieces) := by
  induction items with
  | nil => exact nil
  | cons one rest ih =>
    rw [List.flatMap_cons, List.flatMap_cons]
    exact (stand one List.mem_cons_self).append (ih fun other inside => stand other (List.mem_cons_of_mem _ inside))

theorem char {c : Char} (plain : c ≠ '<') : Stands [c] [.char c] := of_reads fun _ => .other plain

theorem comment {inside : List Char} (first : ¬ ['-', '-', '>'] <:+: inside) :
    Stands ('<' :: (['!', '-', '-'] ++ (inside ++ ['-', '-', '>'])))
      [.comment ('<' :: (['!', '-', '-'] ++ (inside ++ ['-', '-', '>'])))] :=
  of_reads fun rest => by simpa using @Reads.comment inside rest first

end Stands

/-- An opening tag, behind its angle, that ends without a look at what follows it. Every quote it
opens is closed inside of it. -/
def ClosesItself (kind : BlockKind) (attributes : List Attribute) (tag : List Char) : Prop :=
  ∃ rest, StartsWithName kind tag rest ∧ readAttributes rest = (attributes, some [])

namespace ClosesItself
variable {kind : BlockKind} {attributes : List Attribute} {tag : List Char}

theorem extends_name (closes : ClosesItself kind attributes tag) (body : List Char) :
    ∃ rest, StartsWithName kind (tag ++ body) rest ∧ readAttributes rest = (attributes, some body) := by
  obtain ⟨rest, ⟨name, rfl, same, c, more, rfl, ended⟩, read⟩ := closes
  have further := readAttributes_append (congrArg Prod.snd read) body
  rw [read] at further
  exact ⟨c :: more ++ body, ⟨name, by simp, same, c, more ++ body, rfl, ended⟩, further⟩

theorem reads (closes : ClosesItself kind attributes tag) (body : List Char) :
    ∃ rest, StartsWithName kind (tag ++ body) rest ∧ readTag? rest = some (attributes, body) := by
  obtain ⟨rest, named, read⟩ := closes.extends_name body
  exact ⟨rest, named, by rw [readTag?, read]⟩

theorem reads_block (closes : ClosesItself kind attributes tag) {inner closing : List Char}
    (closed : IsClosingTag kind closing) (first : ¬ HoldsClosingTag kind inner) (behind : List Char) :
    Reads ('<' :: (tag ++ (inner ++ closing)) ++ behind)
      (.block ⟨kind, '<' :: tag, attributes, inner, closing⟩) behind := by
  obtain ⟨rest, named, ends⟩ := closes.reads (inner ++ closing ++ behind)
  simpa using Reads.block named ends closed first

theorem stands_block (closes : ClosesItself kind attributes tag) {inner closing : List Char}
    (closed : IsClosingTag kind closing) (first : ¬ HoldsClosingTag kind inner) :
    Stands ('<' :: (tag ++ (inner ++ closing))) [.block ⟨kind, '<' :: tag, attributes, inner, closing⟩] :=
  Stands.of_reads (closes.reads_block closed first)

end ClosesItself

def closesItself (opening : List Char) : Bool :=
  (openingName? (opening.drop 1)).any fun (_, rest) => (readAttributes rest).2 = some []

theorem ClosesItself.of_readTag? {kind : BlockKind} {attributes : List Attribute} {tag body rest : List Char}
    (closed : closesItself ('<' :: tag) = true) (named : StartsWithName kind (tag ++ body) rest)
    (ends : readTag? rest = some (attributes, body)) : ClosesItself kind attributes tag := by
  obtain ⟨⟨other, behind⟩, found, ended⟩ := (Option.any_eq_true _ _).mp closed
  have alone : ClosesItself other (readAttributes behind).1 tag :=
    ⟨behind, openingName?_eq_some_iff.mp found, Prod.ext rfl (of_decide_eq_true ended)⟩
  obtain ⟨tail, starts, read⟩ := alone.reads body
  obtain rfl := starts.kind_unique named
  obtain rfl := starts.rest_unique named
  cases read.symm.trans ends
  exact alone

theorem ClosesItself.ends {kind : BlockKind} {attributes : List Attribute} {tag : List Char}
    (closes : ClosesItself kind attributes tag) : ∃ inside, tag = inside ++ ['>'] := by
  obtain ⟨rest, ⟨name, rfl, -⟩, read⟩ := closes
  obtain ⟨front, rfl⟩ := readAttributes_ends (congrArg Prod.snd read)
  exact ⟨name ++ front, by simp⟩

def mismatches (word text : List Char) : Bool :=
  (word.zip text).any fun (letter, c) => c.toLower ≠ letter.toLower

theorem afterWord?_of_mismatches {word text : List Char} (different : mismatches word text = true)
    (more : List Char) : afterWord? word (text ++ more) = none := by
  induction word generalizing text with
  | nil => cases different
  | cons letter word ih =>
    cases text with
    | nil => cases different
    | cons c text =>
      rw [List.cons_append, afterWord?]
      split
      next same => exact ih (by simpa [mismatches, same] using different)
      next => rfl

/-- What may make an opening angle the start of markup. -/
def openers : List (List Char) := [BlockKind.style.tagName, BlockKind.script.tagName, ['!', '-', '-']]

/-- Text without markup: each opening angle in it is followed there by something else than the
words that markup starts with. -/
def isPlain : List Char → Bool
  | [] => true
  | c :: rest => (c ≠ '<' || openers.all fun word => mismatches word rest) && isPlain rest

theorem reads_angle_of_mismatches {text : List Char}
    (different : ∀ word ∈ openers, mismatches word text = true) (more : List Char) :
    Reads ('<' :: (text ++ more)) (.char '<') (text ++ more) := by
  apply Reads.angle
  · intro facts
    obtain ⟨body, marked⟩ := facts
    have word : afterWord? ['!', '-', '-'] (text ++ more) = some body :=
      afterWord?_eq_some_iff.mpr ⟨_, marked.symm, rfl⟩
    cases (afterWord?_of_mismatches (different _ (by simp [openers])) more).symm.trans word
  · intro kind rest facts
    obtain ⟨name, split, same, -⟩ := facts
    have listed : kind.tagName ∈ openers := by cases kind <;> simp [openers]
    have word : afterWord? kind.tagName (text ++ more) = some rest :=
      afterWord?_eq_some_iff.mpr ⟨name, split, same⟩
    cases (afterWord?_of_mismatches (different _ listed) more).symm.trans word

theorem stands_of_isPlain {text : List Char} (plain : isPlain text = true) :
    Stands text (text.map Piece.char) := by
  induction text with
  | nil => exact .nil
  | cons c rest ih =>
    rw [isPlain, Bool.and_eq_true] at plain
    obtain ⟨here, further⟩ := plain
    by_cases angle : c = '<'
    · subst angle
      intro behind others whole
      refine .cons (reads_angle_of_mismatches ?_ behind) (ih further _ _ whole)
      simpa using here
    · exact (Stands.char angle).append (ih further)

end PageAssets.Markup
