import PageAssets.Proofs.Markup.Standing

/-! What an angle settles. Names, the start of comments and closing tags are over once an angle
comes, so texts that are the same up to some angle differ in none of them. -/

namespace PageAssets.Markup

/-- A text in which a closing angle follows on each opening one. -/
def isShut : List Char → Bool
  | [] => true
  | c :: rest => (c ≠ '<' || rest.contains '>') && isShut rest

theorem mem_of_isShut {front run : List Char} (shut : isShut (front ++ '<' :: run) = true) : '>' ∈ run := by
  induction front with
  | nil => simpa [isShut] using (Bool.and_eq_true_iff.mp shut).1
  | cons c front ih => exact ih (Bool.and_eq_true_iff.mp shut).2

def SameToAngle (text other : List Char) : Prop :=
  ∃ run angle more rest, IsAngle angle ∧ text = run ++ angle :: more ∧ other = run ++ angle :: rest

namespace SameToAngle
variable {text other : List Char}

/-- A start that is over with its first angle is common to both texts. -/
theorem prefix_of_prefix (same : SameToAngle text other) {front : List Char} {last : Char}
    (plain : ∀ c ∈ front, ¬ IsAngle c) (starts : front ++ [last] <+: other) : front ++ [last] <+: text := by
  obtain ⟨run, angle, more, rest, isAngle, rfl, rfl⟩ := same
  have upTo (tail : List Char) : run ++ [angle] <+: run ++ angle :: tail := ⟨tail, by simp⟩
  rcases List.prefix_or_prefix_of_prefix starts (upTo rest) with inside | reaches
  · exact inside.trans (upTo more)
  · rcases List.prefix_concat_iff.mp reaches with equal | early
    · rw [← equal]
      exact upTo more
    · exact absurd isAngle (plain _ (early.subset (by simp)))

theorem startsWithName (same : SameToAngle text other) {kind : BlockKind} {rest : List Char}
    (named : StartsWithName kind other rest) : ∃ tail, StartsWithName kind text tail := by
  obtain ⟨name, rfl, letters, c, more, rfl, ended⟩ := named
  have plain : ∀ letter ∈ name, ¬ IsAngle letter := fun _ inside => not_isAngle_of_mem_name letters inside
  have common : name ++ [c] <+: text := same.prefix_of_prefix plain ⟨more, by simp⟩
  obtain ⟨tail, rfl⟩ := common
  exact ⟨c :: tail, name, by simp, letters, c, tail, rfl, ended⟩

theorem comment (same : SameToAngle text other) (marked : ['!', '-', '-'] <+: other) : ['!', '-', '-'] <+: text := by
  have plain : ∀ c ∈ ['!', '-'], ¬ IsAngle c := by simp [IsAngle]
  exact same.prefix_of_prefix plain marked

theorem closingTag (same : SameToAngle text other) {kind : BlockKind} {closing : List Char}
    (closes : IsClosingTag kind closing) (starts : closing <+: '<' :: other) : closing <+: '<' :: text := by
  obtain ⟨inside, rfl, plain⟩ := closes.angles
  obtain ⟨-, starts⟩ := List.cons_prefix_cons.mp starts
  exact List.cons_prefix_cons.mpr ⟨rfl, same.prefix_of_prefix plain starts⟩

end SameToAngle

/-- An angle that starts no markup starts none when the text behind it changes further on. -/
theorem reads_angle_of_same {text other : List Char} (same : other = text ∨ SameToAngle text other)
    (outside : '>' ∉ text → other = text) (reads : Reads ('<' :: text) (.char '<') text) :
    Reads ('<' :: other) (.char '<') other := by
  rcases same with rfl | same
  · exact reads
  by_cases closed : '>' ∈ text
  · cases reads with
    | other plain => exact absurd rfl plain
    | angle comment tag =>
      refine .angle (fun marked => comment (same.comment marked)) ?_
      intro kind rest named
      obtain ⟨tail, starts⟩ := same.startsWithName named
      refine absurd ?_ (tag kind tail starts)
      obtain ⟨name, rfl, letters, -⟩ := starts
      exact (List.mem_append.mp closed).resolve_left (not_mem_name letters (by simp))
  · rw [outside closed]
    exact reads

namespace Reads
variable {document rest : List Char}

theorem opens {piece : Piece} (reads : Reads document piece rest) (markup : ∀ c, piece ≠ .char c) :
    ∃ more, piece.text = '<' :: more := by
  cases reads with
  | other | angle => exact absurd rfl (markup _)
  | block | comment | strayTag | openComment => exact ⟨_, rfl⟩

theorem block_closing {block : Block} (reads : Reads document (.block block) rest) :
    IsClosingTag block.kind block.closing := by
  cases reads
  assumption

theorem ends {piece : Piece} (reads : Reads document piece rest) (markup : ∀ c, piece ≠ .char c)
    (ended : ∀ text, piece ≠ .openComment text) : ∃ more, piece.text = more ++ ['>'] := by
  cases reads with
  | other | angle => exact absurd rfl (markup _)
  | openComment => exact absurd rfl (ended _)
  | @comment inside => exact ⟨['<', '!', '-', '-'] ++ inside ++ ['-', '-'], by simp [Piece.text]⟩
  | @block kind tag _ inner closing _ _ _ _ closes =>
    obtain ⟨inside, rfl, -⟩ := closes.angles
    exact ⟨'<' :: (tag ++ inner ++ '<' :: inside), by simp [Piece.text, Block.outer]⟩
  | @strayTag kind tag behind _ _ named ends =>
    obtain ⟨name, split, -⟩ := named
    obtain ⟨front, rfl⟩ := readTag?_ends ends
    refine ⟨'<' :: (name ++ front), ?_⟩
    have whole : tag ++ rest = name ++ (front ++ ['>']) ++ rest := by simp [split]
    have tag := List.append_cancel_right whole
    simp [Piece.text, tag]

theorem block_angles {block : Block} (reads : Reads document (.block block) rest) :
    ∃ inside, block.outer = '<' :: (inside ++ ['>']) := by
  obtain ⟨more, opens⟩ := reads.opens (by simp)
  obtain ⟨front, ends⟩ := reads.ends (by simp) (by simp)
  cases front with
  | nil => cases opens.symm.trans ends
  | cons c inside =>
    obtain ⟨rfl, rfl⟩ := List.cons.inj (opens.symm.trans ends)
    exact ⟨inside, opens⟩

end Reads

section ClosingTags
variable {kind : BlockKind}

theorem holdsClosingTag_cons {c : Char} {text : List Char} :
    HoldsClosingTag kind (c :: text) ↔
      (∃ closing, IsClosingTag kind closing ∧ closing <+: c :: text) ∨ HoldsClosingTag kind text := by
  simp only [HoldsClosingTag, List.infix_cons_iff, and_or_left, exists_or]

theorem HoldsClosingTag.mono {text more : List Char} (holds : HoldsClosingTag kind text) (inside : text <:+: more) :
    HoldsClosingTag kind more := by
  obtain ⟨closing, closes, found⟩ := holds
  exact ⟨closing, closes, found.trans inside⟩

theorem HoldsClosingTag.of_cons {c : Char} {text : List Char} (plain : c ≠ '<')
    (holds : HoldsClosingTag kind (c :: text)) : HoldsClosingTag kind text := by
  rcases holdsClosingTag_cons.mp holds with ⟨closing, closes, starts⟩ | further
  · obtain ⟨inside, rfl, -⟩ := closes.angles
    exact absurd (List.cons_prefix_cons.mp starts).1.symm plain
  · exact further

/-- No closing tag reaches over a closing angle. -/
theorem HoldsClosingTag.of_append {front back : List Char}
    (holds : HoldsClosingTag kind (front ++ ['>'] ++ back)) :
    HoldsClosingTag kind (front ++ ['>']) ∨ HoldsClosingTag kind back := by
  obtain ⟨closing, closes, found⟩ := holds
  rcases List.infix_append_iff_ne_nil.mp found with inside | inside | ⟨head, tail, starts, remains, rfl, ends, -⟩
  · exact .inl ⟨closing, closes, inside⟩
  · exact .inr ⟨closing, closes, inside⟩
  · obtain ⟨inside, split, plain⟩ := closes.angles
    have body := congrArg List.dropLast split
    rw [List.dropLast_append_of_ne_nil remains, ← List.cons_append, List.dropLast_concat] at body
    obtain ⟨more, rfl, -⟩ := (List.suffix_concat_iff.mp ends).resolve_left starts
    have early : '>' ∈ '<' :: inside := body ▸ by simp
    rcases List.mem_cons.mp early with equal | early
    · cases equal
    · exact absurd (.inr rfl) (plain _ early)

theorem not_holdsClosingTag_of_cons {c : Char} {text : List Char} (name : c ≠ '/')
    (outside : '<' ∉ c :: text) : ¬ HoldsClosingTag kind ('<' :: c :: text) := by
  intro holds
  rcases holdsClosingTag_cons.mp holds with ⟨-, ⟨letters, space, rfl, -⟩, starts⟩ | ⟨-, ⟨letters, space, rfl, -⟩, later⟩
  · exact name (List.cons_prefix_cons.mp (List.cons_prefix_cons.mp starts).2).1.symm
  · exact outside (later.subset (by simp))

end ClosingTags

end PageAssets.Markup
