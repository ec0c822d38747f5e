import PageAssets.Proofs.Markup.Angles
import PageAssets.Proofs.Page.Contents
import PageAssets.Proofs.Page.References
import PageAssets.Proofs.Page.Rewriting

/-! Taking blocks out of a page joins the texts around them, and the references bring quotes and
a closing tag of their own. A page that is cut cleanly is read afterwards as it was before. -/

namespace PageAssets.Page
open Markup

/-- A block that gives nothing when its page is taken apart. -/
def isSpent (block : Block) : Bool := role block = .externalScript || Text.isBlank block.inner

/-- A page whose blocks can meet their fates without a change to how the rest is read: no block is
dropped behind an angle that is still open, and the tags that stay do not depend on the quotes
behind them. The front is the text before the pieces. -/
def isCleanCut (fates : Fates) (front : List Char) : List Piece → Bool
  | [] => true
  | .block block :: rest =>
    (match fates (role block) with
      | .keep => closesItself block.opening
      | .replace _ => true
      | .drop => isShut front) &&
      isCleanCut (fates.after (role block)) (front ++ block.outer) rest
  | .strayTag opening :: rest => closesItself opening && isCleanCut fates (front ++ opening) rest
  | .comment text :: rest | .openComment text :: rest => isCleanCut fates (front ++ text) rest
  | .char c :: rest => isCleanCut fates (front ++ [c]) rest

/-- A text that may stand in for a block: it is read alone, gives nothing itself and closes no tag
that the block did not close. -/
structure IsReference (kind : BlockKind) (reference : List Char) : Prop where
  angles : ∃ inside, reference = '<' :: (inside ++ ['>'])
  stands : ∃ parts, Stands reference parts ∧ (parts.filterMap Piece.block?).all isSpent = true
  closes : ∀ other, HoldsClosingTag other reference → other = kind

/-- Fates that leave nothing to take out of some blocks. -/
structure Settles (fates : Fates) (found : List Block) : Prop where
  kept : ∀ block ∈ found, fates (role block) = .keep → isSpent block = true
  referred : ∀ block ∈ found, ∀ reference, fates (role block) = .replace reference →
    IsReference block.kind reference

theorem Settles.after {fates : Fates} {block : Block} {found : List Block}
    (settles : Settles fates (block :: found)) : Settles (fates.after (role block)) found := by
  constructor
  · intro other inside kept
    apply settles.kept other (List.mem_cons_of_mem _ inside)
    unfold Fates.after at kept
    split at kept
    next => cases fate : fates (role other) <;> simp_all [Fate.next]
    next => exact kept
  · intro other inside reference replaced
    apply settles.referred other (List.mem_cons_of_mem _ inside)
    unfold Fates.after at replaced
    split at replaced
    next => cases fate : fates (role other) <;> simp_all [Fate.next]
    next => exact replaced

/-- What takes the place of a block is nothing, or markup from one angle to another. -/
theorem Settles.apply_angles {fates : Fates} {block : Block} {found : List Block} {document rest : List Char}
    (settles : Settles fates (block :: found)) (first : Reads document (.block block) rest) :
    fates (role block) = .drop ∨ ∃ inside, (fates (role block)).apply block = '<' :: (inside ++ ['>']) := by
  cases fate : fates (role block) with
  | keep => exact .inr first.block_angles
  | replace reference => exact .inr (settles.referred block List.mem_cons_self _ fate).angles
  | drop => exact .inl rfl

theorem Settles.holdsClosingTag {fates : Fates} {block : Block} {found : List Block} {document rest : List Char}
    (settles : Settles fates (block :: found)) (first : Reads document (.block block) rest) {kind : BlockKind}
    (holds : HoldsClosingTag kind ((fates (role block)).apply block)) : HoldsClosingTag kind block.outer := by
  cases fate : fates (role block) with
  | keep =>
    rw [fate] at holds
    exact holds
  | replace reference =>
    rw [fate] at holds
    obtain rfl := (settles.referred block List.mem_cons_self _ fate).closes kind holds
    exact ⟨block.closing, first.block_closing, block.opening ++ block.inner, [], by simp [Block.outer]⟩
  | drop =>
    rw [fate] at holds
    obtain ⟨closing, closes, inside⟩ := holds
    obtain ⟨body, rfl, -⟩ := closes.angles
    cases List.infix_nil.mp inside

theorem rewrite_eq_of_not_mem {text : List Char} {parts : List Piece} (whole : Decomposes text parts)
    (outside : '>' ∉ text) (fates : Fates) : rewrite fates parts = text := by
  have blockless : ∀ piece ∈ parts, piece.block? = none := by
    clear fates
    induction whole with
    | nil => simp
    | @cons document rest piece others first further ih =>
      have shorter : '>' ∉ rest := by
        rw [← first.text_append, List.mem_append, not_or] at outside
        exact outside.2
      intro candidate inside
      rcases List.mem_cons.mp inside with rfl | later
      · cases candidate with
        | block block =>
          obtain ⟨front, outer⟩ := first.block_angles
          refine absurd ?_ outside
          rw [← first.text_append, Piece.text, outer]
          simp
        | comment | openComment | strayTag | char => rfl
      · exact ih shorter candidate later
  have walk := rewrite_append blockless fates []
  rwa [List.append_nil, whole.flatMap_text, rewrite, List.append_nil] at walk

/-- Behind an angle, the page is the same as before up to the next angle: a block that goes without
a reference is one behind a closed angle. -/
theorem sameToAngle_rewrite {text : List Char} {parts : List Piece} (whole : Decomposes text parts) {fates : Fates}
    (settles : Settles fates (parts.filterMap Piece.block?)) {front run : List Char}
    (clean : isCleanCut fates (front ++ '<' :: run) parts = true) :
    rewrite fates parts = text ∨ SameToAngle (run ++ text) (run ++ rewrite fates parts) := by
  induction whole generalizing fates run with
  | nil => exact .inl rfl
  | @cons document rest piece others first further ih =>
    have meets {angle : Char} {more tail : List Char} (either : IsAngle angle) :
        SameToAngle (run ++ angle :: more) (run ++ angle :: tail) :=
      ⟨run, angle, more, tail, either, rfl, rfl⟩
    by_cases closed : '>' ∈ run
    · obtain ⟨before, behind, rfl⟩ := List.append_of_mem closed
      exact .inr ⟨before, '>', behind ++ document, behind ++ rewrite fates (piece :: others), .inr rfl,
        by simp, by simp⟩
    cases piece with
    | block block =>
      obtain ⟨inside, outer⟩ := first.block_angles
      rcases settles.apply_angles first with dropped | ⟨body, replaced⟩
      · simp only [isCleanCut, dropped, Bool.and_eq_true] at clean
        exact absurd (mem_of_isShut clean.1) closed
      · rw [← first.text_append, Piece.text, outer]
        simp only [rewrite, Piece.block?, replaced]
        exact .inr (meets (.inl rfl))
    | char c =>
      obtain rfl : c :: rest = document := first.text_append
      by_cases angle : IsAngle c
      · exact .inr (meets angle)
      · simp only [isCleanCut, List.append_assoc, List.cons_append] at clean
        have later : rewrite fates others = rest ∨ SameToAngle (run ++ [c] ++ rest) (run ++ [c] ++ rewrite fates others) :=
          ih settles clean
        simp only [List.append_assoc, List.singleton_append] at later
        simpa [rewrite, Piece.block?, Piece.text] using later
    | comment text | openComment text | strayTag text =>
      obtain ⟨more, opens⟩ := first.opens (by simp)
      rw [← first.text_append, opens]
      simp only [rewrite, Piece.block?, opens]
      exact .inr (meets (.inl rfl))

/-- No closing tag comes up where a block goes. -/
theorem holdsClosingTag_of_rewrite {text : List Char} {parts : List Piece} (whole : Decomposes text parts)
    {fates : Fates} (settles : Settles fates (parts.filterMap Piece.block?)) {front : List Char}
    (clean : isCleanCut fates front parts = true) {kind : BlockKind}
    (holds : HoldsClosingTag kind (rewrite fates parts)) : HoldsClosingTag kind text := by
  induction whole generalizing fates front with
  | nil => exact holds
  | @cons document rest piece others first further ih =>
    have here (inside : HoldsClosingTag kind piece.text) : HoldsClosingTag kind document :=
      inside.mono ⟨[], rest, first.text_append⟩
    have behind (inside : HoldsClosingTag kind rest) : HoldsClosingTag kind document :=
      inside.mono ⟨piece.text, [], by rw [List.append_nil, first.text_append]⟩
    cases piece with
    | block block =>
      simp only [isCleanCut, Bool.and_eq_true] at clean
      have later (holds : HoldsClosingTag kind (rewrite (fates.after (role block)) others)) :=
        behind (ih settles.after clean.2 holds)
      simp only [rewrite, Piece.block?] at holds
      rcases settles.apply_angles first with dropped | ⟨body, replaced⟩
      · rw [dropped, Fate.apply] at holds
        exact later holds
      · rw [replaced, ← List.cons_append] at holds
        rcases holds.of_append with own | kept
        · exact here (settles.holdsClosingTag first (by rw [replaced]; exact own))
        · exact later kept
    | char c =>
      obtain rfl : c :: rest = document := first.text_append
      simp only [isCleanCut] at clean
      have later (holds : HoldsClosingTag kind (rewrite fates others)) := behind (ih settles clean holds)
      have holds : HoldsClosingTag kind (c :: rewrite fates others) := holds
      by_cases angle : c = '<'
      · subst angle
        rcases holdsClosingTag_cons.mp holds with ⟨closing, closes, starts⟩ | kept
        · rcases sameToAngle_rewrite further settles clean with equal | same
          · exact ⟨closing, closes, by rw [← equal]; exact starts.isInfix⟩
          · exact ⟨closing, closes, (same.closingTag closes starts).isInfix⟩
        · exact later kept
      · exact later (holds.of_cons angle)
    | comment text =>
      obtain ⟨inside, rfl⟩ := first.ends (by simp) (by simp)
      rcases HoldsClosingTag.of_append holds with kept | kept
      · exact here kept
      · exact behind (ih settles clean kept)
    | strayTag text =>
      obtain ⟨inside, rfl⟩ := first.ends (by simp) (by simp)
      rcases HoldsClosingTag.of_append holds with kept | kept
      · exact here kept
      · exact behind (ih settles (Bool.and_eq_true_iff.mp clean).2 kept)
    | openComment text =>
      cases first
      cases further with
      | nil => exact here (by simpa [rewrite, Piece.block?, Piece.text] using holds)
      | cons reads _ => cases reads

/-- After a clean cut, the page is made of the pieces that were left and of the references. -/
theorem exists_left_parts {text : List Char} {parts : List Piece} (whole : Decomposes text parts) {fates : Fates}
    (settles : Settles fates (parts.filterMap Piece.block?)) {front : List Char}
    (clean : isCleanCut fates front parts = true) :
    ∃ left, Decomposes (rewrite fates parts) left ∧ (left.filterMap Piece.block?).all isSpent = true ∧
      left.filterMap Piece.block? = (fates.texts (parts.filterMap Piece.block?)).flatMap blocks := by
  induction whole generalizing fates front with
  | nil => exact ⟨[], .nil, rfl, rfl⟩
  | @cons document rest piece others first further ih =>
    cases first with
    | @block kind tag behind inner closing _ attributes named ends closes unclosed =>
      simp only [isCleanCut, Bool.and_eq_true] at clean
      obtain ⟨left, later, spent, found⟩ := ih settles.after clean.2
      simp only [rewrite, Piece.block?, List.filterMap_cons, Fates.texts, List.flatMap_cons]
      cases fate : fates (role ⟨kind, '<' :: tag, attributes, inner, closing⟩) with
      | keep =>
        simp only [fate] at clean
        have alone := ClosesItself.of_readTag? clean.1 named ends
        have gives := settles.kept _ (by simp [Piece.block?]) fate
        have stands := alone.stands_block closes unclosed
        refine ⟨.block ⟨kind, '<' :: tag, attributes, inner, closing⟩ :: left, ?_, ?_, ?_⟩
        · simpa [Fate.apply, Block.outer] using stands _ _ later
        · simp [Piece.block?, gives, spent]
        · have outer : Block.outer ⟨kind, '<' :: tag, attributes, inner, closing⟩ =
              '<' :: (tag ++ (inner ++ closing)) := by simp [Block.outer]
          rw [Fate.apply, outer, stands.decomposes.blocks_eq, List.filterMap_cons, found]
          rfl
      | replace reference =>
        obtain ⟨pieces, stands, quiet⟩ := (settles.referred _ (by simp [Piece.block?]) _ fate).stands
        refine ⟨pieces ++ left, stands _ _ later, by simp [quiet, spent], ?_⟩
        rw [List.filterMap_append, found, Fate.apply, stands.decomposes.blocks_eq]
      | drop =>
        have nothing : blocks [] = [] := Decomposes.nil.blocks_eq
        exact ⟨left, later, spent, by rw [Fate.apply, nothing, List.nil_append, found]⟩
    | @comment inside _ unended =>
      obtain ⟨left, later, spent, found⟩ := ih settles clean
      exact ⟨_ :: left, Stands.comment unended _ _ later, spent, found⟩
    | @strayTag kind tag _ _ _ named ends unclosed =>
      simp only [isCleanCut, Bool.and_eq_true] at clean
      obtain ⟨left, later, spent, found⟩ := ih settles clean.2
      have alone := ClosesItself.of_readTag? clean.1 named ends
      obtain ⟨behind, starts, read⟩ := alone.reads (rewrite fates others)
      have still := mt (holdsClosingTag_of_rewrite further settles clean.2) unclosed
      exact ⟨_ :: left, .cons (.strayTag starts read still) later, spent, found⟩
    | other plain =>
      obtain ⟨left, later, spent, found⟩ := ih settles clean
      exact ⟨_ :: left, .cons (.other plain) later, spent, found⟩
    | angle comment tag =>
      obtain ⟨left, later, spent, found⟩ := ih settles clean
      have same : rewrite fates others = _ ∨ SameToAngle ([] ++ _) ([] ++ rewrite fates others) :=
        sameToAngle_rewrite further settles clean
      have outside := fun absent => rewrite_eq_of_not_mem further absent fates
      exact ⟨_ :: left, .cons (reads_angle_of_same same outside (.angle comment tag)) later, spent, found⟩
    | openComment unclosed =>
      cases further with
      | nil => exact ⟨_, by simpa [rewrite, Piece.block?, Piece.text] using .cons (.openComment unclosed) .nil, rfl, rfl⟩
      | cons reads _ => cases reads

end PageAssets.Page
