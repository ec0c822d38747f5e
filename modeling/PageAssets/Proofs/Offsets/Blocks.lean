import PageAssets.Proofs.Markup.Decomposition
import PageAssets.Proofs.Offsets.Tags

/-! The blocks of a document by offsets. Every loop of the search comes to its end, each of its turns moves
on within the document, and the ranges that are found are where the blocks are placed. -/

namespace PageAssets.Offsets
open Text Markup

section ClosingTags
variable {kind : BlockKind} {text before behind : List Char}

theorem afterClosingTag?_mark (kind : BlockKind) (behind : List Char) :
    afterClosingTag? kind (['<', '/'] ++ behind) =
      (afterWord? kind.tagName behind).bind fun rest => List.isPrefixOf? ['>'] (rest.dropWhile isSpace) := by
  rw [afterClosingTag?, isPrefixOf?_append]
  rfl

theorem cutAtClosingTag?_of_unmarked (cut : cutAtMark? ['<', '/'] text = none) : cutAtClosingTag? kind text = none := by
  refine cutAtFirst?_eq_none_iff.mpr fun front here split => ?_
  rw [afterClosingTag?, cutAtFirst?_eq_none_iff.mp cut front here split]
  rfl

/-- A closing tag stands at the next mark, or else at some place behind the mark. -/
theorem cutAtClosingTag?_of_mark (cut : cutAtMark? ['<', '/'] text = some (before, behind)) :
    cutAtClosingTag? kind text =
      match afterClosingTag? kind (['<', '/'] ++ behind) with
      | some rest => some (before, rest)
      | none => (cutAtClosingTag? kind behind).map fun parts => (before ++ ['<', '/'] ++ parts.1, parts.2) := by
  obtain ⟨here, rfl, marked, first⟩ := cutAtFirst?_eq_some_iff.mp cut
  obtain rfl := List.isPrefixOf?_eq_some_iff_append_eq.mp marked
  have passed : cutAtClosingTag? kind (before ++ (['<', '/'] ++ behind)) =
      (cutAtClosingTag? kind (['<', '/'] ++ behind)).map fun parts => (before ++ parts.1, parts.2) := by
    apply cutAtFirst?_append
    rintro earlier inside rfl some
    have shorter : earlier.length < (earlier ++ inside).length := by
      simpa using List.length_pos_iff.mpr some
    rw [afterClosingTag?, first earlier _ (List.append_assoc _ _ _) shorter]
    rfl
  rw [passed]
  split
  next rest closed =>
    rw [cutAtClosingTag?, cutAtFirst?_of_some closed, Option.map_some, List.append_nil]
  next refused =>
    have slash : afterClosingTag? kind ('/' :: behind) = none := rfl
    have further : cutAtClosingTag? kind (['<', '/'] ++ behind) =
        (cutAtClosingTag? kind behind).map fun parts => (['<', '/'] ++ parts.1, parts.2) := by
      apply cutAtFirst?_append
      intro earlier inside split some
      cases earlier with
      | nil =>
        rw [List.nil_append] at split
        rwa [← split]
      | cons first earlier =>
        cases earlier with
        | nil =>
          obtain ⟨rfl, rfl⟩ := List.cons.inj split
          exact slash
        | cons second earlier =>
          obtain ⟨-, tail⟩ := List.cons.inj split
          exact absurd (List.append_eq_nil_iff.mp (List.cons.inj tail).2.symm).2 some
    rw [further, Option.map_map]
    simp [Function.comp_def]

end ClosingTags

def ClosingAdvance (document : List Char) (search : Nat) : Turn Nat (Option (Nat × Nat)) → Prop
  | .onward next => search < next ∧ next ≤ byteSize document
  | .done place => ∀ found ∈ place, search ≤ found.1 ∧ found.1 < found.2 ∧ found.2 ≤ byteSize document

/-- A closing tag that is found by offsets, and the text in front of it and behind it. -/
structure ClosingHolds (document : List Char) (search : Nat) (place : Nat × Nat) (parts : List Char × List Char) :
    Prop where
  front : place.1 = search + byteSize parts.1
  behind : At document place.2 parts.2

theorem isSome_isPrefixOf?_singleton (sign : Char) (text : List Char) :
    (List.isPrefixOf? [sign] text).isSome = text.head?.any fun c => c = sign := by
  cases text with
  | nil => rfl
  | cons c rest => by_cases same : c = sign <;> simp [isPrefixOf?_cons, same]

namespace At
variable {document text rest : List Char} {offset : Nat}

theorem behindMark {mark : List Char} (here : At document offset text) (read : mark.isPrefixOf? text = some rest) :
    At document (offset + byteSize mark) rest := by
  obtain rfl := List.isPrefixOf?_eq_some_iff_append_eq.mp read
  exact here.advance

/-- A turn of the search for a closing tag decides about the next mark. -/
theorem closingTurn (here : At document offset text) (kind : BlockKind) {before behind : List Char}
    (cut : cutAtMark? ['<', '/'] text = some (before, behind)) :
    At document (offset + byteSize before + 2) behind ∧
      match afterClosingTag? kind (['<', '/'] ++ behind) with
      | none => closingTurn document kind offset = pure (.onward (offset + byteSize before + 2))
      | some rest =>
        ∃ stop, closingTurn document kind offset = pure (.done (some (offset + byteSize before, stop))) ∧
          offset + byteSize before < stop ∧ At document stop rest := by
  have found := here.find ['<', '/']
  rw [cut, Option.map_some] at found
  obtain ⟨_, rfl, marked, -⟩ := cutAtFirst?_eq_some_iff.mp cut
  have there : At document (offset + byteSize before + 2) behind := here.advance.behindMark marked
  refine ⟨there, ?_⟩
  rw [Offsets.closingTurn, found, afterClosingTag?_mark]
  simp only [pure_bind, there.wordAt (ascii_tagName kind)]
  cases word : Markup.afterWord? kind.tagName behind with
  | none => simp
  | some after =>
    obtain ⟨spaced, next⟩ := (there.afterWord? word).skip agrees_isSpace
    simp only [Option.bind_some, Option.isSome_some, if_true, spaced, pure_bind, next.holdsAt agrees_angle,
      ← isSome_isPrefixOf?_singleton]
    cases closed : List.isPrefixOf? ['>'] (after.dropWhile isSpace) with
    | none => simp
    | some rest => exact ⟨_, rfl, by omega, next.behindMark closed⟩

/-- The search for a closing tag comes to an end and finds what is found in the text there. -/
theorem closing (here : At document offset text) (kind : BlockKind) :
    ∃ found, Runs (Offsets.closingTurn document kind) (ClosingAdvance document) offset found ∧
      Option.Rel (ClosingHolds document offset) found (cutAtClosingTag? kind text) := by
  induction size : text.length using Nat.strongRecOn generalizing offset text with
  | ind size ih =>
    subst size
    cases cut : cutAtMark? ['<', '/'] text with
    | none =>
      have found := here.find ['<', '/']
      rw [cut, Option.map_none] at found
      rw [cutAtClosingTag?_of_unmarked cut]
      refine ⟨none, .done ?_ (by simp [ClosingAdvance]), .none⟩
      rw [Offsets.closingTurn, found, pure_bind]
    | some parts =>
      obtain ⟨before, behind⟩ := parts
      obtain ⟨there, turn⟩ := here.closingTurn kind cut
      rw [cutAtClosingTag?_of_mark cut]
      generalize afterClosingTag? kind (['<', '/'] ++ behind) = closing at turn
      cases closing with
      | none =>
        have shorter : behind.length < text.length := by
          obtain ⟨here, rfl, marked, -⟩ := cutAtFirst?_eq_some_iff.mp cut
          rw [← List.isPrefixOf?_eq_some_iff_append_eq.mp marked]
          simp only [List.length_append, List.length_cons]
          omega
        obtain ⟨found, runs, holds⟩ := ih behind.length shorter there rfl
        refine ⟨found, .onward turn ⟨by omega, there.le⟩ runs, ?_⟩
        generalize cutAtClosingTag? kind behind = further at holds
        cases holds with
        | none => exact .none
        | some hold =>
          have mark : byteSize ['<', '/'] = 2 := rfl
          refine .some ⟨?_, hold.behind⟩
          rw [hold.front, byteSize_append, byteSize_append, mark]
          omega
      | some rest =>
        obtain ⟨stop, turn, moved, last⟩ := turn
        refine ⟨some (offset + byteSize before, stop), .done turn ?_, .some ⟨rfl, last⟩⟩
        intro found same
        cases same
        exact ⟨Nat.le_add_right _ _, moved, last.le⟩

theorem nameAt (here : At document offset text) (kind : BlockKind) :
    nameAt document kind offset = pure (afterName? kind text).isSome := by
  have letters := sameLetters_octets (ascii_tagName kind) text
  rw [Offsets.nameAt, afterName?]
  cases read : Markup.afterWord? kind.tagName text with
  | none =>
    split
    next inside =>
      rw [here.byteRange (Nat.le_of_lt inside), pure_bind, letters, read]
      rfl
    next => rfl
  | some rest =>
    have behind := here.afterWord? read
    cases rest with
    | nil =>
      rw [if_neg (by simp [behind.lt_iff])]
      rfl
    | cons c more =>
      have inside := behind.lt_iff.mpr (List.cons_ne_nil _ _)
      obtain ⟨byte, member, first⟩ := behind.byteAt
      rw [if_pos inside, here.byteRange (Nat.le_of_lt inside), pure_bind, letters, read,
        Option.isSome_some, if_pos rfl, first, pure_bind, agrees_endsName c byte member, Option.filter_some]
      exact congrArg pure (Bool.eq_iff_iff.mpr Option.isSome_ite.symm)

theorem kindAt (here : At document offset text) : kindAt document offset = pure ((openingName? text).map Prod.fst) := by
  rw [Offsets.kindAt, here.nameAt, here.nameAt, pure_bind, pure_bind, openingName?]
  cases style : afterName? .style text with
  | some rest => simp [BlockKind.all, style]
  | none => cases script : afterName? .script text <;> simp [BlockKind.all, style, script]

theorem behindName {kind : BlockKind} (here : At document offset text) (named : openingName? text = some (kind, rest)) :
    At document (offset + byteSize kind.tagName) rest := by
  obtain ⟨name, rfl, same, -⟩ := openingName?_eq_some_iff.mp named
  rw [← byteSize_of_sameName same]
  exact here.advance

end At

/-- The range of a block, and the block that is placed there. -/
structure BlockRange.Holds (document : List Char) (found : BlockRange) (placed : Placed) : Prop where
  kind : found.kind = placed.block.kind
  span : found.span = placed.span
  inner : found.inner = placed.innerSpan
  attributes : List.Forall₂ (AttributeRange.Holds document) found.attributes placed.block.attributes
  stands : ∃ rest, At document placed.start (placed.block.outer ++ rest)

/-- A turn of the search by offsets, and the round of the search through the text. -/
inductive Matches (document : List Char) : Turn Nat (Option BlockRange × Nat) → Round → Prop where
  | finished : Matches document (.done (none, byteSize document)) .finished
  | onward (next : Cursor) (there : At document next.offset next.text) :
      Matches document (.onward next.offset) (.onward next)
  | found {found : BlockRange} {placed : Placed} (holds : found.Holds document placed) (next : Cursor)
      (there : At document next.offset next.text) :
      Matches document (.done (some found, next.offset)) (.found placed next)

namespace At
variable {document text rest : List Char} {angle offset : Nat}

theorem markAt (here : At document offset text) (mark : List Char) :
    markAt document mark offset = pure (mark.isPrefixOf? text).isSome := by
  rw [Offsets.markAt, here.sliceFrom, pure_bind]

theorem behindAngle (here : At document angle ('<' :: text)) : At document (angle + 1) text :=
  At.advance (show At document angle (['<'] ++ text) from here)

theorem markup (here : At document angle ('<' :: text)) :
    At document (angle + byteSize (readMarkup text).1.text) (readMarkup text).2 := by
  rw [← readMarkup_text] at here
  exact here.advance

/-- Behind a piece that is no block the search goes on, unless the piece hides the rest of the document. -/
theorem onward {piece : Piece} (here : At document angle ('<' :: text)) (markup : readMarkup text = (piece, rest))
    (there : At document offset rest) (blockless : piece.block? = none) (ends : ∀ hidden, piece ≠ .openComment hidden) :
    Matches document (.onward offset) (readAngle angle text) := by
  have passed := here.markup
  rw [markup] at passed
  obtain rfl := there.unique passed
  rw [readAngle, markup]
  cases piece with
  | block => cases blockless
  | openComment hidden => exact absurd rfl (ends hidden)
  | comment | strayTag | char => exact .onward ⟨_, _⟩ there

section Blocks
variable {kind : BlockKind} {attributes : List Attribute} {body inner : List Char} {found : List AttributeRange}

/-- The ranges of a block are the ones that its parts take up. -/
theorem block {start last : Nat} (here : At document angle ('<' :: text)) (opening : body <:+ text)
    (markup : readMarkup text = readBlock kind attributes ('<' :: upTo body text) body)
    (closed : cutAtClosingTag? kind body = some (inner, rest)) (there : At document start body)
    (behind : At document last rest) (holds : List.Forall₂ (AttributeRange.Holds document) found attributes) :
    Matches document (.done (some ⟨kind, ⟨angle, last⟩, ⟨start, start + byteSize inner⟩, found⟩, last))
      (readAngle angle text) := by
  have split : '<' :: upTo body text ++ body = '<' :: text := by rw [List.cons_append, upTo_append opening]
  have begins : At document (angle + byteSize ('<' :: upTo body text)) body := by
    rw [← split] at here
    exact here.advance
  have passed := here.markup
  have stands := readMarkup_text text
  rw [readBlock, closed] at markup
  rw [markup] at passed stands
  rw [← stands] at here
  obtain rfl := there.unique begins
  obtain rfl := behind.unique passed
  rw [readAngle, markup]
  exact .found ⟨rfl, rfl, rfl, holds, rest, here⟩ ⟨_, _⟩ behind

/-- At the name of a block, the search by offsets finds the block, or goes on behind its opening tag. -/
theorem blockTurn (here : At document angle ('<' :: text)) {kind : BlockKind}
    (comment : List.isPrefixOf? ['!', '-', '-'] text = none) (named : openingName? text = some (kind, rest)) :
    ∃ turn, blockTurn document angle kind = pure turn ∧ Matches document turn (readAngle angle text) := by
  obtain ⟨tag, read, holds⟩ := (here.behindAngle.behindName named).tag
  have opened : openingTag? text = (readTag? rest).map fun parts => (kind, parts.1, parts.2) := by
    rw [openingTag?, named]
    rfl
  rw [Offsets.blockTurn, read, pure_bind]
  cases tagged : readTag? rest with
  | none =>
    rw [tagged] at holds opened
    cases holds
    have markup : readMarkup text = (.char '<', text) := by rw [readMarkup, comment, opened, Option.map_none]
    exact ⟨_, rfl, here.onward markup here.behindAngle rfl (by simp)⟩
  | some parts =>
    obtain ⟨attributes, body⟩ := parts
    rw [tagged] at holds opened
    cases holds with
    | some holds =>
      obtain ⟨place, runs, found⟩ := holds.behind.closing kind
      have closing : closingFrom document kind _ = pure place := runs.loop_eq
      have markup : readMarkup text = readBlock kind attributes ('<' :: upTo body text) body := by
        rw [readMarkup, comment, opened, Option.map_some]
      simp only [closing, pure_bind]
      cases closed : cutAtClosingTag? kind body with
      | none =>
        rw [closed] at found
        cases found
        rw [readBlock, closed] at markup
        exact ⟨_, rfl, here.onward markup holds.behind rfl (by simp)⟩
      | some parts =>
        rw [closed] at found
        cases found with
        | some found =>
          have suffix := openingTag?_suffix opened
          refine ⟨_, rfl, ?_⟩
          rw [found.front]
          exact here.block suffix markup closed holds.behind found.behind holds.attributes

end Blocks

/-- One turn at an angle by offsets is one turn at the angle through the text. -/
theorem angleTurn (here : At document angle ('<' :: text)) :
    ∃ turn, angleTurn document angle = pure turn ∧ Matches document turn (readAngle angle text) := by
  have marked := here.markAt ['<', '!', '-', '-']
  have sign : List.isPrefixOf? ['<', '!', '-', '-'] ('<' :: text) = List.isPrefixOf? ['!', '-', '-'] text := by
    rw [isPrefixOf?_cons, if_pos rfl]
  rw [Offsets.angleTurn, marked, sign, pure_bind]
  cases comment : List.isPrefixOf? ['!', '-', '-'] text with
  | some inside =>
    have body : At document (angle + 4) inside := here.behindMark (sign.trans comment)
    rw [Option.isSome_some, if_pos rfl, body.find, pure_bind]
    cases cut : cutAtMark? ['-', '-', '>'] inside with
    | none =>
      have markup : readMarkup text = (.openComment ('<' :: text), []) := by simp only [readMarkup, comment, cut]
      refine ⟨_, rfl, ?_⟩
      rw [readAngle, markup]
      exact .finished
    | some parts =>
      obtain ⟨front, behind⟩ := parts
      have markup : readMarkup text = (.comment ('<' :: upTo behind text), behind) := by
        simp only [readMarkup, comment, cut]
      obtain ⟨_, rfl, ends, -⟩ := cutAtFirst?_eq_some_iff.mp cut
      have there : At document (angle + 4 + byteSize front + 3) behind := body.advance.behindMark ends
      exact ⟨_, rfl, here.onward markup there rfl (by simp)⟩
  | none =>
    rw [Option.isSome_none, if_neg Bool.false_ne_true, here.behindAngle.kindAt, pure_bind]
    cases named : openingName? text with
    | none =>
      have markup : readMarkup text = (.char '<', text) := by
        simp only [readMarkup, comment, openingTag?, named, Option.bind_none]
      exact ⟨_, rfl, here.onward markup here.behindAngle rfl (by simp)⟩
    | some parts => exact here.blockTurn comment named

/-- One turn of the search by offsets is one round of the search through the text. -/
theorem searchTurn (here : At document offset text) :
    ∃ turn, searchTurn document offset = pure turn ∧ Matches document turn (Cursor.mk offset text).round := by
  rw [Offsets.searchTurn, Cursor.round, here.find, cutAtMark?_singleton]
  cases ahead : text.dropWhile (· != '<') with
  | nil =>
    refine ⟨.done (none, byteSize document), ?_, .finished⟩
    simp only [Option.map_none, pure_bind]
    split
    next => rfl
    next outside => rw [Nat.le_antisymm here.le (Nat.le_of_not_lt outside)]
  | cons c rest =>
    have sign := List.head?_dropWhile_not (· != '<') text
    rw [ahead] at sign
    obtain rfl : c = '<' := by simpa using sign
    have whole := List.takeWhile_append_dropWhile (p := (· != '<')) (l := text)
    rw [ahead] at whole
    have inside : text ≠ [] := by
      rw [← whole]
      simp
    rw [if_pos (here.lt_iff.mpr inside), Option.map_some, pure_bind]
    rw [← whole] at here
    exact here.advance.angleTurn

end At

/-- A turn of the search goes on behind where it started, or has found a block or reached the end. The offset
at which it leaves the search never lies behind the end of the document. -/
def SearchAdvance (document : List Char) (position : Nat) : Turn Nat (Option BlockRange × Nat) → Prop
  | .onward next => position < next ∧ next ≤ byteSize document
  | .done (_, last) => last ≤ byteSize document ∧ (position < byteSize document → position < last)

theorem Matches.advance {document text : List Char} {offset : Nat} {turn : Turn Nat (Option BlockRange × Nat)}
    (matched : Matches document turn (Cursor.mk offset text).round) (here : At document offset text) :
    SearchAdvance document offset turn := by
  generalize reached : (Cursor.mk offset text).round = round at matched
  cases matched with
  | finished => exact ⟨Nat.le_refl _, id⟩
  | onward next there =>
    have shorter := Cursor.round_shorter (congrArg Round.next? reached)
    exact ⟨here.lt_of_shorter there shorter, there.le⟩
  | found holds next there =>
    have shorter := Cursor.round_shorter (congrArg Round.next? reached)
    exact ⟨there.le, fun _ => here.lt_of_shorter there shorter⟩

/-- What the search for the next block comes to, given the blocks in the text that is left: there are none,
or the first of them is found, and the others are in the text behind it. -/
inductive Next (document text : List Char) : List Placed → Option BlockRange × Nat → Prop where
  | none (last : Nat) : Next document text [] (none, last)
  | some {found : BlockRange} {placed : Placed} (holds : found.Holds document placed) (next : Cursor)
      (there : At document next.offset next.text) (shorter : next.text.length < text.length) :
      Next document text (placed :: next.blocks) (some found, next.offset)

theorem Next.longer {document text longer : List Char} {blocks : List Placed} {result : Option BlockRange × Nat}
    (found : Next document text blocks result) (size : text.length ≤ longer.length) :
    Next document longer blocks result := by
  cases found with
  | none last => exact .none last
  | some holds next there shorter => exact .some holds next there (Nat.lt_of_lt_of_le shorter size)

def BlocksAdvance (document : List Char) (state : Nat × List BlockRange) :
    Turn (Nat × List BlockRange) (List BlockRange) → Prop
  | .onward next => state.1 < next.1 ∧ next.1 ≤ byteSize document
  | .done _ => state.1 ≤ byteSize document

namespace At
variable {document text : List Char} {offset : Nat}

/-- The search for the next block comes to an end, and finds the first block in the text that is left. -/
theorem nextBlock (here : At document offset text) :
    ∃ result, Runs (Offsets.searchTurn document) (SearchAdvance document) offset result ∧
      Next document text (Cursor.mk offset text).blocks result := by
  induction size : text.length using Nat.strongRecOn generalizing offset text with
  | ind size ih =>
    subst size
    obtain ⟨turn, goes, matched⟩ := here.searchTurn
    have moved := matched.advance here
    rw [Cursor.blocks_eq_round]
    generalize reached : (Cursor.mk offset text).round = round at matched
    cases matched with
    | finished => exact ⟨_, .done goes moved, .none _⟩
    | onward next there =>
      have shorter := Cursor.round_shorter (congrArg Round.next? reached)
      obtain ⟨result, runs, found⟩ := ih _ shorter there rfl
      exact ⟨result, .onward goes moved runs, found.longer (Nat.le_of_lt shorter)⟩
    | found holds next there =>
      exact ⟨_, .done goes moved, .some holds next there (Cursor.round_shorter (congrArg Round.next? reached))⟩

/-- Finding all blocks comes to an end, and finds the ones in the text that is left. -/
theorem blocks (here : At document offset text) :
    ∃ found, (∀ before, Runs (blocksTurn document) (BlocksAdvance document) (offset, before) (before ++ found)) ∧
      List.Forall₂ (BlockRange.Holds document) found (Cursor.mk offset text).blocks := by
  induction size : text.length using Nat.strongRecOn generalizing offset text with
  | ind size ih =>
    subst size
    obtain ⟨result, runs, found⟩ := here.nextBlock
    have searched : Offsets.nextBlock document offset = pure result := runs.loop_eq
    generalize (Cursor.mk offset text).blocks = blocks at found
    cases found with
    | none last =>
      refine ⟨[], ?_, .nil⟩
      intro before
      rw [List.append_nil]
      refine .done ?_ here.le
      simp only [blocksTurn, searched, pure_bind]
    | @some found placed holds next there shorter =>
      obtain ⟨others, further, hold⟩ := ih _ shorter there rfl
      refine ⟨found :: others, ?_, .cons holds hold⟩
      intro before
      have goes := further (before ++ [found])
      rw [List.append_assoc, List.singleton_append] at goes
      refine .onward ?_ ⟨here.lt_of_shorter there shorter, there.le⟩ goes
      simp only [blocksTurn, searched, pure_bind]

end At

namespace BlockRange.Holds
variable {document : List Char} {found : BlockRange} {placed : Placed}

theorem outer (holds : found.Holds document placed) : found.outer document = pure placed.block.outer := by
  obtain ⟨rest, stands⟩ := holds.stands
  rw [BlockRange.outer, holds.span]
  exact stands.slice

theorem opening (holds : found.Holds document placed) :
    slice document found.span.start found.inner.start = pure placed.block.opening := by
  obtain ⟨rest, stands⟩ := holds.stands
  rw [Block.outer, List.append_assoc, List.append_assoc] at stands
  rw [holds.span, holds.inner]
  exact stands.slice

theorem body (holds : found.Holds document placed) :
    slice document found.inner.start found.inner.stop = pure placed.block.inner := by
  obtain ⟨rest, stands⟩ := holds.stands
  rw [Block.outer, List.append_assoc, List.append_assoc] at stands
  rw [holds.inner]
  exact stands.advance.slice

theorem closing (holds : found.Holds document placed) :
    slice document found.inner.stop found.span.stop = pure placed.block.closing := by
  obtain ⟨rest, stands⟩ := holds.stands
  have stop : placed.span.stop = placed.innerStop + byteSize placed.block.closing := by
    simp [Placed.span, Placed.innerStop, Placed.innerStart, Block.outer, Nat.add_assoc]
  rw [Block.outer, List.append_assoc, List.append_assoc] at stands
  rw [holds.span, holds.inner, stop]
  exact stands.advance.advance.slice

/-- A range is read back as the block that it was made for. -/
theorem read (holds : found.Holds document placed) : found.read document = pure placed := by
  have attributes := mapM_eq_pure (holds.attributes.imp fun _ _ hold => hold.read)
  rw [BlockRange.read, holds.opening, pure_bind, holds.body, pure_bind, holds.closing, pure_bind, attributes, pure_bind,
    holds.kind, holds.span]
  rfl

end BlockRange.Holds

theorem blockRanges_eq (document : List Char) :
    ∃ found, blockRanges document = pure found ∧
      List.Forall₂ (BlockRange.Holds document) found (placedBlocks document) := by
  obtain ⟨found, runs, holds⟩ := (At.start document).blocks
  exact ⟨found, (runs []).loop_eq, holds⟩

/-- The search by offsets never fails, always ends, and finds the blocks of the document. -/
theorem readBlocks_eq (document : List Char) : readBlocks document = pure (placedBlocks document) := by
  obtain ⟨found, read, holds⟩ := blockRanges_eq document
  rw [readBlocks, read, pure_bind]
  exact mapM_eq_pure (holds.imp fun _ _ hold => hold.read)

theorem readOuter_eq (document : List Char) : readOuter document = pure ((blocks document).map Block.outer) := by
  obtain ⟨found, read, holds⟩ := blockRanges_eq document
  rw [readOuter, read, pure_bind, blocks, List.map_map]
  exact mapM_eq_pure (List.forall₂_map_right_iff.mpr (holds.imp fun _ _ hold => hold.outer))

end PageAssets.Offsets
