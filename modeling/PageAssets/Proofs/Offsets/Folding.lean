import PageAssets.Page.Script
import PageAssets.Proofs.Offsets.Blocks

/-! Documents that differ in the case of letters and in the sort of space only. Folding a document makes
its letters small and its space blank, and leaves every character where it is. The search by offsets does not
tell a document from the folded one, so two documents that fold to the same are searched alike. -/

namespace PageAssets.Offsets
open Text Markup Page

def fold (c : Char) : Char := if isSpace c then ' ' else c.toLower

def foldByte (byte : UInt8) : UInt8 := if isSpaceByte byte then ' '.toUInt8 else lowerByte byte

section Characters
variable {c : Char}

theorem fold_ascii (ascii : c.toNat < 128) :
    (fold c).toNat < 128 ∧ foldByte c.toUInt8 = (fold c).toUInt8 ∧ (fold c).utf8Size = c.utf8Size := by
  revert c
  apply forall_ascii
  decide

theorem fold_of_le (large : 128 ≤ c.toNat) : fold c = c := by
  have visible : isSpace c = false := by
    by_contra space
    simp only [isSpace, Bool.not_eq_false, Bool.or_eq_true, decide_eq_true_eq] at space
    rcases space with (((rfl | rfl) | rfl) | rfl) | rfl
    all_goals exact absurd large (by decide)
  rw [fold, visible, toLower_of_le large]
  rfl

theorem foldByte_of_le {byte : UInt8} (large : 128 ≤ byte.toNat) : foldByte byte = byte := by
  have visible : isSpaceByte byte = false := by
    by_contra space
    simp only [isSpaceByte, Bool.not_eq_false, Bool.or_eq_true, decide_eq_true_eq] at space
    rcases space with (((rfl | rfl) | rfl) | rfl) | rfl
    all_goals exact absurd large (by decide)
  rw [foldByte, visible, lowerByte_of_le large]
  rfl

@[simp] theorem utf8Size_fold (c : Char) : (fold c).utf8Size = c.utf8Size := by
  by_cases ascii : c.toNat < 128
  · exact (fold_ascii ascii).2.2
  · rw [fold_of_le (by omega)]

theorem encode_fold (c : Char) : String.utf8EncodeChar (fold c) = (String.utf8EncodeChar c).map foldByte := by
  by_cases ascii : c.toNat < 128
  · obtain ⟨still, same, -⟩ := fold_ascii ascii
    rw [encode_ascii ascii, encode_ascii still, List.map_singleton, same]
  · have large : 128 ≤ c.toNat := by omega
    rw [fold_of_le large, List.map_congr_left fun byte member => foldByte_of_le (le_of_mem_encode large member),
      List.map_id']

end Characters

@[simp] theorem byteSize_fold (text : List Char) : byteSize (text.map fold) = byteSize text := by
  induction text with
  | nil => rfl
  | cons c rest ih => rw [List.map_cons, byteSize_cons, byteSize_cons, utf8Size_fold, ih]

theorem octets_fold (text : List Char) : octets (text.map fold) = (octets text).map foldByte := by
  induction text with
  | nil => rfl
  | cons c rest ih => rw [List.map_cons, octets_cons, octets_cons, List.map_append, encode_fold, ih]

theorem octets_inj {first second : List Char} (same : octets first = octets second) : first = second := by
  have encoded : (String.ofList first).toUTF8 = (String.ofList second).toUTF8 :=
    ByteArray.ext (Array.toList_inj.mp same)
  exact String.ofList_inj.mp (String.toByteArray_inj.mp encoded)

section Reading
variable (text : List Char)

theorem cutAt_fold (size : Nat) :
    cutAt size (text.map fold) = (fun parts => (parts.1.map fold, parts.2.map fold)) <$> cutAt size text := by
  induction text generalizing size with
  | nil =>
    cases size with
    | zero => rw [List.map_nil, cutAt_zero, map_pure, List.map_nil]
    | succ size => rw [List.map_nil, cutAt, map_throw]
  | cons c rest ih =>
    cases size with
    | zero => rw [cutAt_zero, cutAt_zero, map_pure, List.map_nil]
    | succ size =>
      rw [List.map_cons, cutAt, cutAt, utf8Size_fold]
      split
      next =>
        rw [ih, bind_map_left, map_bind]
        simp only [map_pure, List.map_cons]
      next => rw [map_throw]

theorem sliceFrom_fold (start : Nat) : sliceFrom (text.map fold) start = List.map fold <$> sliceFrom text start := by
  rw [sliceFrom, sliceFrom, cutAt_fold, bind_map_left, map_bind]
  simp only [map_pure]

theorem sliceTo_fold (stop : Nat) : sliceTo (text.map fold) stop = List.map fold <$> sliceTo text stop := by
  rw [sliceTo, sliceTo, cutAt_fold, bind_map_left, map_bind]
  simp only [map_pure]

theorem slice_fold (start stop : Nat) : slice (text.map fold) start stop = List.map fold <$> slice text start stop := by
  rw [slice, slice]
  split
  next => rw [map_throw]
  next =>
    rw [sliceTo_fold, bind_map_left, map_bind]
    simp only [sliceFrom_fold]

theorem byteAt_fold (offset : Nat) : byteAt (text.map fold) offset = foldByte <$> byteAt text offset := by
  rw [byteAt, byteAt, octets_fold, List.getElem?_map]
  cases (octets text)[offset]? with
  | none => simp only [Option.map_none, map_throw]
  | some byte => simp only [Option.map_some, map_pure]

theorem byteRange_fold (start stop : Nat) :
    byteRange (text.map fold) start stop = List.map foldByte <$> byteRange text start stop := by
  rw [byteRange, byteRange, byteSize_fold, octets_fold]
  split
  next => rw [map_throw]
  next =>
    split
    next => rw [map_throw]
    next => rw [← List.map_take, ← List.map_drop, map_pure]

end Reading

def signs : List Char := ['<', '>', '/', '!', '-', '"', '\'']

theorem fold_eq_sign_iff {sign c : Char} (known : sign ∈ signs) : fold c = sign ↔ c = sign := by
  have all : ∀ c : Char, c.toNat < 128 → signs.all fun sign => fold c = sign ↔ c = sign := forall_ascii (by decide)
  by_cases ascii : c.toNat < 128
  · exact of_decide_eq_true (List.all_eq_true.mp (all c ascii) sign known)
  · rw [fold_of_le (by omega)]

theorem forall_byte {holds : UInt8 → Prop} (all : ∀ code : Fin 256, holds (UInt8.ofFin code)) (byte : UInt8) :
    holds byte := all byte.toFin

/-- A test that comes out the same whatever the case of a letter and the sort of space. -/
def Insensitive (test : UInt8 → Bool) : Prop := ∀ byte, test (foldByte byte) = test byte

theorem insensitive_isSpace : Insensitive isSpaceByte := forall_byte (by decide +kernel)

theorem insensitive_isSeparator : Insensitive isSeparatorByte := forall_byte (by decide +kernel)

theorem insensitive_isName : Insensitive isNameByte := forall_byte (by decide +kernel)

theorem insensitive_isBareValue : Insensitive isBareValueByte := forall_byte (by decide +kernel)

theorem insensitive_isQuote : Insensitive isQuoteByte := forall_byte (by decide +kernel)

theorem insensitive_endsName : Insensitive endsNameByte := forall_byte (by decide +kernel)

theorem insensitive_equals : Insensitive (· = '='.toUInt8) := forall_byte (by decide +kernel)

theorem insensitive_angle : Insensitive (· = '>'.toUInt8) := forall_byte (by decide +kernel)

theorem map_eq_iff {α β : Type} {first second : α → β} {word : List β}
    (same : ∀ letter ∈ word, ∀ item, first item = letter ↔ second item = letter) (text : List α) :
    text.map first = word ↔ text.map second = word := by
  induction text generalizing word with
  | nil => rfl
  | cons item rest ih =>
    cases word with
    | nil => simp
    | cons letter word =>
      rw [List.map_cons, List.map_cons, List.cons.injEq, List.cons.injEq, same letter List.mem_cons_self item,
        ih fun other member => same other (List.mem_cons_of_mem _ member)]

/-- A word without space is recognised in a folded text where it is recognised in the text. -/
theorem sameLetters_fold (kind : BlockKind) (text : List UInt8) :
    sameLetters (text.map foldByte) (octets kind.tagName) = sameLetters text (octets kind.tagName) := by
  have letters : ∀ letter ∈ (kind.tagName.map Char.toUInt8).map lowerByte, ∀ code : Fin 256,
      lowerByte (foldByte (UInt8.ofFin code)) = letter ↔ lowerByte (UInt8.ofFin code) = letter := by
    cases kind <;> decide +kernel
  rw [sameLetters, sameLetters, List.map_map, decide_eq_decide, octets_ascii (ascii_tagName kind)]
  exact map_eq_iff (fun letter member => forall_byte (letters letter member)) text

section Search
variable (document : List Char)

theorem isPrefixOf?_fold {mark : List Char} (known : ∀ sign ∈ mark, sign ∈ signs) (text : List Char) :
    mark.isPrefixOf? (text.map fold) = (mark.isPrefixOf? text).map (List.map fold) := by
  induction mark generalizing text with
  | nil => rfl
  | cons sign mark ih =>
    cases text with
    | nil => rfl
    | cons c text =>
      have rest := ih (fun other later => known other (List.mem_cons_of_mem _ later)) text
      simp only [List.map_cons, isPrefixOf?_cons, fold_eq_sign_iff (known sign List.mem_cons_self), rest]
      split <;> rfl

theorem cutAtMark?_fold {mark : List Char} (known : ∀ sign ∈ mark, sign ∈ signs) (text : List Char) :
    cutAtMark? mark (text.map fold) =
      (cutAtMark? mark text).map fun parts => (parts.1.map fold, parts.2.map fold) := by
  rw [cutAtMark?, cutAtMark?]
  induction text with
  | nil =>
    have here := isPrefixOf?_fold known []
    rw [List.map_nil] at here
    rw [List.map_nil, cutAtFirst?, Option.map_map]
    cases marked : mark.isPrefixOf? [] with
    | none => rfl
    | some behind =>
      rw [marked] at here
      simpa using here
  | cons c rest ih =>
    have here := isPrefixOf?_fold known (c :: rest)
    rw [List.map_cons] at here
    rw [List.map_cons, cutAtFirst?, cutAtFirst?, here]
    cases mark.isPrefixOf? (c :: rest) with
    | some behind => rfl
    | none =>
      simp only [Option.map_none, ih, Option.map_map]
      rfl

theorem find_fold {mark : List Char} (known : ∀ sign ∈ mark, sign ∈ signs) :
    find (document.map fold) mark = find document mark := by
  funext start
  rw [find, find, sliceFrom_fold, bind_map_left]
  simp [cutAtMark?_fold known, Function.comp_def]

theorem markAt_fold {mark : List Char} (known : ∀ sign ∈ mark, sign ∈ signs) :
    markAt (document.map fold) mark = markAt document mark := by
  funext offset
  rw [markAt, markAt, sliceFrom_fold, bind_map_left]
  simp [isPrefixOf?_fold known]

theorem range_fold : range (document.map fold) = range document := by
  funext start stop
  rw [range, range, slice_fold, bind_map_left]

theorem holdsAt_fold {test : UInt8 → Bool} (insensitive : Insensitive test) :
    holdsAt (document.map fold) test = holdsAt document test := by
  funext offset
  rw [holdsAt, holdsAt, byteSize_fold, byteAt_fold, bind_map_left]
  simp only [insensitive _]

theorem skip_fold {test : UInt8 → Bool} (insensitive : Insensitive test) :
    skip (document.map fold) test = skip document test := by
  rw [skip, skip, holdsAt_fold document insensitive]

theorem wordAt_fold (kind : BlockKind) : wordAt (document.map fold) kind.tagName = wordAt document kind.tagName := by
  funext offset
  rw [wordAt, wordAt, byteSize_fold, byteRange_fold, bind_map_left]
  simp only [sameLetters_fold]

theorem nameAt_fold : nameAt (document.map fold) = nameAt document := by
  funext kind offset
  rw [nameAt, nameAt, byteSize_fold, byteRange_fold, byteAt_fold, bind_map_left, bind_map_left]
  simp only [sameLetters_fold, insensitive_endsName _]

theorem kindAt_fold : kindAt (document.map fold) = kindAt document := by
  funext offset
  rw [kindAt, kindAt, nameAt_fold]

/-- A quote is what it was, so it is closed by the same quote. -/
theorem foldByte_of_isQuoteByte {byte : UInt8} (quote : isQuoteByte byte = true) :
    foldByte byte = byte ∧ Char.ofUInt8 byte ∈ signs := by
  simp only [isQuoteByte, Bool.or_eq_true, decide_eq_true_eq] at quote
  rcases quote with rfl | rfl <;> decide

theorem valueFrom_fold : valueFrom (document.map fold) = valueFrom document := by
  funext offset
  rw [valueFrom, valueFrom, skip_fold document insensitive_isSpace, skip_fold document insensitive_isBareValue,
    byteSize_fold, range_fold]
  refine bind_congr fun start => ?_
  split
  next =>
    rw [byteAt_fold, bind_map_left]
    refine bind_congr fun first => ?_
    rw [insensitive_isQuote first]
    split
    next quote =>
      obtain ⟨same, known⟩ := foldByte_of_isQuoteByte quote
      rw [same, find_fold document fun sign member => List.mem_singleton.mp member ▸ known]
    next => rfl
  next => rfl

theorem attributeFrom_fold : attributeFrom (document.map fold) = attributeFrom document := by
  funext start
  rw [attributeFrom, attributeFrom, skip_fold document insensitive_isName, skip_fold document insensitive_isSpace,
    range_fold, holdsAt_fold document insensitive_equals, valueFrom_fold]

theorem attributesFrom_fold : attributesFrom (document.map fold) = attributesFrom document := by
  have turns : attributesTurn (document.map fold) = attributesTurn document := by
    funext state
    rw [attributesTurn, attributesTurn, skip_fold document insensitive_isSeparator, byteSize_fold, attributeFrom_fold]
    refine bind_congr fun start => ?_
    split
    next =>
      rw [byteAt_fold, bind_map_left]
      refine bind_congr fun byte => ?_
      have same : foldByte byte = '>'.toUInt8 ↔ byte = '>'.toUInt8 := decide_eq_decide.mp (insensitive_angle byte)
      simp only [same]
    next => rfl
  funext start
  rw [attributesFrom, attributesFrom, turns]

theorem tagFrom_fold : tagFrom (document.map fold) = tagFrom document := by
  funext start
  rw [tagFrom, tagFrom, attributesFrom_fold, find_fold document (by simp [signs])]
  simp only [sliceTo_fold, bind_map_left, attributesFrom_fold]

theorem closingFrom_fold : closingFrom (document.map fold) = closingFrom document := by
  have turns : closingTurn (document.map fold) = closingTurn document := by
    funext kind search
    rw [closingTurn, closingTurn, find_fold document (by simp [signs]), wordAt_fold,
      skip_fold document insensitive_isSpace, holdsAt_fold document insensitive_angle]
  funext kind
  rw [closingFrom, closingFrom, turns]

theorem angleTurn_fold : angleTurn (document.map fold) = angleTurn document := by
  have blocks : blockTurn (document.map fold) = blockTurn document := by
    funext angle kind
    rw [blockTurn, blockTurn, tagFrom_fold, closingFrom_fold]
  funext angle
  rw [angleTurn, angleTurn, markAt_fold document (by simp [signs]), find_fold document (by simp [signs]), byteSize_fold,
    kindAt_fold, blocks]

theorem nextBlock_fold : nextBlock (document.map fold) = nextBlock document := by
  have turns : searchTurn (document.map fold) = searchTurn document := by
    funext position
    rw [searchTurn, searchTurn, byteSize_fold, find_fold document (by simp [signs]), angleTurn_fold]
  rw [nextBlock, nextBlock, turns]

/-- The search finds the same ranges in a document and in the folded one. -/
theorem blockRanges_fold : blockRanges (document.map fold) = blockRanges document := by
  have turns : blocksTurn (document.map fold) = blocksTurn document := by
    funext state
    rw [blocksTurn, blocksTurn, nextBlock_fold]
  rw [blockRanges, blockRanges, turns]

end Search

def Similar (first second : UInt8) : Prop :=
  lowerByte first = lowerByte second ∨ isSpaceByte first = true ∧ isSpaceByte second = true

instance (first second : UInt8) : Decidable (Similar first second) :=
  inferInstanceAs
    (Decidable (lowerByte first = lowerByte second ∨ isSpaceByte first = true ∧ isSpaceByte second = true))

theorem isSpaceByte_lowerByte : ∀ byte, isSpaceByte (lowerByte byte) = isSpaceByte byte :=
  forall_byte (by decide +kernel)

theorem Similar.foldByte_eq {first second : UInt8} (similar : Similar first second) :
    foldByte first = foldByte second := by
  rcases similar with same | ⟨space, other⟩
  · have both : isSpaceByte first = isSpaceByte second := by
      rw [← isSpaceByte_lowerByte, same, isSpaceByte_lowerByte]
    rw [foldByte, foldByte, both, same]
  · rw [foldByte, foldByte, if_pos space, if_pos other]

theorem map_fold_eq {first second : List Char} (similar : List.Forall₂ Similar (octets first) (octets second)) :
    first.map fold = second.map fold := by
  apply octets_inj
  rw [octets_fold, octets_fold]
  generalize octets first = bytes at similar
  generalize octets second = others at similar
  induction similar with
  | nil => rfl
  | cons same _ ih => rw [List.map_cons, List.map_cons, same.foldByte_eq, ih]

section Comparison
variable {first second : List Char}

/-- The same range holds texts that fold to the same. -/
theorem Holds.fold_eq {span : Span} {text other : List Char} (folds : first.map fold = second.map fold)
    (holds : Holds first span text) (others : Holds second span other) : text.map fold = other.map fold := by
  rw [Holds] at holds others
  have here := slice_fold first span.start span.stop
  rw [folds, slice_fold, holds, others, map_pure, map_pure] at here
  exact (pure_inj.mp here).symm

theorem namesSource_fold (name : List Char) : namesSource (name.map fold) = namesSource name := by
  have small : ∀ c : Char, c.toNat < 128 →
      (sourceName.map Char.toLower).all fun letter => (fold c).toLower = letter ↔ c.toLower = letter :=
    forall_ascii (by decide)
  have letters : ∀ letter ∈ sourceName.map Char.toLower, ∀ c, (fold c).toLower = letter ↔ c.toLower = letter := by
    intro letter member c
    by_cases ascii : c.toNat < 128
    · exact of_decide_eq_true (List.all_eq_true.mp (small c ascii) letter member)
    · rw [fold_of_le (by omega)]
  rw [namesSource, namesSource, sameName, sameName, List.map_map, decide_eq_decide]
  exact map_eq_iff letters name

theorem forall₂_of_common {α β γ : Type} {R : α → β → Prop} {S : α → γ → Prop} {T : β → γ → Prop}
    (combine : ∀ a b c, R a b → S a c → T b c) {common : List α} {left : List β} {right : List γ}
    (lefts : List.Forall₂ R common left) (rights : List.Forall₂ S common right) : List.Forall₂ T left right := by
  induction lefts generalizing right with
  | nil =>
    cases rights
    exact .nil
  | cons here _ ih =>
    cases rights with
    | cons there further => exact .cons (combine _ _ _ here there) (ih further)

structure AttributesAlike (one other : Attribute) : Prop where
  value : one.value.isSome = other.value.isSome
  source : namesSource one.name = namesSource other.name

/-- Blocks of one kind and one class that take up the same place, with their attributes alike. -/
structure Alike (one other : Placed) : Prop where
  kind : one.block.kind = other.block.kind
  span : one.span = other.span
  inner : one.innerSpan = other.innerSpan
  attributes : List.Forall₂ AttributesAlike one.block.attributes other.block.attributes
  scriptClass : scriptClass one.block = scriptClass other.block

theorem isSome_eq_of_rel {α β : Type} {R : α → β → Prop} {left : Option α} {right : Option β}
    (related : Option.Rel R left right) : left.isSome = right.isSome := by
  cases related <;> rfl

theorem AttributeRange.Holds.alike {found : AttributeRange} {one other : Attribute}
    (folds : first.map fold = second.map fold) (holds : found.Holds first one) (others : found.Holds second other) :
    AttributesAlike one other where
  value := (isSome_eq_of_rel holds.value).symm.trans (isSome_eq_of_rel others.value)
  source := by rw [← namesSource_fold one.name, holds.name.fold_eq folds others.name, namesSource_fold]

theorem any_namesSource_eq {left right : List Attribute} (alike : List.Forall₂ AttributesAlike left right) :
    (left.any fun one => namesSource one.name) = right.any fun other => namesSource other.name := by
  induction alike with
  | nil => rfl
  | cons here _ ih => rw [List.any_cons, List.any_cons, here.source, ih]

theorem BlockRange.Holds.alike {found : BlockRange} {one other : Placed} (folds : first.map fold = second.map fold)
    (holds : found.Holds first one) (others : found.Holds second other) : Alike one other := by
  have attributes :=
    forall₂_of_common (fun _ _ _ here there => here.alike folds there) holds.attributes others.attributes
  refine ⟨holds.kind.symm.trans others.kind, holds.span.symm.trans others.span, holds.inner.symm.trans others.inner,
    attributes, ?_⟩
  rw [Page.scriptClass, Page.scriptClass, any_namesSource_eq attributes]

end Comparison

/-- The case of letters and the sort of space never matter to the search. In two documents that differ in
nothing else, the same ranges are found, and the blocks that they hold are alike. -/
theorem blockRanges_insensitive (first second : List Char)
    (similar : List.Forall₂ Similar (octets first) (octets second)) :
    ∃ found, blockRanges first = pure found ∧ blockRanges second = pure found ∧
      List.Forall₂ (BlockRange.Holds first) found (placedBlocks first) ∧
      List.Forall₂ (BlockRange.Holds second) found (placedBlocks second) ∧
      List.Forall₂ Alike (placedBlocks first) (placedBlocks second) := by
  have folds := map_fold_eq similar
  obtain ⟨found, read, holds⟩ := blockRanges_eq first
  obtain ⟨others, again, hold⟩ := blockRanges_eq second
  have same : blockRanges first = blockRanges second := by rw [← blockRanges_fold first, folds, blockRanges_fold]
  obtain rfl : found = others := pure_inj.mp (read.symm.trans (same.trans again))
  exact ⟨found, read, again, holds, hold, forall₂_of_common (fun _ _ _ here there => here.alike folds there) holds hold⟩

def loudPage : List Char := "<STYLE\tID=É>A</Style ><SCRIPT\nSRC></Script\r>".toList

def quietPage : List Char := "<style id=É>a</sTYLE\n><script src></sCRIPT >".toList

theorem blockRanges_insensitive_loudPage :
    loudPage ≠ quietPage ∧ List.Forall₂ Similar (octets loudPage) (octets quietPage) ∧
      ∃ found, blockRanges loudPage = pure found ∧ blockRanges quietPage = pure found ∧
        List.Forall₂ (BlockRange.Holds loudPage) found (placedBlocks loudPage) ∧
        List.Forall₂ (BlockRange.Holds quietPage) found (placedBlocks quietPage) ∧
        List.Forall₂ Alike (placedBlocks loudPage) (placedBlocks quietPage) := by
  have similar : List.Forall₂ Similar (octets loudPage) (octets quietPage) := by decide +kernel
  exact ⟨by decide +kernel, similar, blockRanges_insensitive loudPage quietPage similar⟩

end PageAssets.Offsets
