import PageAssets.Proofs.Offsets.Octets

/-! The search for blocks by offsets. Nothing of the document is copied: what is found are ranges of bytes,
and each range is checked when it is made. Every loop is a loop over offsets, which nothing in its form
keeps inside of the document or brings to an end. -/

namespace PageAssets.Offsets
open Text Markup

structure AttributeRange where
  name : Span
  value : Option Span
  deriving DecidableEq, Repr

structure BlockRange where
  kind : BlockKind
  span : Span
  inner : Span
  attributes : List AttributeRange
  deriving DecidableEq, Repr

variable (document : List Char)

def range (start stop : Nat) : Checked Span := do
  let _ ← slice document start stop
  return ⟨start, stop⟩

def find (mark : List Char) (start : Nat) : Checked (Option Nat) := do
  let text ← sliceFrom document start
  return (cutAtMark? mark text).map fun parts => start + byteSize parts.1

def markAt (mark : List Char) (offset : Nat) : Checked Bool := do
  let text ← sliceFrom document offset
  return (mark.isPrefixOf? text).isSome

/-- The value behind an equals sign and the offset behind it, which is absent when a quote stays open. -/
def valueFrom (offset : Nat) : Checked (Option Span × Option Nat) := do
  let start ← skip document isSpaceByte offset
  if start < byteSize document then
    let first ← byteAt document start
    if isQuoteByte first then
      match ← find document [Char.ofUInt8 first] (start + 1) with
      | some stop => return (some (← range document (start + 1) stop), some (stop + 1))
      | none => return (some (← range document (start + 1) (byteSize document)), none)
    else
      let stop ← skip document isBareValueByte start
      return (some (← range document start stop), some stop)
  else return (none, some start)

def attributeFrom (start : Nat) : Checked (AttributeRange × Option Nat) := do
  let stop ← skip document isNameByte start
  let name ← range document start stop
  let next ← skip document isSpaceByte stop
  if ← holdsAt document (· = '='.toUInt8) next then
    let parts ← valueFrom document (next + 1)
    return (⟨name, parts.1⟩, parts.2)
  else return (⟨name, none⟩, some next)

/-- One turn of reading attributes: the end of the tag is found, or one more attribute is read. -/
def attributesTurn (state : Nat × List AttributeRange) :
    Checked (Turn (Nat × List AttributeRange) (List AttributeRange × Option Nat)) := do
  let start ← skip document isSeparatorByte state.1
  if start < byteSize document then
    if (← byteAt document start) = '>'.toUInt8 then return .done (state.2, some (start + 1))
    else
      let parts ← attributeFrom document start
      match parts.2 with
      | some next => return .onward (next, state.2 ++ [parts.1])
      | none => return .done (state.2 ++ [parts.1], none)
  else return .done (state.2, none)

def attributesFrom (start : Nat) : Checked (List AttributeRange × Option Nat) :=
  loop (attributesTurn document) (start, [])

/-- The attributes of a tag and the offset behind it. A tag in which a quote stays open is read once more,
in the document up to the first closing angle. -/
def tagFrom (start : Nat) : Checked (Option (List AttributeRange × Nat)) := do
  let parts ← attributesFrom document start
  match parts.2 with
  | some stop => return some (parts.1, stop)
  | none =>
    match ← find document ['>'] start with
    | none => return none
    | some angle =>
      let front ← sliceTo document angle
      return some ((← attributesFrom front start).1, angle + 1)

/-- One turn of the search for a closing tag: what stands at the next `</` is one, or it is not. -/
def closingTurn (kind : BlockKind) (search : Nat) : Checked (Turn Nat (Option (Nat × Nat))) := do
  match ← find document ['<', '/'] search with
  | none => return .done none
  | some start =>
    if ← wordAt document kind.tagName (start + 2) then
      let stop ← skip document isSpaceByte (start + 2 + byteSize kind.tagName)
      if ← holdsAt document (· = '>'.toUInt8) stop then return .done (some (start, stop + 1))
      else return .onward (start + 2)
    else return .onward (start + 2)

def closingFrom (kind : BlockKind) : Nat → Checked (Option (Nat × Nat)) := loop (closingTurn document kind)

/-- Tells whether the name of a kind of block stands at an offset and ends there. -/
def nameAt (kind : BlockKind) (offset : Nat) : Checked Bool :=
  let stop := offset + byteSize kind.tagName
  if stop < byteSize document then do
    if sameLetters (← byteRange document offset stop) (octets kind.tagName) then
      return endsNameByte (← byteAt document stop)
    else return false
  else return false

def kindAt (offset : Nat) : Checked (Option BlockKind) := do
  if ← nameAt document .style offset then return some .style
  else if ← nameAt document .script offset then return some .script
  else return none

/-- What is read at the name of a block: a block and the offset behind it, or an offset to go on from. -/
def blockTurn (angle : Nat) (kind : BlockKind) : Checked (Turn Nat (Option BlockRange × Nat)) := do
  match ← tagFrom document (angle + 1 + byteSize kind.tagName) with
  | none => return .onward (angle + 1)
  | some (attributes, start) =>
    match ← closingFrom document kind start with
    | none => return .onward start
    | some (stop, last) => return .done (some ⟨kind, ⟨angle, last⟩, ⟨start, stop⟩, attributes⟩, last)

def angleTurn (angle : Nat) : Checked (Turn Nat (Option BlockRange × Nat)) := do
  if ← markAt document ['<', '!', '-', '-'] angle then
    match ← find document ['-', '-', '>'] (angle + 4) with
    | some stop => return .onward (stop + 3)
    | none => return .done (none, byteSize document)
  else
    match ← kindAt document (angle + 1) with
    | none => return .onward (angle + 1)
    | some kind => blockTurn document angle kind

/-- One turn of the search for the next block. The result is the block, if there is one more, and the
offset at which the search goes on. -/
def searchTurn (position : Nat) : Checked (Turn Nat (Option BlockRange × Nat)) :=
  if position < byteSize document then do
    match ← find document ['<'] position with
    | none => return .done (none, byteSize document)
    | some angle => angleTurn document angle
  else return .done (none, position)

def nextBlock : Nat → Checked (Option BlockRange × Nat) := loop (searchTurn document)

/-- One turn of finding all blocks: one more is found, or there is none left. -/
def blocksTurn (state : Nat × List BlockRange) : Checked (Turn (Nat × List BlockRange) (List BlockRange)) := do
  match ← nextBlock document state.1 with
  | (some found, position) => return .onward (position, state.2 ++ [found])
  | (none, _) => return .done state.2

def blockRanges : Checked (List BlockRange) := loop (blocksTurn document) (0, [])

/-- The text of the attribute in a range. -/
def AttributeRange.read (found : AttributeRange) : Checked Attribute := do
  let name ← slice document found.name.start found.name.stop
  match found.value with
  | none => return ⟨name, none⟩
  | some span => return ⟨name, some (← slice document span.start span.stop)⟩

def BlockRange.outer (found : BlockRange) : Checked (List Char) := slice document found.span.start found.span.stop

def BlockRange.read (found : BlockRange) : Checked Placed := do
  let opening ← slice document found.span.start found.inner.start
  let inner ← slice document found.inner.start found.inner.stop
  let closing ← slice document found.inner.stop found.span.stop
  let attributes ← found.attributes.mapM (AttributeRange.read document)
  return ⟨found.span.start, ⟨found.kind, opening, attributes, inner, closing⟩⟩

/-- All blocks of a document, found by offsets and read back. -/
def readBlocks : Checked (List Placed) := do
  let found ← blockRanges document
  found.mapM (BlockRange.read document)

def readOuter : Checked (List (List Char)) := do
  let found ← blockRanges document
  found.mapM (BlockRange.outer document)

end PageAssets.Offsets
