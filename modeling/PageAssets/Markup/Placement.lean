import PageAssets.Markup.Piece
import PageAssets.Text.Bytes

/-! Finding the blocks of a document and where they stand. The search goes from one opening angle
to the next; it steps over comments and over opening tags that nothing closes. Offsets count bytes
from the start of the document. Main statement: every round leaves less text to search. -/

namespace PageAssets.Markup

/-- A range of bytes, its end excluded. -/
structure Span where
  start : Nat
  stop : Nat
  deriving DecidableEq, Repr

structure Placed where
  start : Nat
  block : Block
  deriving DecidableEq, Repr

namespace Placed

def innerStart (placed : Placed) : Nat := placed.start + Text.byteSize placed.block.opening

def innerStop (placed : Placed) : Nat := placed.innerStart + Text.byteSize placed.block.inner

def span (placed : Placed) : Span := ⟨placed.start, placed.start + Text.byteSize placed.block.outer⟩

def innerSpan (placed : Placed) : Span := ⟨placed.innerStart, placed.innerStop⟩

end Placed

/-- Where a search has got to: an offset, and the text from there on. -/
structure Cursor where
  offset : Nat
  text : List Char
  deriving DecidableEq, Repr

inductive Round where
  | finished
  /-- No block starts at the angle; the search goes on behind what was read there. -/
  | onward (next : Cursor)
  | found (placed : Placed) (next : Cursor)
  deriving DecidableEq, Repr

namespace Round

def next? : Round → Option Cursor
  | finished => none
  | onward next | found _ next => some next

end Round

/-- Reads at an opening angle, given its offset and the text behind it. -/
def readAngle (offset : Nat) (text : List Char) : Round :=
  match readMarkup text with
  | (.block block, rest) => .found ⟨offset, block⟩ ⟨offset + Text.byteSize block.outer, rest⟩
  | (.openComment _, _) => .finished
  | (piece, rest) => .onward ⟨offset + Text.byteSize piece.text, rest⟩

def Cursor.round (cursor : Cursor) : Round :=
  match cursor.text.dropWhile (· != '<') with
  | [] => .finished
  | _ :: text => readAngle (cursor.offset + Text.byteSize (cursor.text.takeWhile (· != '<'))) text

theorem readAngle_next {offset : Nat} {text : List Char} {next : Cursor}
    (reached : (readAngle offset text).next? = some next) :
    next = ⟨offset + Text.byteSize (readMarkup text).1.text, (readMarkup text).2⟩ := by
  unfold readAngle at reached
  split at reached
  next same => cases reached; simp [same, Piece.text]
  next => cases reached
  next same => cases reached; simp [same]

theorem Cursor.round_shorter {cursor next : Cursor} (reached : cursor.round.next? = some next) :
    next.text.length < cursor.text.length := by
  unfold Cursor.round at reached
  split at reached
  next => cases reached
  next angle text ahead =>
    have left := readMarkup_length_le text
    have whole := (List.dropWhile_suffix (l := cursor.text) (· != '<')).length_le
    rw [ahead, List.length_cons] at whole
    rw [readAngle_next reached]
    simp only
    omega

def Cursor.blocks (cursor : Cursor) : List Placed :=
  match _reached : cursor.round with
  | .finished => []
  | .onward next => next.blocks
  | .found placed next => placed :: next.blocks
termination_by cursor.text.length
decreasing_by all_goals exact Cursor.round_shorter (by rw [_reached]; rfl)

def placedBlocks (document : List Char) : List Placed := Cursor.blocks ⟨0, document⟩

def blocks (document : List Char) : List Block := (placedBlocks document).map Placed.block

end PageAssets.Markup
