import PageAssets.Markup.Placement

/-! Rewriting a page by replacing ranges of its text. All ranges are found in the text as it was,
before anything is replaced. -/

namespace PageAssets.Page
open Markup

structure Edit where
  span : Span
  replacement : List Char
  deriving DecidableEq, Repr

/-- Makes some edits, in order and apart from each other, to a text that starts at a cursor. -/
def applyFrom (cursor : Nat) (text : List Char) : List Edit → List Char
  | [] => text
  | edit :: rest =>
    Text.takeBytes (edit.span.start - cursor) text ++ edit.replacement ++
      applyFrom edit.span.stop (Text.dropBytes (edit.span.stop - cursor) text) rest

def applyEdits (document : List Char) (edits : List Edit) : List Char := applyFrom 0 document edits

def sortEdits (edits : List Edit) : List Edit :=
  edits.mergeSort fun first second => first.span.start ≤ second.span.start

/-- The first block gives way to a reference, the others disappear. -/
def collapse (reference : List Char) : List Placed → List Edit
  | [] => []
  | first :: others => ⟨first.span, reference⟩ :: others.map fun placed => ⟨placed.span, []⟩

end PageAssets.Page
