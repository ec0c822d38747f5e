import PageAssets.Page.Asset
import PageAssets.Page.Edit
import PageAssets.Page.Script
import PageAssets.Text.Blank

/-! Taking the style and the script out of a page. The bodies of all style blocks become one
style sheet and those of all inline scripts one script; in the page, the first block of each gives
way to a reference and the others disappear. A page without content of a sort keeps its blocks of
that sort as they are. -/

namespace PageAssets.Page
open Markup

/-- A blank line stands between bodies that were apart. -/
def bodySeparator : List Char := ['\n', '\n']

def joinedBodies (found : List Placed) : List Char :=
  bodySeparator.intercalate (found.map fun placed => placed.block.inner)

/-- The outcome of taking a page apart: the style sheet and the script, each absent when there is
no content of its sort, and the page that refers to them. -/
structure Extraction where
  css : Option (List Char)
  js : Option (List Char)
  document : List Char
  deriving DecidableEq, Repr

namespace Extraction

def isUnchanged (extraction : Extraction) : Bool :=
  extraction.css.isNone && extraction.js.isNone

def content? (extraction : Extraction) : AssetKind → Option (List Char)
  | .css => extraction.css
  | .js => extraction.js

end Extraction

/-- The style in some blocks, as it stands there; absent when it is blank. -/
def extractedStyle? (styles : List Placed) : Option (List Char) :=
  let style := joinedBodies styles
  if Text.trim style = [] then none else some style

/-- The code in some blocks, trimmed; absent when nothing is left. -/
def extractedScript? (scripts : List Placed) : Option (List Char) :=
  let script := Text.trim (joinedBodies scripts)
  if script = [] then none else some script

/-- Blocks are replaced exactly when their content was taken out. -/
def referenceEdits (kind : AssetKind) (identity : String) (content : Option (List Char))
    (found : List Placed) : List Edit :=
  match content with
  | none => []
  | some _ => collapse (kind.referenceTag identity).toList found

def extract (document : List Char) (identity : String) : Extraction :=
  let found := placedBlocks document
  let styles := found.filter fun placed => role placed.block = .style
  let scripts := found.filter fun placed => role placed.block = .inlineScript
  let css := extractedStyle? styles
  let js := extractedScript? scripts
  let edits := referenceEdits .css identity css styles ++ referenceEdits .js identity js scripts
  { css, js, document := applyEdits document (sortEdits edits) }

end PageAssets.Page
