import PageAssets.Batch.Summary
import PageAssets.Page.Extraction
import PageAssets.Page.Storage

/-! Taking the assets out of pages. The assets of a page are written before the page itself, so
that a page never refers to a file that is not there. -/

namespace PageAssets.Batch
open Files Page

structure ExtractionReport where
  identity : String
  cssWritten : Option FilePath
  jsWritten : Option FilePath
  documentChanged : Bool
  deriving DecidableEq, Repr

variable {m : Type → Type} [Monad m] [FileAccess m]

def writeExtracted (webDir : FilePath) (identity : String) (kind : AssetKind)
    (content : Option (List Char)) : ExceptT Failure m (Option FilePath) :=
  match content with
  | none => return none
  | some text => do
    let path := kind.path webDir identity
    return if ← writeAsset path (String.ofList text) then some path else none

/-- Writes a page back, if it is another than before, and tells whether it is. -/
def writeRewritten (path : FilePath) (before after : String) : ExceptT Failure m Bool :=
  if after = before then return false
  else do
    writeDocument path after
    return true

def extractDocument (webDir : FilePath) (fileName : String) :
    ExceptT Failure m ExtractionReport := do
  let identity ← ExceptT.mk (pure (identityOfFile fileName))
  let path := webDir.join fileName
  let content ← readDocument path
  let extraction := extract content.toList identity
  let cssWritten ← writeExtracted webDir identity .css extraction.css
  let jsWritten ← writeExtracted webDir identity .js extraction.js
  let documentChanged ← writeRewritten path content (String.ofList extraction.document)
  return { identity, cssWritten, jsWritten, documentChanged }

/-- Takes the assets out of several pages, one after the other, whatever becomes of each. -/
def extractEach (webDir : FilePath) : List String → m (List (Outcome ExtractionReport))
  | [] => return []
  | fileName :: rest => do
    let result ← (extractDocument webDir fileName).run
    let others ← extractEach webDir rest
    return ⟨fileName, result⟩ :: others

def narrateExtraction (outcome : Outcome ExtractionReport) : Narration :=
  match outcome.result with
  | .error failure => complaint outcome.document failure
  | .ok report =>
    { out :=
        (report.cssWritten.map fun path => "✓ CSS extracted: " ++ path.text).toList ++
        (report.jsWritten.map fun path => "✓ JS extracted: " ++ path.text).toList ++
        [if report.documentChanged then "✓ Updated: " ++ outcome.document
          else "- Unchanged: " ++ outcome.document]
      err := [] }

def narrateExtractions (webDir : FilePath) (outcomes : List (Outcome ExtractionReport)) :
    Narration :=
  match outcomes with
  | [] => .say ("No HTML documents found in " ++ webDir.text)
  | _ =>
    .say ("Found " ++ toString outcomes.length ++ " HTML documents") ++
      .concat (outcomes.map narrateExtraction)

/-- Takes the assets out of every page of a directory. Only a directory that cannot be prepared or
listed stops the batch. -/
def runExtraction (webDir : FilePath) (silent : Bool) :
    ExceptT Failure m (Summary × Narration) := do
  ensureAssetDirectories webDir
  let documents ← listDocuments webDir
  let outcomes ← ExceptT.lift (extractEach webDir documents)
  return (summarize outcomes, .hushed silent (narrateExtractions webDir outcomes))

end PageAssets.Batch
