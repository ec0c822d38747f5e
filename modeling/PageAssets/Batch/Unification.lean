import PageAssets.Batch.Summary
import PageAssets.Page.Restyling
import PageAssets.Page.Storage
import PageAssets.Style.Bundle

/-! Giving pages their style from a bundle. A page is either restyled as a whole or left as it
is. -/

namespace PageAssets.Batch
open Files Page

variable {m : Type → Type} [Monad m] [FileAccess m]

def unifyDocument (webDir : FilePath) (bundle : Style.Bundle) (identity : String) :
    ExceptT Failure m FilePath := do
  ExceptT.mk (pure (checkIdentity identity))
  let path := webDir.join (fileOfIdentity identity)
  let content ← readDocument path
  match restyle? content.toList (bundle.compose identity).toList with
  | none => throw (.missingBlock path .style)
  | some restyled =>
    writeDocument path (String.ofList restyled)
    return path

def runUnification (webDir : FilePath) (bundle : Style.Bundle) :
    List String → m (List (Outcome FilePath))
  | [] => return []
  | identity :: rest => do
    let result ← (unifyDocument webDir bundle identity).run
    let others ← runUnification webDir bundle rest
    return ⟨identity, result⟩ :: others

def narrateUnification (outcome : Outcome FilePath) : Narration :=
  match outcome.result with
  | .ok path => .say ("✓ Unified: " ++ path.text)
  | .error failure => complaint outcome.document failure

def narrateUnifications (outcomes : List (Outcome FilePath)) : Narration :=
  .concat (outcomes.map narrateUnification)

end PageAssets.Batch
