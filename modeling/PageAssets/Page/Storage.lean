import PageAssets.Files.Access
import PageAssets.Page.Identity
import PageAssets.Page.Asset
import PageAssets.Text.Blank

/-! Pages and assets in files: listing, reading and writing, with each fault of the disk reported
as a failure of the page it concerns. -/

namespace PageAssets.Page
open Files

variable {m : Type → Type} [Monad m] [FileAccess m]

def failingWith {α : Type} (failure : Cause → Failure) (operation : m (Except Cause α)) :
    ExceptT Failure m α :=
  ExceptT.mk do
    match ← operation with
    | .ok value => return .ok value
    | .error cause => return .error (failure cause)

/-- The failure of reading a page: one that is not there is missing. -/
def readFailure (path : FilePath) : Cause → Failure
  | .notFound => .missingDocument path
  | cause => .unreadable path cause

def readDocument (path : FilePath) : ExceptT Failure m String :=
  failingWith (readFailure path) (FileAccess.readText path)

/-- Gives a file new content, all of it or nothing. -/
def writeDocument (path : FilePath) (content : String) : ExceptT Failure m Unit :=
  failingWith (.unwritable path) (FileAccess.replaceFile path content)

def makeAssetDirectories (webDir : FilePath) : List AssetKind → ExceptT Failure m Unit
  | [] => pure ()
  | kind :: rest => do
    let directory := kind.directory webDir
    failingWith (.unwritable directory) (FileAccess.makeDirectories directory)
    makeAssetDirectories webDir rest

def ensureAssetDirectories (webDir : FilePath) : ExceptT Failure m Unit :=
  makeAssetDirectories webDir AssetKind.all

def listDocuments (webDir : FilePath) : ExceptT Failure m (List String) := do
  let names ← failingWith (.unreadable webDir) (FileAccess.fileNames webDir)
  return (names.filter isPageName).mergeSort fun first second => !decide (second < first)

/-- Writes an asset, and tells whether it did: blank content is not written. Missing directories
above it are made. -/
def writeAsset (path : FilePath) (content : String) : ExceptT Failure m Bool := do
  if Text.isBlank content.toList then return false
  else
    match path.parent? with
    | some parent => failingWith (.unwritable parent) (FileAccess.makeDirectories parent)
    | none => pure ()
    writeDocument path content
    return true

end PageAssets.Page
