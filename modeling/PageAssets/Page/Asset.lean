import PageAssets.Files.FilePath

/-! The files that a page's style and script move to. A page of identity `page` keeps its style in
`css/page.css` and its script in `js/page.js`, next to the pages, and refers to them from the top
of the site. -/

namespace PageAssets.Page
open Files

inductive AssetKind where
  | css
  | js
  deriving DecidableEq, Repr

namespace AssetKind

def all : List AssetKind := [.css, .js]

def extension : AssetKind → String
  | .css => "css"
  | .js => "js"

def referenceTag (kind : AssetKind) (identity : String) : String :=
  match kind with
  | .css => "<link rel=\"stylesheet\" href=\"/css/" ++ identity ++ ".css\">"
  | .js => "<script src=\"/js/" ++ identity ++ ".js\"></script>"

theorem referenceTag_css (identity : String) :
    css.referenceTag identity = "<link rel=\"stylesheet\" href=\"/css/" ++ identity ++ ".css\">" := rfl

theorem referenceTag_js (identity : String) :
    js.referenceTag identity = "<script src=\"/js/" ++ identity ++ ".js\"></script>" := rfl

def directory (kind : AssetKind) (webDir : FilePath) : FilePath := webDir.join kind.extension

def path (kind : AssetKind) (webDir : FilePath) (identity : String) : FilePath :=
  (kind.directory webDir).join (identity ++ "." ++ kind.extension)

end AssetKind
end PageAssets.Page
