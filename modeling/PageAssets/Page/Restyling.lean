import PageAssets.Page.Edit

/-! Giving a page a style of its own: the first style block is replaced by one that holds the new
style, and nothing else is touched. -/

namespace PageAssets.Page
open Markup

def styleBlock (style : List Char) : List Char :=
  ['<', 's', 't', 'y', 'l', 'e', '>', '\n'] ++ style ++
    ['\n', ' ', ' ', ' ', ' ', '<', '/', 's', 't', 'y', 'l', 'e', '>']

/-- The page with its first style block replaced; absent when it has no style block. -/
def restyle? (document style : List Char) : Option (List Char) :=
  ((placedBlocks document).find? fun placed => placed.block.kind = .style).map fun placed =>
    applyEdits document [⟨placed.span, styleBlock style⟩]

end PageAssets.Page
