import PageAssets.Style.Builtin

/-! Style bundles: one style for all pages and further ones for single pages. The style of a page
is the shared style, followed by its own if it has one. -/

namespace PageAssets.Style

structure Bundle where
  shared : String
  pages : NameTable String

namespace Bundle

def ofShared (shared : String) : Bundle := ⟨shared, .empty⟩

def builtin : Bundle := ⟨Builtin.shared, Builtin.pages⟩

def withPage (bundle : Bundle) (identity style : String) : Bundle :=
  { bundle with pages := bundle.pages.insert identity style }

def hasPageStyle (bundle : Bundle) (identity : String) : Bool := bundle.pages.contains identity

def compose (bundle : Bundle) (identity : String) : String :=
  match bundle.pages.get? identity with
  | some style => bundle.shared ++ style
  | none => bundle.shared

end Bundle
end PageAssets.Style
