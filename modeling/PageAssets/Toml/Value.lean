/-! Values of a TOML document. -/

namespace PageAssets.Toml

/-- How a table came to be, which decides what may still be added to it. -/
inductive Origin where
  /-- Written between braces: complete. -/
  | inline
  /-- Opened by a header of its own. -/
  | header
  /-- Passed through by the header of a table below it. -/
  | implicit
  /-- Passed through by a dotted key. -/
  | dotted
  deriving DecidableEq, Repr

inductive Value where
  | string (text : String)
  | integer (value : Int)
  /-- A number with a fraction or an exponent, as it is written. -/
  | float (text : String)
  | boolean (value : Bool)
  /-- A date, a time or both, in normal form. -/
  | dateTime (text : String)
  | array (items : List Value)
  | table (origin : Origin) (rows : List (String × Value))
  | tables (items : List (List (String × Value)))

abbrev Rows := List (String × Value)

/-- A reader takes a value off the front of a text, or fails. -/
abbrev Reader (α : Type) := List Char → Option (α × List Char)

/-- How deep arrays and inline tables nest, and how many parts a key has, at most. -/
def maxDepth : Nat := 79

end PageAssets.Toml
