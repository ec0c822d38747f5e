import PageAssets.Text.Bytes

/-! Names of directory entries. A name is text, or bytes that are no text. -/

namespace PageAssets.Files

/-- Bytes are compared as such, wherever this module is used. -/
instance (priority := high) decidableEqBytes : DecidableEq ByteArray := ByteArray.instDecidableEq

inductive Name where
  | text (text : String)
  | raw (bytes : ByteArray)
  deriving DecidableEq

namespace Name

def ofBytes (bytes : ByteArray) : Name :=
  match String.fromUTF8? bytes with
  | some spelling => .text spelling
  | none => .raw bytes

def text? : Name → Option String
  | text spelling => some spelling
  | raw _ => none

/-- The name as it is shown, with replacement characters where it is no text. -/
def display : Name → String
  | text spelling => spelling
  | raw bytes => String.ofList (Text.lossyText bytes.toList)

end Name
end PageAssets.Files
