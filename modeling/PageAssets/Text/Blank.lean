/-! Blank characters: the white space that surrounds a configured value or an extracted body
without counting as content. The set is the standard's White_Space property. -/

namespace PageAssets.Text

/-- The ranges of the White_Space property, both ends included. -/
def blankRanges : List (Nat × Nat) :=
  [(0x09, 0x0d), (0x20, 0x20), (0x85, 0x85), (0xa0, 0xa0), (0x1680, 0x1680), (0x2000, 0x200a),
    (0x2028, 0x2029), (0x202f, 0x202f), (0x205f, 0x205f), (0x3000, 0x3000)]

def isBlankChar (c : Char) : Bool :=
  blankRanges.any fun range => range.1 ≤ c.toNat && c.toNat ≤ range.2

/-- A text without content: nothing is left of it once it is trimmed. -/
def isBlank (text : List Char) : Bool := text.all isBlankChar

def trimStart (text : List Char) : List Char := text.dropWhile isBlankChar

def trimEnd (text : List Char) : List Char := (trimStart text.reverse).reverse

/-- Blank characters are cut off at both ends and kept in between. -/
def trim (text : List Char) : List Char := trimEnd (trimStart text)

end PageAssets.Text
