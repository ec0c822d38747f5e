/-! The character classes of a tag. Names are compared without regard to the case of ASCII
letters, and five characters count as space. -/

namespace PageAssets.Markup

/-- Space inside a tag: blank, tab, line feed, form feed and carriage return. -/
def isSpace (c : Char) : Bool :=
  c = ' ' || c = '\t' || c = '\n' || c = '\x0c' || c = '\r'

/-- What may stand before an attribute: a stray slash separates like space. -/
def isSeparator (c : Char) : Bool := isSpace c || c = '/'

def isNameChar (c : Char) : Bool := !isSpace c && c != '=' && c != '>' && c != '/'

def isBareValueChar (c : Char) : Bool := !isSpace c && c != '>'

def isQuote (c : Char) : Bool := c = '"' || c = '\''

def sameName (left right : List Char) : Bool := left.map Char.toLower = right.map Char.toLower

def afterWord? : List Char → List Char → Option (List Char)
  | [], text => some text
  | _ :: _, [] => none
  | letter :: word, c :: text =>
    if c.toLower = letter.toLower then afterWord? word text else none

theorem afterWord?_suffix {word text rest : List Char} (found : afterWord? word text = some rest) :
    rest <:+ text := by
  fun_induction afterWord? word text with
  | case1 => cases found; exact List.suffix_refl _
  | case2 => cases found
  | case3 _ _ _ _ _ ih => exact (ih found).trans (List.suffix_cons _ _)
  | case4 => cases found

end PageAssets.Markup
