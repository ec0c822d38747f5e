/-! Blanks, line ends and comments of a TOML document. -/

namespace PageAssets.Toml

def isBlank (c : Char) : Bool := c = ' ' || c = '\t'

def skipBlanks (text : List Char) : List Char := text.dropWhile isBlank

/-- Tab and everything from the blank on, except the delete character. -/
def isPlainChar (c : Char) : Bool := c = '\t' || (' ' ≤ c && c != '\x7f')

/-- The text behind a line end: a line feed, with or without a carriage return. -/
def afterNewline? : List Char → Option (List Char)
  | '\n' :: rest => some rest
  | '\r' :: '\n' :: rest => some rest
  | _ => none

def skipComment : List Char → List Char
  | '#' :: rest => rest.dropWhile isPlainChar
  | text => text

def endLine? (text : List Char) : Option (List Char) :=
  match skipComment (skipBlanks text) with
  | [] => some []
  | rest => afterNewline? rest

/-- Skips blanks, line ends and comments, which may stand between the items of an array. The flag
tells whether the place is inside a comment. -/
def skipLayout : Bool → List Char → List Char
  | _, [] => []
  | _, '\r' :: '\n' :: rest => skipLayout false rest
  | _, '\n' :: rest => skipLayout false rest
  | true, c :: rest => if isPlainChar c then skipLayout true rest else c :: rest
  | false, c :: rest =>
    if isBlank c then skipLayout false rest
    else if c = '#' then skipLayout true rest
    else c :: rest

end PageAssets.Toml
