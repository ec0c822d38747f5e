import PageAssets.Toml.Value
import PageAssets.Toml.Layout

/-! The four kinds of quoted text. Basic strings know escapes, literal strings do not; in three
quotes both may span lines. -/

namespace PageAssets.Toml

def hexDigit? (c : Char) : Option Nat :=
  if '0' ≤ c && c ≤ '9' then some (c.toNat - '0'.toNat)
  else if 'a' ≤ c && c ≤ 'f' then some (c.toNat - 'a'.toNat + 10)
  else if 'A' ≤ c && c ≤ 'F' then some (c.toNat - 'A'.toNat + 10)
  else none

def hexNumber? (digits : List Char) : Option Nat :=
  digits.foldl (fun sum digit => do return (← sum) * 16 + (← hexDigit? digit)) (some 0)

/-- The character of a code written in hexadecimal; surrogates and codes too large have none. -/
def escapedCode? (digits : List Char) : Option Char :=
  (hexNumber? digits).bind fun code => if code.isValidChar then some (Char.ofNat code) else none

def simpleEscape? (c : Char) : Option Char :=
  match c with
  | 'b' => some '\x08'
  | 't' => some '\t'
  | 'n' => some '\n'
  | 'f' => some '\x0c'
  | 'r' => some '\r'
  | '"' => some '"'
  | '\\' => some '\\'
  | _ => none

def prepend (front : List Char) (found : Option (List Char × List Char)) :
    Option (List Char × List Char) :=
  found.map fun (text, rest) => (front ++ text, rest)

def readBasic : Reader (List Char)
  | [] => none
  | '"' :: rest => some ([], rest)
  | '\\' :: 'u' :: d₁ :: d₂ :: d₃ :: d₄ :: rest =>
    (escapedCode? [d₁, d₂, d₃, d₄]).bind fun c => prepend [c] (readBasic rest)
  | '\\' :: 'U' :: d₁ :: d₂ :: d₃ :: d₄ :: d₅ :: d₆ :: d₇ :: d₈ :: rest =>
    (escapedCode? [d₁, d₂, d₃, d₄, d₅, d₆, d₇, d₈]).bind fun c => prepend [c] (readBasic rest)
  | '\\' :: c :: rest => (simpleEscape? c).bind fun c => prepend [c] (readBasic rest)
  | c :: rest => if isPlainChar c && c != '\\' then prepend [c] (readBasic rest) else none

def readLiteral : Reader (List Char)
  | [] => none
  | c :: rest =>
    if c = '\'' then some ([], rest)
    else if isPlainChar c then prepend [c] (readLiteral rest) else none

/-- Up to two quotes in front of the closing three belong to the text. -/
def closeMultiline (quote : Char) (rest : List Char) : List Char × List Char :=
  let extra := (rest.take 2).takeWhile (· == quote)
  (extra, rest.drop extra.length)

/-- Whether only blanks stand before the next line end. -/
def endsLine (text : List Char) : Bool := (afterNewline? (skipBlanks text)).isSome

/-- A basic string in three quotes, behind its opening. A backslash at the end of a line hides
the white space up to the next other character; the flag tells whether such space is skipped. -/
def readMultilineBasic : Bool → Reader (List Char)
  | _, [] => none
  | skipping, '\r' :: '\n' :: rest =>
    prepend (if skipping then [] else ['\n']) (readMultilineBasic skipping rest)
  | skipping, '\n' :: rest =>
    prepend (if skipping then [] else ['\n']) (readMultilineBasic skipping rest)
  | _, '"' :: '"' :: '"' :: rest => some (closeMultiline '"' rest)
  | _, '\\' :: 'u' :: d₁ :: d₂ :: d₃ :: d₄ :: rest =>
    (escapedCode? [d₁, d₂, d₃, d₄]).bind fun c => prepend [c] (readMultilineBasic false rest)
  | _, '\\' :: 'U' :: d₁ :: d₂ :: d₃ :: d₄ :: d₅ :: d₆ :: d₇ :: d₈ :: rest =>
    (escapedCode? [d₁, d₂, d₃, d₄, d₅, d₆, d₇, d₈]).bind fun c =>
      prepend [c] (readMultilineBasic false rest)
  | _, '\\' :: c :: rest =>
    if endsLine (c :: rest) then readMultilineBasic true (c :: rest)
    else (simpleEscape? c).bind fun c => prepend [c] (readMultilineBasic false rest)
  | skipping, c :: rest =>
    if skipping && isBlank c then readMultilineBasic true rest
    else if isPlainChar c && c != '\\' then prepend [c] (readMultilineBasic false rest)
    else none

def readMultilineLiteral : Reader (List Char)
  | [] => none
  | '\r' :: '\n' :: rest => prepend ['\n'] (readMultilineLiteral rest)
  | '\'' :: '\'' :: '\'' :: rest => some (closeMultiline '\'' rest)
  | c :: rest =>
    if isPlainChar c || c = '\n' then prepend [c] (readMultilineLiteral rest) else none

/-- A line end right behind three opening quotes is dropped. -/
def dropFirstNewline (text : List Char) : List Char := (afterNewline? text).getD text

def readString : Reader (List Char)
  | '"' :: '"' :: '"' :: rest => readMultilineBasic false (dropFirstNewline rest)
  | '"' :: rest => readBasic rest
  | '\'' :: '\'' :: '\'' :: rest => readMultilineLiteral (dropFirstNewline rest)
  | '\'' :: rest => readLiteral rest
  | _ => none

end PageAssets.Toml
