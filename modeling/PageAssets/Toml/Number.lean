import PageAssets.Toml.Quoted

/-! Integers and floats. Integers fit 64 bits with a sign. A float may be written with any
exponent, but one too large to be held counts only when it is negative. -/

namespace PageAssets.Toml

/-- Digits with single underlines between them; the underlines are dropped. -/
def readDigits (isDigit : Char → Bool) : Reader (List Char)
  | [] => none
  | c :: rest =>
    if isDigit c then
      match rest with
      | [] => some ([c], [])
      | '_' :: more => prepend [c] (readDigits isDigit more)
      | d :: more =>
        if isDigit d then prepend [c] (readDigits isDigit (d :: more)) else some ([c], d :: more)
    else none

def digitsValue (base : Nat) (digits : List Char) : Nat :=
  digits.foldl (fun sum digit => sum * base + (hexDigit? digit).getD 0) 0

def isDigitOf (base : Nat) (c : Char) : Bool :=
  match hexDigit? c with
  | some digit => digit < base
  | none => false

def maxInteger : Nat := 9223372036854775807

def readBased (base : Nat) : Reader Value := fun text => do
  let (digits, rest) ← readDigits (isDigitOf base) text
  if digitsValue base digits ≤ maxInteger then
    return (.integer (digitsValue base digits), rest)
  else none

/-- The whole part of a number: a zero stands alone. -/
def readWhole : Reader (List Char)
  | '0' :: rest => some (['0'], rest)
  | text => readDigits Char.isDigit text

def splitSign : List Char → Bool × List Char
  | '-' :: rest => (true, rest)
  | '+' :: rest => (false, rest)
  | text => (false, text)

def readFractionDigits : Reader (List Char)
  | '.' :: rest => readDigits Char.isDigit rest
  | text => some ([], text)

def readExponent : Reader Int
  | c :: rest =>
    if c = 'e' || c = 'E' then
      let (negative, rest) := splitSign rest
      (readDigits Char.isDigit rest).map fun (digits, rest) =>
        (if negative then -(digitsValue 10 digits : Int) else digitsValue 10 digits, rest)
    else some (0, c :: rest)
  | [] => some (0, [])

/-- Whether a decimal is too large for a double: it reaches the middle between the largest double
and the next power of two. The count of digits settles all but the close cases. -/
def overflows (whole fraction : List Char) (exponent : Int) : Bool :=
  let digits := (whole ++ fraction).dropWhile (· == '0')
  let scale := exponent - fraction.length
  let magnitude := digits.length + scale
  if digits = [] || magnitude ≤ 300 then false
  else if 320 ≤ magnitude then true
  else
    let value := digitsValue 10 digits
    let bound := Nat.pow 2 1024 - Nat.pow 2 970
    if 0 ≤ scale then bound ≤ value * Nat.pow 10 scale.toNat
    else bound * Nat.pow 10 (-scale).toNat ≤ value

def startsFractionOrExponent : List Char → Bool
  | [] => false
  | c :: _ => c = '.' || c = 'e' || c = 'E'

def readDecimal : Reader Value := fun text => do
  let (negative, unsigned) := splitSign text
  let (whole, afterWhole) ← readWhole unsigned
  let (fraction, afterFraction) ← readFractionDigits afterWhole
  let (exponent, rest) ← readExponent afterFraction
  if !startsFractionOrExponent afterWhole then
    let value := digitsValue 10 whole
    if value ≤ maxInteger || (negative && value = maxInteger + 1) then
      return (.integer (if negative then -(value : Int) else value), rest)
    else none
  else if !negative && overflows whole fraction exponent then none
  else return (.float (String.ofList (text.take (text.length - rest.length))), rest)

/-- The words for infinity and for what is no number. -/
def readSpecial : Reader Value := fun text =>
  match (splitSign text).2 with
  | 'i' :: 'n' :: 'f' :: rest => some (.float "inf", rest)
  | 'n' :: 'a' :: 'n' :: rest => some (.float "nan", rest)
  | _ => none

def readNumber : Reader Value
  | '0' :: 'x' :: rest => readBased 16 rest
  | '0' :: 'o' :: rest => readBased 8 rest
  | '0' :: 'b' :: rest => readBased 2 rest
  | text =>
    match readSpecial text with
    | some found => some found
    | none => readDecimal text

end PageAssets.Toml
