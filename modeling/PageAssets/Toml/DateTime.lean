import PageAssets.Toml.Value

/-! Dates and times. They are checked against the calendar and the clock and kept in normal form:
a capital T between date and time, and no trailing zeros in a fraction of a second. -/

namespace PageAssets.Toml

def readFixed (count : Nat) : Reader Nat := fun text =>
  let digits := text.take count
  if digits.length = count && digits.all Char.isDigit then
    some (digits.foldl (fun sum digit => sum * 10 + (digit.toNat - '0'.toNat)) 0, text.drop count)
  else none

def readBounded (count low high : Nat) : Reader Nat := fun text =>
  (readFixed count text).filter fun (value, _) => low ≤ value && value ≤ high

def readMark (mark : Char) : Reader Unit
  | [] => none
  | c :: rest => if c = mark then some ((), rest) else none

/-- A number in decimal, with leading zeros up to a width. -/
def padded (width value : Nat) : List Char :=
  let digits := Nat.toDigits 10 value
  List.replicate (width - digits.length) '0' ++ digits

def isLeapYear (year : Nat) : Bool := year % 4 = 0 && (year % 100 != 0 || year % 400 = 0)

def daysInMonth (year month : Nat) : Nat :=
  if month = 2 then if isLeapYear year then 29 else 28
  else if month = 4 || month = 6 || month = 9 || month = 11 then 30 else 31

/-- A fraction of a second, behind its point: nine digits at most count. -/
def readFraction : Reader (List Char) := fun text =>
  match text.takeWhile Char.isDigit with
  | [] => none
  | digits =>
    let counted := ((digits.take 9).reverse.dropWhile (· == '0')).reverse
    some (if counted = [] then [] else '.' :: counted, text.drop digits.length)

def readTime : Reader (List Char) := fun text => do
  let (hour, text) ← readBounded 2 0 23 text
  let (_, text) ← readMark ':' text
  let (minute, text) ← readBounded 2 0 59 text
  let (_, text) ← readMark ':' text
  let (second, text) ← readBounded 2 0 60 text
  let whole := padded 2 hour ++ ':' :: padded 2 minute ++ ':' :: padded 2 second
  match text with
  | '.' :: rest =>
    let (fraction, rest) ← readFraction rest
    return (whole ++ fraction, rest)
  | _ => return (whole, text)

/-- The distance from universal time; nothing when none is given. -/
def readOffset : Reader (List Char) := fun text =>
  match text with
  | [] => some ([], [])
  | c :: rest =>
    if c = 'Z' || c = 'z' then some (['Z'], rest)
    else if c = '+' || c = '-' then do
      let (hour, rest) ← readBounded 2 0 23 rest
      let (_, rest) ← readMark ':' rest
      let (minute, rest) ← readBounded 2 0 59 rest
      let sign := if hour = 0 && minute = 0 then '+' else c
      return (sign :: padded 2 hour ++ ':' :: padded 2 minute, rest)
    else some ([], text)

def readDate : Reader (List Char) := fun text => do
  let (year, text) ← readFixed 4 text
  let (_, text) ← readMark '-' text
  let (month, text) ← readBounded 2 1 12 text
  let (_, text) ← readMark '-' text
  let (day, text) ← readBounded 2 1 (daysInMonth year month) text
  return (padded 4 year ++ '-' :: padded 2 month ++ '-' :: padded 2 day, text)

/-- Whether digits of a number and a mark follow. -/
def startsWithFixed (count : Nat) (mark : Char) (text : List Char) : Bool :=
  ((readFixed count text).bind fun (_, rest) => readMark mark rest).isSome

def startsDateTime (text : List Char) : Bool :=
  startsWithFixed 4 '-' text || startsWithFixed 2 ':' text

/-- A date, a time, or a date and a time with or without an offset. -/
def readDateTime : Reader (List Char) := fun text =>
  if startsWithFixed 2 ':' text then readTime text
  else do
    let (date, rest) ← readDate text
    match rest with
    | c :: behind =>
      if (c = 'T' || c = 't' || c = ' ') && startsWithFixed 2 ':' behind then
        let (time, behind) ← readTime behind
        let (offset, behind) ← readOffset behind
        return (date ++ 'T' :: time ++ offset, behind)
      else return (date, rest)
    | [] => return (date, [])

end PageAssets.Toml
