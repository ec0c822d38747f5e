import PageAssets.Toml.DateTime
import PageAssets.Toml.Number
import PageAssets.Toml.Table

/-! Reading a TOML document: values, keys, and the lines that put them together. -/

namespace PageAssets.Toml

def isBareKeyChar (c : Char) : Bool := c.isAlphanum || c = '-' || c = '_'

def readSimpleKey : Reader String
  | '"' :: rest => (readBasic rest).map fun (text, rest) => (String.ofList text, rest)
  | '\'' :: rest => (readLiteral rest).map fun (text, rest) => (String.ofList text, rest)
  | text =>
    match text.takeWhile isBareKeyChar with
    | [] => none
    | key => some (String.ofList key, text.dropWhile isBareKeyChar)

/-- The parts of a key with dots between them; blanks may stand around each. The bound limits
their number. -/
def readKeyParts : Nat → Reader (List String)
  | 0, _ => none
  | bound + 1, text => do
    let (key, rest) ← readSimpleKey (skipBlanks text)
    match skipBlanks rest with
    | '.' :: more =>
      let (keys, rest) ← readKeyParts bound more
      return (key :: keys, rest)
    | rest => return ([key], rest)

def readKey : Reader (List String) := readKeyParts maxDepth

def readScalar : Reader Value := fun text =>
  match text with
  | [] => none
  | c :: rest =>
    if c = '"' || c = '\'' then
      (readString text).map fun (found, rest) => (.string (String.ofList found), rest)
    else
      match c, rest with
      | 't', 'r' :: 'u' :: 'e' :: rest => some (.boolean true, rest)
      | 'f', 'a' :: 'l' :: 's' :: 'e' :: rest => some (.boolean false, rest)
      | _, _ =>
        if startsDateTime text then
          (readDateTime text).map fun (found, rest) => (.dateTime (String.ofList found), rest)
        else readNumber text

/-- The items of an array, behind the opening bracket or a comma. -/
def readItems (item : Reader Value) : Nat → Reader (List Value)
  | 0, _ => none
  | bound + 1, text =>
    match skipLayout false text with
    | ']' :: rest => some ([], rest)
    | text => do
      let (value, rest) ← item text
      match skipLayout false rest with
      | ']' :: rest => return ([value], rest)
      | ',' :: rest =>
        let (values, rest) ← readItems item bound rest
        return (value :: values, rest)
      | _ => none

def readInlineRows (item : Reader Value) : Nat → Rows → Reader Rows
  | 0, _, _ => none
  | bound + 1, rows, text => do
    let (key, rest) ← readKey text
    let (_, rest) ← readMark '=' rest
    let (value, rest) ← item (skipBlanks rest)
    let rows ← assign value key rows
    match skipBlanks rest with
    | '}' :: rest => return (rows, rest)
    | ',' :: rest => readInlineRows item bound rows rest
    | _ => none

/-- A value, with containers nested as deep as the bound allows. -/
def readValue : Nat → Reader Value
  | 0, text => readScalar text
  | bound + 1, text =>
    match text with
    | '[' :: rest =>
      (readItems (readValue bound) (rest.length + 1) rest).map fun (items, rest) =>
        (.array items, rest)
    | '{' :: rest =>
      match skipBlanks rest with
      | '}' :: rest => some (.table .inline [], rest)
      | rest =>
        (readInlineRows (readValue bound) (rest.length + 1) [] rest).map fun (rows, rest) =>
          (.table .inline rows, rest)
    | _ => readScalar text

structure Progress where
  header : List String
  rows : Rows

/-- Reads one line with something on it: a header in one or two brackets, or a key and its value.
A value may run over several lines. -/
def readEntry (progress : Progress) : Reader Progress
  | '[' :: '[' :: text => do
    let (path, rest) ← readKey text
    let (_, rest) ← readMark ']' rest
    let (_, rest) ← readMark ']' rest
    return (⟨path, ← openArrayTable path progress.rows⟩, ← endLine? rest)
  | '[' :: text => do
    let (path, rest) ← readKey text
    let (_, rest) ← readMark ']' rest
    return (⟨path, ← openTable path progress.rows⟩, ← endLine? rest)
  | text => do
    let (key, rest) ← readKey text
    let (_, rest) ← readMark '=' rest
    let (value, rest) ← readValue maxDepth (skipBlanks rest)
    return ({ progress with rows := ← assignUnder progress.header key value progress.rows },
      ← endLine? rest)

/-- Reads the entries of a document, one for each unit of the bound at most. -/
def readEntries : Nat → Progress → List Char → Option Rows
  | 0, _, _ => none
  | bound + 1, progress, text =>
    match skipComment (skipBlanks text) with
    | [] => some progress.rows
    | text =>
      match afterNewline? text with
      | some rest => readEntries bound progress rest
      | none =>
        (readEntry progress text).bind fun (progress, rest) => readEntries bound progress rest

/-- The rows of a document; absent when it is malformed. A byte order mark at its start is no part
of it. -/
def readDocument (text : List Char) : Option Rows :=
  let text := if text.head? = some '\ufeff' then text.tail else text
  readEntries (text.length + 1) ⟨[], []⟩ text

end PageAssets.Toml
