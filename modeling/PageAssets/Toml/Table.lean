import PageAssets.Toml.Value

/-! Building the table of a document. Nothing is defined twice: a key takes one value, a header
opens a table once, and a dotted key extends only tables that dotted keys made. -/

namespace PageAssets.Toml

def Rows.set (rows : Rows) (key : String) (value : Value) : Rows :=
  rows.map fun row => if row.1 = key then (key, value) else row

def changeLast (change : Rows → Option Rows) (items : List Rows) : Option (List Rows) :=
  match items.getLast? with
  | some last => (change last).map fun changed => items.dropLast ++ [changed]
  | none => none

/-- Whether a dotted key may pass through a table, given whether it ends there. -/
def Origin.admits (origin : Origin) (ends : Bool) : Bool :=
  match origin with
  | .dotted => true
  | .implicit => !ends
  | .inline | .header => false

def assign (value : Value) : List String → Rows → Option Rows
  | [], _ => none
  | [key], rows =>
    match rows.lookup key with
    | none => some (rows ++ [(key, value)])
    | some _ => none
  | key :: next :: more, rows =>
    match rows.lookup key with
    | none =>
      (assign value (next :: more) []).map fun inner => rows ++ [(key, .table .dotted inner)]
    | some (.table origin inner) =>
      if origin.admits more.isEmpty then
        (assign value (next :: more) inner).map fun inner => rows.set key (.table origin inner)
      else none
    | some (.tables items) =>
      if more.isEmpty then none
      else
        (changeLast (assign value (next :: more)) items).map fun items =>
          rows.set key (.tables items)
    | some _ => none

/-- Walks to the table that holds the last key of a header, and changes its rows. -/
def openAt (change : String → Rows → Option Rows) : List String → Rows → Option Rows
  | [], _ => none
  | [key], rows => change key rows
  | key :: next :: more, rows =>
    match rows.lookup key with
    | none =>
      (openAt change (next :: more) []).map fun inner => rows ++ [(key, .table .implicit inner)]
    | some (.table origin inner) =>
      if origin = .inline then none
      else (openAt change (next :: more) inner).map fun inner => rows.set key (.table origin inner)
    | some (.tables items) =>
      (changeLast (openAt change (next :: more)) items).map fun items =>
        rows.set key (.tables items)
    | some _ => none

def openTable (path : List String) (rows : Rows) : Option Rows :=
  openAt (fun key rows =>
    match rows.lookup key with
    | none => some (rows ++ [(key, .table .header [])])
    | some (.table .implicit inner) => some (rows.set key (.table .header inner))
    | some _ => none) path rows

def openArrayTable (path : List String) (rows : Rows) : Option Rows :=
  openAt (fun key rows =>
    match rows.lookup key with
    | none => some (rows ++ [(key, .tables [[]])])
    | some (.tables items) => some (rows.set key (.tables (items ++ [[]])))
    | some _ => none) path rows

/-- Gives a key a value in the table that the last header opened. -/
def assignUnder (header key : List String) (value : Value) : Rows → Option Rows :=
  match header with
  | [] => assign value key
  | name :: more => fun rows =>
    match rows.lookup name with
    | some (.table origin inner) =>
      (assignUnder more key value inner).map fun inner => rows.set name (.table origin inner)
    | some (.tables items) =>
      (changeLast (assignUnder more key value) items).map fun items => rows.set name (.tables items)
    | _ => none

end PageAssets.Toml
