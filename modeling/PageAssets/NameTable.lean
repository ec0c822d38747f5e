import PageAssets.Lookup

/-! Tables from names to values, kept in increasing order of the names. Main statement: a name
shows the value it was given last, and giving it changes no other name. -/

namespace PageAssets

/-- Each name occurs once, and the rows are in increasing order. -/
structure NameTable (α : Type) where
  rows : List (String × α)
  increasing : rows.Pairwise fun first second => first.1 < second.1

namespace NameTable

variable {α β : Type}

def empty : NameTable α := ⟨[], List.Pairwise.nil⟩

def get? (table : NameTable α) (name : String) : Option α := table.rows.lookup name

def contains (table : NameTable α) (name : String) : Bool := (table.get? name).isSome

def names (table : NameTable α) : List String := table.rows.map Prod.fst

/-- Puts a row at its place, instead of the row of the same name. -/
def insertRow (name : String) (value : α) : List (String × α) → List (String × α)
  | [] => [(name, value)]
  | row :: rest =>
    if name = row.1 then (name, value) :: rest
    else if name < row.1 then (name, value) :: row :: rest
    else row :: insertRow name value rest

theorem mem_insertRow {name : String} {value : α} {rows : List (String × α)} {row : String × α}
    (member : row ∈ insertRow name value rows) : row = (name, value) ∨ row ∈ rows := by
  induction rows with
  | nil => simpa [insertRow] using member
  | cons first rest ih =>
    rw [insertRow] at member
    split at member
    · grind
    · split at member <;> grind

theorem increasing_insertRow {name : String} {value : α} {rows : List (String × α)}
    (sorted : rows.Pairwise fun first second => first.1 < second.1) :
    (insertRow name value rows).Pairwise fun first second => first.1 < second.1 := by
  induction rows with
  | nil => simp [insertRow]
  | cons first rest ih =>
    obtain ⟨below, tail⟩ := List.pairwise_cons.1 sorted
    rw [insertRow]
    split
    next same => subst same; exact List.pairwise_cons.2 ⟨below, tail⟩
    next differs =>
      split
      next less =>
        refine List.pairwise_cons.2 ⟨fun row member => ?_, sorted⟩
        rcases List.mem_cons.1 member with rfl | later
        · exact less
        · exact String.lt_trans less (below row later)
      next notLess =>
        refine List.pairwise_cons.2 ⟨fun row member => ?_, ih tail⟩
        rcases mem_insertRow member with rfl | earlier
        · exact String.not_le.1 fun other =>
            differs (String.le_antisymm other (String.not_lt.1 notLess))
        · exact below row earlier

def insert (table : NameTable α) (name : String) (value : α) : NameTable α :=
  ⟨insertRow name value table.rows, increasing_insertRow table.increasing⟩

/-- The table of some rows; of two with one name, the later counts. -/
def ofList (rows : List (String × α)) : NameTable α :=
  rows.foldl (fun table row => table.insert row.1 row.2) empty

theorem get?_insert (table : NameTable α) (name other : String) (value : α) :
    (table.insert name value).get? other =
      if other = name then some value else table.get? other := by
  have found : ∀ rows : List (String × α), (insertRow name value rows).lookup other =
      if other = name then some value else rows.lookup other := by
    intro rows
    induction rows with
    | nil => simp [insertRow, lookup_row]
    | cons row rest ih =>
      rw [insertRow]
      split
      next same => by_cases here : other = name <;> simp [lookup_row, here, ← same]
      next differs =>
        split
        next => simp [lookup_row]
        next =>
          by_cases here : other = row.1
          · simp [lookup_row, here, Ne.symm differs]
          · simp [lookup_row, here, ih]
  exact found table.rows

end NameTable
end PageAssets
