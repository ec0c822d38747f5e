/-! Looking up a key in a list of rows. The first row with the key counts. -/

namespace PageAssets

theorem lookup_row {Key Value : Type} [BEq Key] [LawfulBEq Key] [DecidableEq Key] (row : Key × Value)
    (rest : List (Key × Value)) (key : Key) :
    (row :: rest).lookup key = if key = row.1 then some row.2 else rest.lookup key := by
  obtain ⟨first, value⟩ := row
  rw [List.lookup_cons]
  by_cases same : key = first
  · simp [same]
  · have apart : (key == first) = false := by simpa using same
    simp [same, apart]

end PageAssets
