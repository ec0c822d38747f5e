import Mathlib.Data.List.Nodup
import PageAssets.Files.Operation

/-! What the table of a file system says about a location, and what a directory holds. Taking away
what was put at a free location gives back the file system as it was. -/

namespace PageAssets.Files.FileSystem

variable {files : FileSystem} {location : Location}

theorem lookup_eq_some_iff {rows : List (Location × Entry)} {entry : Entry} (distinct : (rows.map Prod.fst).Nodup) :
    rows.lookup location = some entry ↔ (location, entry) ∈ rows := by
  induction rows with
  | nil => simp
  | cons row rest ih =>
    obtain ⟨place, first⟩ := row
    rw [List.map_cons, List.nodup_cons] at distinct
    rw [List.lookup_cons, List.mem_cons, ← ih distinct.2]
    by_cases same : location = place
    · subst same
      have later : rest.lookup location ≠ some entry := by
        intro found
        exact distinct.1 (List.mem_map.mpr ⟨_, (ih distinct.2).mp found, rfl⟩)
      simp [later, eq_comm]
    · have apart : (location == place) = false := by simpa using same
      simp [apart, same]

theorem get?_eq_some_iff {entry : Entry} (below : location ≠ []) :
    files.get? location = some entry ↔ (location, entry) ∈ files.entries := by
  rw [get?, if_neg below, lookup_eq_some_iff files.distinct]

theorem mem_children_iff {name : Name} {entry : Entry} :
    (name, entry) ∈ files.children location ↔ files.get? (location ++ [name]) = some entry := by
  rw [get?_eq_some_iff (by simp), children, List.mem_filterMap]
  constructor
  · rintro ⟨⟨place, found⟩, listed, shown⟩
    dsimp only at shown
    split at shown
    next last ends =>
      split at shown
      next inside =>
        obtain ⟨rfl, rfl⟩ := Prod.mk.inj (Option.some.inj shown)
        obtain ⟨front, rfl⟩ := List.getLast?_eq_some_iff.mp ends
        rw [List.dropLast_concat] at inside
        exact inside ▸ listed
      next => cases shown
    next => cases shown
  · intro listed
    exact ⟨_, listed, by simp⟩

theorem nodup_children (files : FileSystem) (location : Location) :
    ((files.children location).map Prod.fst).Nodup := by
  have listed : ((files.children location).map fun row => location ++ [row.1]).Sublist
      (files.entries.map Prod.fst) := by
    rw [children]
    induction files.entries with
    | nil => exact .slnil
    | cons row rest ih =>
      rw [List.filterMap_cons, List.map_cons]
      split
      next => exact ih.cons _
      next child shown =>
        split at shown
        next name ends =>
          split at shown
          next inside =>
            cases shown
            obtain ⟨front, same⟩ := List.getLast?_eq_some_iff.mp ends
            have place : location ++ [name] = row.1 := by rw [← inside, same, List.dropLast_concat]
            rw [List.map_cons, place]
            exact ih.cons_cons _
          next => cases shown
        next => cases shown
  have distinct := files.distinct.sublist listed
  have whole : ((files.children location).map Prod.fst).map (fun name => location ++ [name]) =
      (files.children location).map fun row => location ++ [row.1] := List.map_map
  rw [← whole] at distinct
  exact List.Nodup.of_map _ distinct

/-- The top is never free. -/
theorem ne_nil_of_absent (absent : files.get? location = none) : location ≠ [] := by
  rintro rfl
  cases absent

theorem erase_of_absent (absent : files.get? location = none) : files.erase location = files := by
  have below := ne_nil_of_absent absent
  have kept : files.entries.filter (fun row => row.1 != location) = files.entries := by
    rw [List.filter_eq_self]
    rintro ⟨place, entry⟩ listed
    simp only [bne_iff_ne, ne_eq]
    rintro rfl
    exact absurd ((get?_eq_some_iff below).mpr listed) (by simp [absent])
  cases files
  simpa [erase, filter] using kept

theorem erase_put (files : FileSystem) (location : Location) (entry : Entry) :
    (files.put location entry).erase location = files.erase location := by
  simp [erase, put, filter]

/-- Nothing is left of what was put at a free location. -/
theorem erase_put_of_absent (absent : files.get? location = none) (entry : Entry) :
    (files.put location entry).erase location = files := by
  rw [erase_put, erase_of_absent absent]

end PageAssets.Files.FileSystem
