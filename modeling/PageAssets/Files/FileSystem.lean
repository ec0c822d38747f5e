import PageAssets.Files.FilePath
import PageAssets.Lookup

/-! A file system as a finite table of what stands where, with the directory that relative paths
start from. The top is always a directory. Files and directories have permissions. Main statements:
a location shows what was put there last, and every other location shows what it showed before. -/

namespace PageAssets.Files

abbrev Location := List Name

inductive Entry where
  | file (content : ByteArray) (mode : Nat)
  | directory (mode : Nat)
  | link (target : FilePath)
  deriving DecidableEq

namespace Entry

def isDirectory : Entry → Bool
  | directory _ => true
  | _ => false

/-- A link itself has every permission. -/
def permissions : Entry → Nat
  | file _ mode | directory mode => mode
  | link _ => 0o777

end Entry

def defaultMode : Nat := 0o644

/-- The permissions of a directory when it is made. -/
def directoryMode : Nat := 0o755

/-- Only the nine bits for reading, writing and executing count as permissions. -/
def permissionBits : Nat := 0o1000

/-- No location is listed twice. The top has permissions too. -/
structure FileSystem where
  working : Location
  entries : List (Location × Entry)
  distinct : (entries.map Prod.fst).Nodup
  topMode : Nat := directoryMode

namespace FileSystem

def empty : FileSystem where
  working := []
  entries := []
  distinct := List.nodup_nil

/-- What stands at a location. The top is always a directory. -/
def get? (files : FileSystem) (location : Location) : Option Entry :=
  if location = [] then some (.directory files.topMode) else files.entries.lookup location

def isDirectoryAt (files : FileSystem) (location : Location) : Bool :=
  (files.get? location).any Entry.isDirectory

def filter (files : FileSystem) (keep : Location → Bool) : FileSystem where
  working := files.working
  topMode := files.topMode
  entries := files.entries.filter fun row => keep row.1
  distinct := files.distinct.sublist (List.filter_sublist.map _)

def erase (files : FileSystem) (location : Location) : FileSystem :=
  files.filter (· != location)

def eraseTree (files : FileSystem) (location : Location) : FileSystem :=
  files.filter (!location.isPrefixOf ·)

def put (files : FileSystem) (location : Location) (entry : Entry) : FileSystem where
  working := files.working
  topMode := files.topMode
  entries := (location, entry) :: (files.erase location).entries
  distinct := by
    rw [List.map_cons, List.nodup_cons]
    refine ⟨fun member => ?_, (files.erase location).distinct⟩
    obtain ⟨row, kept, same⟩ := List.mem_map.1 member
    simp [erase, filter] at kept
    exact kept.2 same

def children (files : FileSystem) (location : Location) : List (Name × Entry) :=
  files.entries.filterMap fun row =>
    match row.1.getLast? with
    | some name => if row.1.dropLast = location then some (name, row.2) else none
    | none => none

/-- A location as seen from the working directory, if it stands there or below. -/
def below? (files : FileSystem) (location : Location) : Option Location :=
  if files.working.isPrefixOf location then some (location.drop files.working.length) else none

/-- The locations below the working directory that differ between two file systems, as seen from
there, with what stands there in the second. -/
def changes (before after : FileSystem) : List (Location × Option Entry) :=
  let gone := before.entries.filterMap fun row =>
    if after.get? row.1 = none then some (row.1, none) else none
  let new := after.entries.filterMap fun row =>
    if before.get? row.1 = some row.2 then none else some (row.1, some row.2)
  (gone ++ new).filterMap fun (location, state) =>
    (before.below? location).map fun below => (below, state)

private theorem lookup_filter_self {rows : List (Location × Entry)} {location : Location} :
    (rows.filter fun row => row.1 != location).lookup location = none := by
  induction rows with
  | nil => rfl
  | cons row rest ih =>
    by_cases same : row.1 = location
    · simp [same, ih]
    · simp [same, lookup_row, Ne.symm same, ih]

private theorem lookup_filter_of_keep (rows : List (Location × Entry)) (keep : Location → Bool)
    {location : Location} (kept : keep location = true) :
    (rows.filter fun row => keep row.1).lookup location = rows.lookup location := by
  induction rows with
  | nil => rfl
  | cons row rest ih =>
    by_cases same : location = row.1
    · subst same
      simp [kept, lookup_row]
    · cases held : keep row.1 <;> simp [held, lookup_row, same, ih]

theorem isDirectory_iff {entry : Entry} : entry.isDirectory = true ↔ ∃ mode, entry = .directory mode := by
  cases entry <;> simp [Entry.isDirectory]

theorem isDirectoryAt_iff {files : FileSystem} {location : Location} :
    files.isDirectoryAt location = true ↔ ∃ mode, files.get? location = some (.directory mode) := by
  cases found : files.get? location <;> simp [isDirectoryAt, found, isDirectory_iff]

theorem get?_erase_self {files : FileSystem} {location : Location} (below : location ≠ []) :
    (files.erase location).get? location = none := by
  simp [get?, below, erase, filter, lookup_filter_self]

theorem get?_erase_of_ne {files : FileSystem} {location other : Location}
    (differs : other ≠ location) : (files.erase location).get? other = files.get? other := by
  have kept : (other != location) = true := by simpa using differs
  have same : (files.entries.filter fun row => row.1 != location).lookup other =
      files.entries.lookup other := lookup_filter_of_keep _ (· != location) kept
  simp [get?, erase, filter, same]

theorem get?_put_self {files : FileSystem} {location : Location} {entry : Entry}
    (below : location ≠ []) : (files.put location entry).get? location = some entry := by
  simp [get?, put, below]

theorem get?_put_of_ne {files : FileSystem} {location other : Location} {entry : Entry}
    (differs : other ≠ location) : (files.put location entry).get? other = files.get? other := by
  have kept : (files.erase location).get? other = files.get? other := get?_erase_of_ne differs
  have top : (files.erase location).topMode = files.topMode := rfl
  rw [← kept]
  simp [get?, put, lookup_row, differs, top]

end FileSystem
end PageAssets.Files
