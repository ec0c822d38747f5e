import PageAssets.Proofs.Files.Entries
import PageAssets.Proofs.Files.Faults
import PageAssets.Proofs.Files.Walking
import PageAssets.Proofs.Text.Encoding

/-! Names in a directory that a path leads to. However the path is written, a name that is joined to
it is looked up and made in that directory, and what stands elsewhere makes no difference. -/

namespace PageAssets.Files

/-- Why a name that is joined to a path cannot be looked up, whatever stands in the directory. -/
def FilePath.joinFault? (base : FilePath) (name : String) : Option Cause :=
  match (base.join name).fault? with
  | some cause => some cause
  | none => if maxNameLength < name.utf8ByteSize then some .nameTooLong else none

namespace FileSystem

/-- The path leads to a directory that stands at a location. -/
structure LeadsTo (files : FileSystem) (path : FilePath) (site : Location) : Prop where
  walk : files.walk .find maxLinks files.working false path.steps = .ok (.present site)
  directory : files.isDirectoryAt site = true

def NoLinkAt (files : FileSystem) (location : Location) : Prop :=
  ∀ target, files.get? location ≠ some (.link target)

variable {files other : FileSystem} {base : FilePath} {name : String} {site location : Location}

theorem noLinkAt_of_get? {entry : Entry} (found : files.get? location = some entry) (plain : entry.isLink = false) :
    files.NoLinkAt location := by
  intro target link
  cases found.symm.trans link
  cases plain

theorem noLinkAt_of_isDirectoryAt (directory : files.isDirectoryAt location = true) : files.NoLinkAt location := by
  obtain ⟨mode, found⟩ := isDirectoryAt_iff.mp directory
  exact noLinkAt_of_get? found rfl

theorem noLinkAt_of_entries (plain : ∀ row ∈ files.entries, row.2.isLink = false) (location : Location) :
    files.NoLinkAt location := by
  intro target found
  by_cases top : location = []
  · subst top
    cases found
  · cases plain _ ((get?_eq_some_iff top).mp found)

theorem lastStep_append {steps : List Step} {entered : Name}
    (walked : files.walk .find maxLinks files.working false steps = .ok (.present location))
    (directory : files.isDirectoryAt location = true) :
    files.lastStep (steps ++ [.enter entered]) =
      if maxNameLength < entered.byteSize then .error .nameTooLong else .ok (location, some (.enter entered)) := by
  rw [lastStep, List.dropLast_concat, walked]
  simp only [bind, Except.bind, directory, List.getLast?_concat]
  rfl

namespace LeadsTo

theorem way (led : files.LeadsTo base site) : ∃ left, Way files maxLinks files.working base.steps left site :=
  way_of_walk led.walk

theorem of_way {left : Nat} (way : Way files maxLinks files.working base.steps left site)
    (directory : files.isDirectoryAt site = true) : files.LeadsTo base site :=
  ⟨way.walk_eq false directory, directory⟩

theorem unique {second : Location} (led : files.LeadsTo base site) (again : files.LeadsTo base second) :
    site = second := by
  have same := led.walk.symm.trans again.walk
  cases same
  rfl

/-- The path leads to the same directory wherever the directories and links have stayed. -/
theorem keep (led : files.LeadsTo base site) (kept : KeepsWays files other) (working : other.working = files.working) :
    other.LeadsTo base site := by
  obtain ⟨left, way⟩ := led.way
  have moved := kept.way way led.directory
  rw [← working] at moved
  exact of_way moved (kept.isDirectoryAt led.directory)

theorem current (directory : files.isDirectoryAt files.working = true) : files.LeadsTo .current files.working :=
  of_way (.here directory .stay) directory

theorem exists_find (led : files.LeadsTo base site) (fine : base.fault? = none) :
    ∃ mode, files.find base = .ok (site, .directory mode) := by
  obtain ⟨left, way⟩ := led.way
  obtain ⟨mode, entry⟩ := isDirectoryAt_iff.mp led.directory
  refine ⟨mode, ?_⟩
  rw [find, place, fine]
  simp only [way.walk_eq base.endsInSlash led.directory, bind, Except.bind]
  rw [entry]

theorem walk_join (led : files.LeadsTo base site) (named : IsName name)
    (plain : files.NoLinkAt (site ++ [.text name])) :
    files.walk .find maxLinks files.working false (base.join name).steps =
      if maxNameLength < name.utf8ByteSize then .error .nameTooLong
      else
        match files.get? (site ++ [.text name]) with
        | none => .ok (.absent (site ++ [.text name]))
        | some _ => .ok (.present (site ++ [.text name])) := by
  have creates : (Purpose.find = .create) ↔ False := by simp
  obtain ⟨left, way⟩ := led.way
  rw [FilePath.steps_join named, way.walk_append false (List.cons_ne_nil _ _), FileSystem.walk, if_pos led.directory]
  simp only [creates, decide_false, Bool.false_and, Bool.false_eq_true, ↓reduceIte, Name.byteSize]
  cases found : files.get? (site ++ [.text name]) with
  | none => rfl
  | some entry =>
    cases entry with
    | link target => exact absurd found (plain target)
    | file | directory => simp [FileSystem.walk]

theorem find_join (led : files.LeadsTo base site) (named : IsName name)
    (plain : files.NoLinkAt (site ++ [.text name])) :
    files.find (base.join name) =
      match base.joinFault? name with
      | some cause => .error cause
      | none =>
        match files.get? (site ++ [.text name]) with
        | none => .error .notFound
        | some entry => .ok (site ++ [.text name], entry) := by
  unfold find place FilePath.joinFault?
  rw [FilePath.endsInSlash_join named, led.walk_join named plain]
  cases (base.join name).fault? with
  | some cause => rfl
  | none =>
    by_cases long : maxNameLength < name.utf8ByteSize
    · simp [long, bind, Except.bind]
    · cases found : files.get? (site ++ [.text name]) <;> simp [long, found, bind, Except.bind]

theorem read_join (led : files.LeadsTo base site) (named : IsName name)
    (plain : files.NoLinkAt (site ++ [.text name])) :
    files.read (base.join name) =
      match base.joinFault? name with
      | some cause => .error cause
      | none =>
        match files.get? (site ++ [.text name]) with
        | none => .error .notFound
        | some (.file content _) =>
          match String.fromUTF8? content with
          | some text => .ok text
          | none => .error .notText
        | some _ => .error .isADirectory := by
  rw [read, led.find_join named plain]
  cases base.joinFault? name with
  | some cause => rfl
  | none =>
    cases files.get? (site ++ [.text name]) with
    | none => rfl
    | some entry => cases entry <;> rfl

theorem get?_of_read {text : String} (led : files.LeadsTo base site) (named : IsName name)
    (plain : files.NoLinkAt (site ++ [.text name])) (found : files.read (base.join name) = .ok text) :
    ∃ mode, files.get? (site ++ [.text name]) = some (.file text.toUTF8 mode) := by
  rw [led.read_join named plain] at found
  split at found
  next => cases found
  next =>
    split at found
    next => cases found
    next content mode there =>
      split at found
      next read =>
        cases found
        exact ⟨mode, Text.fromUTF8?_eq_some_iff.mp read ▸ there⟩
      next => cases found
    next => cases found

/-- A directory of the directory that a path leads to is led to by the joined path. -/
theorem join (led : files.LeadsTo base site) (named : IsName name) (short : name.utf8ByteSize ≤ maxNameLength)
    (directory : files.isDirectoryAt (site ++ [.text name]) = true) :
    files.LeadsTo (base.join name) (site ++ [.text name]) := by
  refine ⟨?_, directory⟩
  obtain ⟨mode, there⟩ := isDirectoryAt_iff.mp directory
  rw [led.walk_join named (noLinkAt_of_isDirectoryAt directory), there, if_neg (Nat.not_lt.mpr short)]

/-- Without a link at the name, a joined path that leads to a directory leads to the one of that name. -/
theorem isDirectoryAt_of_join {place : Location} (led : files.LeadsTo base site) (named : IsName name)
    (plain : files.NoLinkAt (site ++ [.text name])) (joined : files.LeadsTo (base.join name) place) :
    files.isDirectoryAt (site ++ [.text name]) = true := by
  have walked := led.walk_join named plain
  rw [joined.walk] at walked
  split at walked
  next => cases walked
  next =>
    split at walked
    next => cases walked
    next =>
      cases walked
      exact joined.directory

theorem lastStep_join (led : files.LeadsTo base site) (named : IsName name) :
    files.lastStep (base.join name).steps =
      if maxNameLength < name.utf8ByteSize then .error .nameTooLong
      else .ok (site, some (.enter (.text name))) := by
  rw [FilePath.steps_join named, lastStep_append led.walk led.directory]
  rfl

end LeadsTo

theorem find_ok {path : FilePath} {entry : Entry} (found : files.find path = .ok (location, entry)) :
    files.walk .find maxLinks files.working path.endsInSlash path.steps = .ok (.present location) ∧
      files.get? location = some entry := by
  rw [find, place] at found
  cases fault : path.fault? with
  | some cause =>
    rw [fault] at found
    cases found
  | none =>
    simp only [fault] at found
    cases walked : files.walk .find maxLinks files.working path.endsInSlash path.steps with
    | error cause =>
      rw [walked] at found
      cases found
    | ok place =>
      rw [walked] at found
      cases place with
      | absent place => cases found
      | present place =>
        simp only [bind, Except.bind] at found
        split at found
        next => cases found
        next there =>
          cases found
          exact ⟨rfl, there⟩

/-- What is found under a joined name is found in the directory that the path before it leads to. -/
theorem exists_leadsTo {entry : Entry} (named : IsName name)
    (found : files.find (base.join name) = .ok (location, entry)) : ∃ site, files.LeadsTo base site := by
  obtain ⟨last, way⟩ := way_of_walk (find_ok found).1
  rw [FilePath.steps_join named] at way
  obtain ⟨left, site, first, second⟩ := way.split
  refine ⟨site, .of_way first ?_⟩
  cases second with
  | enter directory | follow directory => exact directory

/-- Where a path is found to be a directory, it leads there. -/
theorem leadsTo_of_find {mode : Nat} (found : files.find base = .ok (site, .directory mode)) : files.LeadsTo base site := by
  obtain ⟨walked, entry⟩ := find_ok found
  obtain ⟨left, way⟩ := way_of_walk walked
  exact .of_way way (isDirectoryAt_iff.mpr ⟨mode, entry⟩)

end FileSystem

namespace Faults
open FileSystem

variable {faults : Faults} {files : FileSystem} {base : FilePath} {name : String} {site : Location}

theorem read_ok {path : FilePath} {text : String} (found : faults.read files path = .ok text) :
    files.read path = .ok text := by
  rw [read] at found
  split at found
  next => cases found
  next => exact found

theorem exists_leadsTo_of_read {text : String} (named : IsName name)
    (found : faults.read files (base.join name) = .ok text) : ∃ site, files.LeadsTo base site := by
  have found := read_ok found
  rw [FileSystem.read] at found
  cases place : files.find (base.join name) with
  | error cause =>
    rw [place] at found
    cases found
  | ok both => exact exists_leadsTo named place

end Faults
end PageAssets.Files
