import PageAssets.Proofs.Files.Paths

/-! Ways through a file system. A way that leads to a directory can be taken in stages, so a name that
is joined to a path is looked up in the directory that the path leads to. A way stays open as long
as the directories and links on it stay. -/

namespace PageAssets.Files

namespace Entry

def isLink : Entry → Bool
  | link _ => true
  | _ => false

def isFile : Entry → Bool
  | file _ _ => true
  | _ => false

end Entry

namespace FileSystem

/-- The steps from a location lead to another, through directories and links. The numbers say how
many links may be met, before and after. -/
inductive Way (files : FileSystem) : Nat → Location → List Step → Nat → Location → Prop where
  | stay {links : Nat} {location : Location} : Way files links location [] links location
  | top {links left : Nat} {location goal : Location} {rest : List Step}
      (directory : files.isDirectoryAt location = true) (further : Way files links [] rest left goal) :
      Way files links location (.top :: rest) left goal
  | here {links left : Nat} {location goal : Location} {rest : List Step}
      (directory : files.isDirectoryAt location = true) (further : Way files links location rest left goal) :
      Way files links location (.here :: rest) left goal
  | up {links left : Nat} {location goal : Location} {rest : List Step}
      (directory : files.isDirectoryAt location = true) (further : Way files links location.dropLast rest left goal) :
      Way files links location (.up :: rest) left goal
  | enter {links left : Nat} {location goal : Location} {name : Name} {entry : Entry} {rest : List Step}
      (directory : files.isDirectoryAt location = true) (short : name.byteSize ≤ maxNameLength)
      (found : files.get? (location ++ [name]) = some entry) (plain : entry.isLink = false)
      (further : Way files links (location ++ [name]) rest left goal) :
      Way files links location (.enter name :: rest) left goal
  | follow {links left : Nat} {location goal : Location} {name : Name} {target : FilePath} {rest : List Step}
      (directory : files.isDirectoryAt location = true) (short : name.byteSize ≤ maxNameLength)
      (found : files.get? (location ++ [name]) = some (.link target))
      (further : Way files links location (target.steps ++ rest) left goal) :
      Way files (links + 1) location (.enter name :: rest) left goal

variable {files other : FileSystem} {links left : Nat} {start location goal : Location} {steps more : List Step}

theorem way_of_walk {slash : Bool} (reached : files.walk .find links start slash steps = .ok (.present goal)) :
    ∃ left, Way files links start steps left goal := by
  fun_induction files.walk .find links start slash steps with
  | case2 =>
    cases reached
    exact ⟨_, .stay⟩
  | case3 _ _ _ _ directory ih =>
    obtain ⟨left, further⟩ := ih reached
    exact ⟨left, .top directory further⟩
  | case4 _ _ _ _ directory ih =>
    obtain ⟨left, further⟩ := ih reached
    exact ⟨left, .here directory further⟩
  | case5 _ _ _ _ directory ih =>
    obtain ⟨left, further⟩ := ih reached
    exact ⟨left, .up directory further⟩
  | case11 _ _ _ directory _ _ short _ found _ ih =>
    obtain ⟨left, further⟩ := ih reached
    exact ⟨left, .follow directory (Nat.not_lt.mp short) found further⟩
  | case12 _ _ _ _ directory _ _ short entry plain found ih =>
    obtain ⟨left, further⟩ := ih reached
    refine ⟨left, .enter directory (Nat.not_lt.mp short) found ?_ further⟩
    cases entry with
    | link target => exact absurd rfl (plain target)
    | file | directory => rfl
  | case1 | case6 | case7 | case8 | case9 | case10 | case13 => cases reached

theorem walk_enter {name : Name} {entry : Entry} {rest : List Step} (slash : Bool)
    (directory : files.isDirectoryAt location = true) (short : name.byteSize ≤ maxNameLength)
    (found : files.get? (location ++ [name]) = some entry) (plain : entry.isLink = false) :
    files.walk .find links location slash (.enter name :: rest) =
      files.walk .find links (location ++ [name]) slash rest := by
  have creates : (Purpose.find = .create) ↔ False := by simp
  rw [walk, if_pos directory]
  cases entry with
  | link target => cases plain
  | file content mode | directory => simp [creates, found, Nat.not_lt.mpr short]

theorem walk_follow {name : Name} {target : FilePath} {rest : List Step} (slash : Bool)
    (directory : files.isDirectoryAt location = true) (short : name.byteSize ≤ maxNameLength)
    (found : files.get? (location ++ [name]) = some (.link target)) :
    files.walk .find (links + 1) location slash (.enter name :: rest) =
      files.walk .find links location (slash || (rest.isEmpty && target.endsInSlash)) (target.steps ++ rest) := by
  have creates : (Purpose.find = .create) ↔ False := by simp
  rw [walk, if_pos directory]
  simp [creates, found, Nat.not_lt.mpr short]

namespace Way

theorem starts (way : Way files links start steps left goal) (reached : files.isDirectoryAt goal = true) :
    files.isDirectoryAt start = true := by
  cases way <;> assumption

/-- Behind a way, the rest of the steps is walked from where the way leads. -/
theorem walk_append (way : Way files links start steps left goal) (slash : Bool) (further : more ≠ []) :
    files.walk .find links start slash (steps ++ more) = files.walk .find left goal slash more := by
  induction way with
  | stay => rfl
  | top directory _ ih | here directory _ ih | up directory _ ih =>
    rw [List.cons_append, walk, if_pos directory]
    exact ih
  | enter directory short found plain _ ih =>
    rw [List.cons_append, walk_enter slash directory short found plain]
    exact ih
  | @follow _ _ _ _ _ target rest directory short found _ ih =>
    have some : (rest ++ more).isEmpty = false := by simp [further]
    rw [List.cons_append, walk_follow slash directory short found, some, Bool.false_and, Bool.or_false,
      ← List.append_assoc]
    exact ih

/-- A slash at the end makes no difference to a way that leads to a directory. -/
theorem walk_eq (way : Way files links start steps left goal) (slash : Bool)
    (reached : files.isDirectoryAt goal = true) :
    files.walk .find links start slash steps = .ok (.present goal) := by
  induction way generalizing slash with
  | stay =>
    rw [walk, reached]
    simp
  | top directory _ ih | here directory _ ih | up directory _ ih =>
    rw [walk, if_pos directory]
    exact ih slash reached
  | enter directory short found plain _ ih =>
    rw [walk_enter slash directory short found plain]
    exact ih slash reached
  | follow directory short found _ ih =>
    rw [walk_follow slash directory short found]
    exact ih _ reached

theorem split {last : Nat} (way : Way files links start (steps ++ more) last goal) :
    ∃ left location, Way files links start steps left location ∧ Way files left location more last goal := by
  generalize whole : steps ++ more = all at way
  induction way generalizing steps with
  | stay =>
    obtain ⟨rfl, rfl⟩ := List.append_eq_nil_iff.mp whole
    exact ⟨_, _, .stay, .stay⟩
  | top directory further ih =>
    rcases List.append_eq_cons_iff.mp whole with ⟨rfl, rfl⟩ | ⟨rest, rfl, rfl⟩
    · exact ⟨_, _, .stay, .top directory further⟩
    · obtain ⟨left, location, first, second⟩ := ih rfl
      exact ⟨left, location, .top directory first, second⟩
  | here directory further ih =>
    rcases List.append_eq_cons_iff.mp whole with ⟨rfl, rfl⟩ | ⟨rest, rfl, rfl⟩
    · exact ⟨_, _, .stay, .here directory further⟩
    · obtain ⟨left, location, first, second⟩ := ih rfl
      exact ⟨left, location, .here directory first, second⟩
  | up directory further ih =>
    rcases List.append_eq_cons_iff.mp whole with ⟨rfl, rfl⟩ | ⟨rest, rfl, rfl⟩
    · exact ⟨_, _, .stay, .up directory further⟩
    · obtain ⟨left, location, first, second⟩ := ih rfl
      exact ⟨left, location, .up directory first, second⟩
  | enter directory short found plain further ih =>
    rcases List.append_eq_cons_iff.mp whole with ⟨rfl, rfl⟩ | ⟨rest, rfl, rfl⟩
    · exact ⟨_, _, .stay, .enter directory short found plain further⟩
    · obtain ⟨left, location, first, second⟩ := ih rfl
      exact ⟨left, location, .enter directory short found plain first, second⟩
  | follow directory short found further ih =>
    rcases List.append_eq_cons_iff.mp whole with ⟨rfl, rfl⟩ | ⟨rest, rfl, rfl⟩
    · exact ⟨_, _, .stay, .follow directory short found further⟩
    · obtain ⟨left, location, first, second⟩ := ih (List.append_assoc _ _ _)
      exact ⟨left, location, .follow directory short found first, second⟩

theorem of_idle {count : Nat} (way : Way files links start (List.replicate count .here) left goal) :
    left = links ∧ goal = start := by
  induction count with
  | zero =>
    cases way
    exact ⟨rfl, rfl⟩
  | succ count ih =>
    cases way with
    | here _ further => exact ih further

theorem append {last : Nat} (way : Way files links start steps left location)
    (further : Way files left location more last goal) : Way files links start (steps ++ more) last goal := by
  induction way with
  | stay => exact further
  | top directory _ ih => exact .top directory (ih further)
  | here directory _ ih => exact .here directory (ih further)
  | up directory _ ih => exact .up directory (ih further)
  | enter directory short found plain _ ih => exact .enter directory short found plain (ih further)
  | follow directory short found _ ih =>
    have behind := ih further
    rw [List.append_assoc] at behind
    exact .follow directory short found behind

theorem idle (count : Nat) (directory : files.isDirectoryAt start = true) :
    Way files links start (List.replicate count .here) links start := by
  induction count with
  | zero => exact .stay
  | succ count ih => exact .here directory ih

end Way

/-- What is a directory or a link in one file system is the same in another. -/
def KeepsWays (files other : FileSystem) : Prop :=
  ∀ location entry, files.get? location = some entry → entry.isFile = false → other.get? location = some entry

namespace KeepsWays

theorem refl (files : FileSystem) : KeepsWays files files := fun _ _ found _ => found

theorem trans {last : FileSystem} (first : KeepsWays files other) (second : KeepsWays other last) :
    KeepsWays files last :=
  fun location entry found leads => second location entry (first location entry found leads) leads

/-- Nothing that leads somewhere is lost where only files give way. -/
theorem of_files (kept : ∀ place, other.get? place = files.get? place ∨
    ∀ entry, files.get? place = some entry → ∃ content mode, entry = .file content mode) : KeepsWays files other := by
  intro place entry found leads
  rcases kept place with same | free
  · rw [same, found]
  · obtain ⟨content, mode, rfl⟩ := free entry found
    cases leads

theorem of_others (others : ∀ place, place ≠ location → other.get? place = files.get? place)
    (free : ∀ entry, files.get? location = some entry → ∃ content mode, entry = .file content mode) :
    KeepsWays files other := by
  refine of_files fun place => ?_
  by_cases same : place = location
  · exact .inr (same ▸ free)
  · exact .inl (others place same)

theorem put_of_absent (absent : files.get? location = none) (entry : Entry) :
    KeepsWays files (files.put location entry) :=
  of_others (fun _ apart => get?_put_of_ne apart) (by simp [absent])

theorem isDirectoryAt (kept : KeepsWays files other) (directory : files.isDirectoryAt location = true) :
    other.isDirectoryAt location = true := by
  obtain ⟨mode, found⟩ := isDirectoryAt_iff.mp directory
  exact isDirectoryAt_iff.mpr ⟨mode, kept location _ found rfl⟩

/-- A file can only stand at the end of a way, where nothing starts from it. -/
theorem way (kept : KeepsWays files other) (way : Way files links start steps left goal)
    (reached : files.isDirectoryAt goal = true) : Way other links start steps left goal := by
  induction way with
  | stay => exact .stay
  | top directory _ ih => exact .top (kept.isDirectoryAt directory) (ih reached)
  | here directory _ ih => exact .here (kept.isDirectoryAt directory) (ih reached)
  | up directory _ ih => exact .up (kept.isDirectoryAt directory) (ih reached)
  | enter directory short found plain further ih =>
    obtain ⟨mode, there⟩ := isDirectoryAt_iff.mp (further.starts reached)
    cases found.symm.trans there
    exact .enter (kept.isDirectoryAt directory) short (kept _ _ found rfl) plain (ih reached)
  | follow directory short found further ih =>
    exact .follow (kept.isDirectoryAt directory) short (kept _ _ found rfl) (ih reached)

end KeepsWays

end FileSystem
end PageAssets.Files
