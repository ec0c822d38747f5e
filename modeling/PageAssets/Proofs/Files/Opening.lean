import Mathlib.Data.List.Induction
import PageAssets.Proofs.Files.Making

/-! When directories are made. Main statement: asking for a directory succeeds exactly where each step leads to
one already or enters a name that is free by then, and what has been made are the directories at these names. -/

namespace PageAssets.Files
namespace FileSystem

variable {files now after : FileSystem} {steps more : List Step} {step : Step} {name : Name} {location : Location}

theorem leadsToDirectory_of_append (leads : files.leadsToDirectory (steps ++ more) = true) :
    files.leadsToDirectory steps = true := by
  obtain ⟨goal, walked, there⟩ := leadsToDirectory_iff.mp leads
  obtain ⟨last, way⟩ := way_of_walk walked
  obtain ⟨left, location, first, second⟩ := way.split
  have directory := second.starts there
  exact leadsToDirectory_iff.mpr ⟨location, first.walk_eq false directory, directory⟩

theorem makeDirectory_of_free (walked : files.walk .find maxLinks files.working false steps = .ok (.present location))
    (directory : files.isDirectoryAt location = true) (short : name.byteSize ≤ maxNameLength)
    (free : files.get? (location ++ [name]) = none) :
    files.makeDirectory (steps ++ [.enter name]) =
      .ok (files.put (location ++ [name]) (.directory directoryMode)) := by
  rw [makeDirectory, lastStep_append walked directory, if_neg (Nat.not_lt.mpr short)]
  simp only [bind, Except.bind, free]

theorem makeDirectory_of_leads (leads : files.leadsToDirectory steps = true) :
    files.makeDirectory steps = .error .alreadyExists := by
  obtain ⟨goal, walked, there⟩ := leadsToDirectory_iff.mp leads
  rcases List.eq_nil_or_concat steps with rfl | ⟨front, step, rfl⟩
  · obtain ⟨last, way⟩ := way_of_walk walked
    cases way
    simp [makeDirectory, lastStep, walk, bind, Except.bind, there]
  · rw [List.concat_eq_append] at walked leads ⊢
    obtain ⟨last, way⟩ := way_of_walk walked
    obtain ⟨left, location, first, second⟩ := way.split
    have directory := second.starts there
    have early := first.walk_eq false directory
    cases step with
    | enter name =>
      rw [makeDirectory, lastStep_append early directory]
      cases second with
      | enter _ short found | follow _ short found =>
        rw [if_neg (Nat.not_lt.mpr short)]
        simp only [bind, Except.bind, found]
    | top | here | up =>
      rw [makeDirectory, lastStep, List.dropLast_concat, early]
      simp [bind, Except.bind, directory]

/-- Behind a name that is missing nothing can be made. -/
theorem makeDirectory_of_missing (walked : files.walk .find maxLinks files.working false steps = .ok (.present location))
    (directory : files.isDirectoryAt location = true) (short : name.byteSize ≤ maxNameLength)
    (free : files.get? (location ++ [name]) = none) (further : more ≠ []) :
    files.makeDirectory (steps ++ .enter name :: more) = .error .notFound := by
  have creates : (Purpose.find = .create) ↔ False := by simp
  obtain ⟨left, way⟩ := way_of_walk walked
  have ends : (steps ++ .enter name :: more).dropLast = steps ++ .enter name :: more.dropLast := by
    rw [List.dropLast_append_cons, List.dropLast_cons_of_ne_nil further]
  rw [makeDirectory, lastStep, ends, way.walk_append false (List.cons_ne_nil _ _), walk, if_pos directory]
  simp only [creates, decide_false, Bool.false_and, Bool.false_eq_true, ↓reduceIte, Nat.not_lt.mpr short, free,
    Bool.not_false, Bool.and_true]
  cases more.dropLast.isEmpty <;> rfl

/-- Some steps are taken one after the other, and directories are made on the way. A step leads to a directory
already, or it enters a free name and a directory is made there. -/
inductive Opened (files : FileSystem) : List Step → FileSystem → Prop where
  | start (directory : files.isDirectoryAt files.working = true) : Opened files [] files
  | there {steps : List Step} {step : Step} {now : FileSystem} (opened : Opened files steps now)
      (leads : now.leadsToDirectory (steps ++ [step]) = true) : Opened files (steps ++ [step]) now
  | made {steps : List Step} {name : Name} {now : FileSystem} {location : Location} (opened : Opened files steps now)
      (walked : now.walk .find maxLinks now.working false steps = .ok (.present location))
      (directory : now.isDirectoryAt location = true) (short : name.byteSize ≤ maxNameLength)
      (free : now.get? (location ++ [name]) = none) :
      Opened files (steps ++ [.enter name]) (now.put (location ++ [name]) (.directory directoryMode))

namespace Opened

/-- Where the steps lead to a directory, nothing is made. -/
theorem of_leads (leads : files.leadsToDirectory steps = true) : Opened files steps files := by
  induction steps using List.reverseRecOn with
  | nil =>
    obtain ⟨goal, walked, there⟩ := leadsToDirectory_iff.mp leads
    obtain ⟨last, way⟩ := way_of_walk walked
    cases way
    exact .start there
  | append_singleton front step ih => exact .there (ih (leadsToDirectory_of_append leads)) leads

/-- As long as nothing has been made, the steps lead to a directory; behind what has been made, nothing was found. -/
theorem cases_first (opened : Opened files steps now) :
    now = files ∧ files.leadsToDirectory steps = true ∨
      ∀ more ≠ [], files.makeDirectory (steps ++ more) = .error .notFound := by
  induction opened with
  | start directory => exact .inl ⟨rfl, leadsToDirectory_iff.mpr ⟨_, by simp [walk], directory⟩⟩
  | @there steps step now opened leads ih =>
    rcases ih with ⟨rfl, -⟩ | missing
    · exact .inl ⟨rfl, leads⟩
    · refine .inr fun more _ => ?_
      rw [List.append_assoc]
      exact missing _ (by simp)
  | @made steps name now location opened walked directory short free ih =>
    refine .inr fun more further => ?_
    rw [List.append_assoc, List.singleton_append]
    rcases ih with ⟨rfl, -⟩ | missing
    · exact makeDirectory_of_missing walked directory short free further
    · exact missing _ (List.cons_ne_nil _ _)

theorem leads (opened : Opened files steps now) : now.leadsToDirectory steps = true := by
  cases opened with
  | start directory => exact leadsToDirectory_iff.mpr ⟨_, by simp [walk], directory⟩
  | there opened leads => exact leads
  | made opened walked directory short free =>
    exact (makeDirectory_makesWay (makeDirectory_of_free walked directory short free)).leads trivial

/-- The last step is taken in what the steps before it have left. -/
theorem ensureDirectories_append (opened : Opened files steps now)
    (done : files.ensureDirectories steps = (.ok (), now))
    (last : now.ensureDirectory (steps ++ [step]) = (.ok (), after)) :
    files.ensureDirectories (steps ++ [step]) = (.ok (), after) := by
  rw [FileSystem.ensureDirectories]
  split
  next => simp [done, last]
  next found =>
    rcases opened.cases_first with ⟨rfl, -⟩ | missing
    · exact last
    · exact absurd (missing _ (List.cons_ne_nil step [])) found

theorem ensureDirectory_of_leads (leads : files.leadsToDirectory steps = true) :
    files.ensureDirectory steps = (.ok (), files) := by
  rw [ensureDirectory, makeDirectory_of_leads leads]
  simp [leads]

theorem ensureDirectories (opened : Opened files steps now) : files.ensureDirectories steps = (.ok (), now) := by
  induction opened with
  | start directory =>
    have leads := (start directory).leads
    rw [FileSystem.ensureDirectories, makeDirectory_of_leads leads]
    exact ensureDirectory_of_leads leads
  | there opened leads ih => exact opened.ensureDirectories_append ih (ensureDirectory_of_leads leads)
  | made opened walked directory short free ih =>
    refine opened.ensureDirectories_append ih ?_
    rw [ensureDirectory, makeDirectory_of_free walked directory short free]

end Opened

theorem ensureDirectory_ok (done : files.ensureDirectory steps = (.ok (), after)) :
    files.leadsToDirectory steps = true ∧ after = files ∨
      files.makeDirectory steps = .ok after := by
  rw [ensureDirectory] at done
  cases made : files.makeDirectory steps with
  | ok other =>
    rw [made] at done
    cases done
    exact .inr rfl
  | error cause =>
    rw [made] at done
    dsimp only at done
    split at done
    next leads =>
      cases done
      exact .inl ⟨leads, rfl⟩
    next => cases done

theorem opened_of_ensureDirectories (done : files.ensureDirectories steps = (.ok (), now)) : Opened files steps now := by
  fun_induction files.ensureDirectories steps generalizing now with
  | case1 => cases done
  | case2 => cases done
  | case3 steps lost longer after opened ih =>
    rcases ensureDirectory_ok done with ⟨leads, rfl⟩ | made
    · rw [← List.dropLast_append_getLast longer] at leads ⊢
      exact .there (ih opened) leads
    · obtain ⟨front, location, entered, rfl, walked, directory, short, free, rfl⟩ := makeDirectory_ok made
      rw [List.dropLast_concat] at ih opened
      exact .made (ih opened) walked directory short free
  | case4 steps found =>
    rcases ensureDirectory_ok done with ⟨leads, rfl⟩ | made
    · exact .of_leads leads
    · obtain ⟨front, location, entered, rfl, walked, directory, short, free, rfl⟩ := makeDirectory_ok made
      exact .made (.of_leads (leadsToDirectory_iff.mpr ⟨location, walked, directory⟩)) walked directory short free

theorem ensureDirectories_ok_iff : files.ensureDirectories steps = (.ok (), now) ↔ Opened files steps now :=
  ⟨opened_of_ensureDirectories, Opened.ensureDirectories⟩

/-- Names that are missing one below the other are all made, as long as each is short enough. -/
theorem Opened.exists_missing {names : List Name} (opened : Opened files steps now)
    (walked : now.walk .find maxLinks now.working false steps = .ok (.present location))
    (directory : now.isDirectoryAt location = true) (short : ∀ name ∈ names, name.byteSize ≤ maxNameLength)
    (free : ∀ front, front <+: names → front ≠ [] → now.get? (location ++ front) = none) :
    ∃ after, Opened files (steps ++ names.map .enter) after ∧ KeepsWays now after ∧
      ∀ front, front <+: names → front ≠ [] → after.get? (location ++ front) = some (.directory directoryMode) := by
  induction names generalizing steps now location with
  | nil =>
    refine ⟨now, by simpa using opened, .refl now, ?_⟩
    intro front none some
    exact absurd (List.prefix_nil.mp none) some
  | cons name rest ih =>
    have absent : now.get? (location ++ [name]) = none := free [name] (List.prefix_append [name] rest) (by simp)
    have fits := short name List.mem_cons_self
    have found : (now.put (location ++ [name]) (.directory directoryMode)).get? (location ++ [name]) =
        some (.directory directoryMode) := get?_put_self (by simp)
    have there := isDirectoryAt_iff.mpr ⟨_, found⟩
    obtain ⟨left, way⟩ := way_of_walk walked
    have below (front : Location) (early : front <+: rest) (some : front ≠ []) :
        (now.put (location ++ [name]) (.directory directoryMode)).get? (location ++ [name] ++ front) = none := by
      rw [get?_put_of_ne (by simpa using some), List.append_assoc]
      exact free _ (List.cons_prefix_cons.mpr ⟨rfl, early⟩) (by simp)
    obtain ⟨after, whole, kept, made⟩ := ih (opened.made walked directory fits absent)
      ((way.make directory fits absent).walk_eq false there) there
      (fun other later => short other (List.mem_cons_of_mem _ later)) below
    refine ⟨after, by simpa using whole, (KeepsWays.put_of_absent absent _).trans kept, ?_⟩
    intro front early some
    obtain ⟨first, behind, rfl⟩ := List.exists_cons_of_ne_nil some
    obtain ⟨rfl, inside⟩ := List.cons_prefix_cons.mp early
    by_cases last : behind = []
    · subst last
      exact kept _ _ found rfl
    · simpa using made behind inside last

end FileSystem

namespace Faults
open FileSystem

variable {faults : Faults} {files made : FileSystem} {path : FilePath}

/-- The directories of a path are there and nothing has kept them from being made. The empty path asks for none. -/
structure DirectoriesMade (faults : Faults) (files : FileSystem) (path : FilePath) (made : FileSystem) : Prop where
  making : faults.making path = .none
  opened : if path.isEmpty then made = files else path.fault? = .none ∧ Opened files path.steps made

theorem makeDirectories_ok_iff :
    faults.makeDirectories files path = (.ok (), made) ↔ DirectoriesMade faults files path made := by
  have split : DirectoriesMade faults files path made ↔ faults.making path = .none ∧
      if path.isEmpty then made = files else path.fault? = .none ∧ Opened files path.steps made :=
    ⟨fun opened => ⟨opened.making, opened.opened⟩, fun opened => ⟨opened.1, opened.2⟩⟩
  rw [split, makeDirectories]
  cases faults.making path with
  | some cause => simp
  | none =>
    dsimp only
    rw [FileSystem.makeDirectories]
    cases path.isEmpty with
    | true => simp [eq_comm]
    | false =>
      cases path.fault? with
      | some cause => simp
      | none => simp [ensureDirectories_ok_iff]

end Faults
end PageAssets.Files
